import Bme680.Arithmetic.ExactWords
import Bme680.Driver.RawFrame
import Mathlib.Data.Int.ModEq

/-!
# The compensation functions of the kernel driver

`calc_temperature`, `calc_pressure`, `calc_humidity` and the two gas functions of `bme680.c` turn
raw values into physical ones, in fixed-point arithmetic on words of 32 and 64 bits that wraps
around. A division by zero gives a function no result.

The functions share one field of the driver's state: `calc_temperature` leaves the fine temperature
in `t_fine`, and `calc_pressure` and `calc_humidity` read it there. The pressure depends on its half
only, the humidity on it at a scale of 5 to 256 (`calcPressure_congr`, `calcHumidity_congr`); on the
calibrations `probePressure` and `probeHumidity` the results determine these two values
(`half_of_pressures_eq`, `tempScaled_of_humidities_eq`).
-/

set_option autoImplicit false
set_option relaxedAutoImplicit false

namespace Bme680.Driver

open Arithmetic

/-! ### The functions -/

/-- What the gas functions take from outside the sources: the two tables of the low range, indexed
by the gas range, and the bit of the gas range that selects it. -/
structure GasTables where
  lookupK : UInt8 → UInt32
  lookupM : UInt8 → UInt32
  rangeRlMask : UInt8

/-- `calc_temperature`. -/
def calcTemperature (data : Bme680Data) (tempAdc : Int32) : Bme680Data × Int32 :=
  let var1 : Int64 := ((tempAdc >>> 3) - (data.bme680.parT1.toUInt32.toInt32 <<< 1)).toInt64
  let var2 : Int64 := (var1 * data.bme680.parT2.toInt64) >>> 11
  let var3 : Int64 := ((var1 >>> 1) * (var1 >>> 1)) >>> 12
  let var3 : Int64 := (var3 * (data.bme680.parT3.toInt32 <<< 4).toInt64) >>> 14
  let tFine : Int32 := (var2 + var3).toInt32
  let calcTemp : Int32 := (((tFine * 5) + 128) >>> 8).toInt16.toInt32
  ({ data with tFine := tFine }, calcTemp)

/-- `calc_pressure`. -/
def calcPressure (data : Bme680Data) (pressureAdc : UInt32) : Option UInt32 :=
  let var1 : Int64 := (data.tFine.toInt64 >>> 1) - 64000
  let var2 : Int64 := ((((var1 >>> 2) * (var1 >>> 2)) >>> 11) * data.bme680.parP6.toInt64) >>> 2
  let var2 : Int64 := var2 + ((var1 * data.bme680.parP5.toInt64) <<< 1)
  let var2 : Int64 := (var2 >>> 2) + (data.bme680.parP4.toInt64 <<< 16)
  let var1 : Int64 :=
    (((((var1 >>> 2) * (var1 >>> 2)) >>> 13) * (data.bme680.parP3.toInt64 <<< 5)) >>> 3) +
      ((data.bme680.parP2.toInt64 * var1) >>> 1)
  let var1 : Int64 := var1 >>> 18
  let var1 : Int64 := ((32768 + var1) * data.bme680.parP1.toUInt64.toInt64) >>> 15
  let calcPress : Int64 := ((1048576 : UInt32) - pressureAdc).toUInt64.toInt64
  let calcPress : Int64 := ((calcPress - (var2 >>> 12)) * 3125).toUInt64.toUInt32.toUInt64.toInt64
  if var1 = 0 then none
  else
    let calcPress : Int64 := (calcPress / var1) * 1000
    let var1 : Int64 := (data.bme680.parP9.toInt64 *
      (((calcPress >>> 13) * (calcPress >>> 13)) >>> 12)) >>> 25
    let var2 : Int64 := (data.bme680.parP8.toInt64 * calcPress) >>> 19
    let var3 : Int64 := (data.bme680.parP10.toUInt64.toInt64 * calcPress) >>> 48
    let calcPress : Int64 := calcPress +
      ((var1 + var2 + var3 + (data.bme680.parP7.toInt64 <<< 7)) >>> 4)
    some calcPress.toUInt64.toUInt32

/-- The temperature as `calc_humidity` scales it. -/
def tempScaled (tFine : Int32) : Int32 :=
  ((tFine * 5) + 128) >>> 8

/-- `calc_humidity`. -/
def calcHumidity (data : Bme680Data) (humidAdc : UInt16) : UInt32 :=
  let tempScaled : Int32 := tempScaled data.tFine
  let var1 : Int32 := (humidAdc.toUInt32.toInt32 - (data.bme680.parH1.toUInt32.toInt32 * 16)) -
    (((tempScaled * data.bme680.parH3.toInt32) / (100 : Int32)) >>> (1 : Int32))
  let var2 : Int32 := (data.bme680.parH2.toUInt32.toInt32 *
    (((tempScaled * data.bme680.parH4.toInt32) / (100 : Int32)) +
      (((tempScaled * ((tempScaled * data.bme680.parH5.toInt32) / (100 : Int32))) >>>
        (6 : Int32)) / (100 : Int32)) +
      ((1 : Int32) <<< (14 : Int32)))) >>> 10
  let var3 : Int32 := var1 * var2
  let var4 : Int32 := data.bme680.parH6.toUInt32.toInt32 <<< 7
  let var4 : Int32 := (var4 + ((tempScaled * data.bme680.parH7.toInt32) / 100)) >>> 4
  let var5 : Int32 := ((var3 >>> 14) * (var3 >>> 14)) >>> 10
  let var6 : Int32 := (var4 * var5) >>> 1
  let calcHum : Int32 := (((var3 + var6) >>> 10) * 1000) >>> 12
  if calcHum > 100000 then 100000
  else if calcHum < 0 then 0
  else calcHum.toUInt32

/-- `calc_gas_resistance_low`. -/
def calcGasResistanceLow (tables : GasTables) (data : Bme680Data) (gasAdc : UInt16)
    (gasRange : UInt8) : Option UInt32 :=
  let var1 : Int64 := ((1340 + (5 * data.bme680.rangeSwErr.toInt64)) *
    (tables.lookupK gasRange).toUInt64.toInt64) >>> 16
  let var2 : Int64 := ((gasAdc.toUInt64.toInt64 <<< 15) - 16777216) + var1
  let var3 : Int64 := ((tables.lookupM gasRange).toUInt64.toInt64 * var1) >>> 9
  if var2 = 0 then none
  else some ((var3 + (var2 >>> 1)) / var2).toUInt64.toUInt32

/-- `calc_gas_resistance_high`. -/
def calcGasResistanceHigh (data : Bme680Data) (gasAdc : UInt16) (gasRange : UInt8) :
    Option UInt32 :=
  let var2 : UInt32 := (262144 : UInt32) >>> gasRange.toUInt32
  let var1 : UInt64 := gasAdc.toUInt64 * 512 - 512
  let var3 : UInt32 := (var1 * var2.toUInt64 / 3).toUInt32
  let gh1 : UInt32 := data.bme680.parGh1.toInt32.toUInt32
  if gh1 = 0 then none else some (var3 * 100 / gh1)

/-! ### What the functions depend on -/

/-- Half of a word, as the pressure uses the fine temperature. -/
theorem toInt_half (word : Int32) : (word.toInt64 >>> 1).toInt = word.toInt / 2 :=
  toInt_shr64 (Int32.toInt_toInt64 word) (by decide) (by decide)

/-- The range of the half of a word. -/
theorem half_range (word : Int32) :
    -1073741824 ≤ word.toInt / 2 ∧ word.toInt / 2 ≤ 1073741823 := by
  obtain ⟨hlow, hhigh⟩ := range32 word
  omega

/-- The pressure depends on the fine temperature through its half. -/
theorem calcPressure_congr {first second : Bme680Data} (hcalib : first.bme680 = second.bme680)
    (hhalf : first.tFine.toInt / 2 = second.tFine.toInt / 2) (pressureAdc : UInt32) :
    calcPressure first pressureAdc = calcPressure second pressureAdc := by
  have hword : first.tFine.toInt64 >>> 1 = second.tFine.toInt64 >>> 1 :=
    Int64.toInt_inj.mp ((toInt_half _).trans (hhalf.trans (toInt_half _).symm))
  simp only [calcPressure, hcalib, hword]

/-- The humidity depends on the fine temperature through its scaled value. -/
theorem calcHumidity_congr {first second : Bme680Data} (hcalib : first.bme680 = second.bme680)
    (hscaled : tempScaled first.tFine = tempScaled second.tFine) (humidAdc : UInt16) :
    calcHumidity first humidAdc = calcHumidity second humidAdc := by
  simp only [calcHumidity, hcalib, hscaled]

/-- Two calibrations with the same parameters of the temperature. -/
def Bme680Calib.SameTemperature (first second : Bme680Calib) : Prop :=
  first.parT1 = second.parT1 ∧ first.parT2 = second.parT2 ∧ first.parT3 = second.parT3

/-- The fine temperature that `calc_temperature` leaves depends on the parameters of the
temperature only. -/
theorem calcTemperature_tFine_congr {first second : Bme680Data}
    (hcalib : first.bme680.SameTemperature second.bme680) (tempAdc : Int32) :
    (calcTemperature first tempAdc).1.tFine = (calcTemperature second tempAdc).1.tFine := by
  obtain ⟨hT1, hT2, hT3⟩ := hcalib
  simp only [calcTemperature, hT1, hT2, hT3]

/-! ### The half of the fine temperature in the pressure -/

/-- A state with another calibration. -/
def Bme680Data.calibrated (data : Bme680Data) (calib : Bme680Calib) : Bme680Data :=
  { data with bme680 := calib }

/-- A calibration on which the pressure is linear in the half of the fine temperature. -/
def probePressure (calib : Bme680Calib) (divisor : UInt16) : Bme680Calib :=
  { calib with
    parP1 := divisor, parP2 := 0, parP3 := 0, parP4 := 0, parP5 := 8192, parP6 := 0, parP7 := 0
    parP8 := 0, parP9 := 0, parP10 := 0 }

/-- The term of `par_p5` with its value 8192 is the fine temperature itself, in the range of words
of 32 bits. -/
theorem linear_term {word : Int64} (hlow : -2147483648 ≤ word.toInt)
    (hhigh : word.toInt ≤ 2147483647) : (((word * 8192) <<< 1) >>> 2) >>> 12 = word := by
  have hproduct : (word * 8192).toInt = word.toInt * 8192 :=
    toInt_mul64 rfl rfl ⟨by omega, by omega⟩
  have hdouble : ((word * 8192) <<< 1).toInt = word.toInt * 8192 * 2 :=
    toInt_shl64 hproduct (by decide) (by decide) ⟨by omega, by omega⟩
  have hquarter : (((word * 8192) <<< 1) >>> 2).toInt = word.toInt * 8192 * 2 / 4 :=
    toInt_shr64 hdouble (by decide) (by decide)
  have hshifted : ((((word * 8192) <<< 1) >>> 2) >>> 12).toInt =
      word.toInt * 8192 * 2 / 4 / 4096 :=
    toInt_shr64 hquarter (by decide) (by decide)
  refine Int64.toInt_inj.mp ?_
  rw [hshifted]
  omega

/-- The first term of `calc_pressure`. -/
theorem toInt_centered (tFine : Int32) :
    ((tFine.toInt64 >>> 1) - 64000).toInt = tFine.toInt / 2 - 64000 := by
  obtain ⟨hlow, hhigh⟩ := range32 tFine
  exact toInt_sub64 (toInt_half tFine) rfl ⟨by omega, by omega⟩

/-- The dividend of `calc_pressure` on a probing calibration. -/
def probedDividend (tFine : Int32) (pressureAdc : UInt32) : Int64 :=
  ((((1048576 : UInt32) - pressureAdc).toUInt64.toInt64 -
    ((tFine.toInt64 >>> 1) - 64000)) * 3125).toUInt64.toUInt32.toUInt64.toInt64

/-- The dividend is the remainder of a linear function of the half of the fine temperature. -/
theorem toInt_probedDividend (tFine : Int32) (pressureAdc : UInt32) :
    (probedDividend tFine pressureAdc).toInt =
      ((((1048576 : UInt32) - pressureAdc).toNat - (tFine.toInt / 2 - 64000)) * 3125) %
        2 ^ 32 := by
  have hcentered := toInt_centered tFine
  obtain ⟨hlow, hhigh⟩ := range32 tFine
  have hreading := ((1048576 : UInt32) - pressureAdc).toNat_lt
  have hdifference : (((1048576 : UInt32) - pressureAdc).toUInt64.toInt64 -
      ((tFine.toInt64 >>> 1) - 64000)).toInt =
        ((1048576 : UInt32) - pressureAdc).toNat - (tFine.toInt / 2 - 64000) :=
    toInt_sub64 (toInt_wide32 _) hcentered ⟨by omega, by omega⟩
  have hproduct : ((((1048576 : UInt32) - pressureAdc).toUInt64.toInt64 -
      ((tFine.toInt64 >>> 1) - 64000)) * 3125).toInt =
        (((1048576 : UInt32) - pressureAdc).toNat - (tFine.toInt / 2 - 64000)) * 3125 :=
    toInt_mul64 hdifference rfl ⟨by omega, by omega⟩
  rw [← hproduct, ← toNat_toUInt32]
  exact toInt_wide32 _

/-- The pressure on a probing calibration. -/
theorem calcPressure_probe (data : Bme680Data) (calib : Bme680Calib) {divisor : UInt16}
    {quotient : Int64} (hdivisor : (32768 * divisor.toUInt64.toInt64) >>> 15 = quotient)
    (hnonzero : quotient ≠ 0) (pressureAdc : UInt32) :
    calcPressure (data.calibrated (probePressure calib divisor)) pressureAdc =
      some (probedDividend data.tFine pressureAdc / quotient * 1000).toUInt64.toUInt32 := by
  have hcentered := toInt_centered data.tFine
  obtain ⟨hlow, hhigh⟩ := range32 data.tFine
  have hsecond : (((((data.tFine.toInt64 >>> 1) - 64000) * 8192) <<< 1) >>> 2) >>> 12 =
      (data.tFine.toInt64 >>> 1) - 64000 :=
    linear_term (by omega) (by omega)
  have h8 : (0 : Int8).toInt64 = 0 := rfl
  have h16 : (0 : Int16).toInt64 = 0 := rfl
  have hu8 : (0 : UInt8).toUInt64.toInt64 = 0 := rfl
  have hp5 : (8192 : Int16).toInt64 = 8192 := rfl
  unfold calcPressure
  simp only [Bme680Data.calibrated, probePressure, h8, h16, hu8, hp5, Int64.mul_zero,
    Int64.zero_mul, Int64.zero_add, Int64.add_zero, Int64.zero_shiftLeft, Int64.zero_shiftRight,
    hdivisor, hsecond]
  exact if_neg hnonzero

/-- The dividend is not negative and below the range of unsigned words. -/
theorem probedDividend_range (tFine : Int32) (pressureAdc : UInt32) :
    0 ≤ (probedDividend tFine pressureAdc).toInt ∧
      (probedDividend tFine pressureAdc).toInt < 4294967296 := by
  rw [toInt_probedDividend]
  omega

/-- The value of the pressure on a probing calibration. -/
theorem toNat_probed_pressure {dividend quotient : Int64}
    (hdividend : 0 ≤ dividend.toInt ∧ dividend.toInt < 4294967296) (hpos : 0 < quotient.toInt) :
    ((dividend / quotient * 1000).toUInt64.toUInt32.toNat : ℤ) =
      dividend.toInt / quotient.toInt * 1000 % 4294967296 := by
  have hdiv : (dividend / quotient).toInt = dividend.toInt / quotient.toInt := by
    rw [Int64.toInt_div_of_ne_right _ _ ?_, Int.tdiv_eq_ediv_of_nonneg hdividend.1]
    rintro rfl
    exact absurd hpos (by decide)
  have hlow : 0 ≤ dividend.toInt / quotient.toInt := Int.ediv_nonneg hdividend.1 hpos.le
  have hhigh : dividend.toInt / quotient.toInt ≤ dividend.toInt :=
    Int.ediv_le_self _ hdividend.1
  have hproduct : (dividend / quotient * 1000).toInt = dividend.toInt / quotient.toInt * 1000 := by
    obtain ⟨-, hbound⟩ := hdividend
    exact toInt_mul64 hdiv rfl ⟨by omega, by omega⟩
  rw [toNat_toUInt32, hproduct]
  rfl

/-- The low bits of the multiple by 1000 leave out the three highest bits of a word. -/
theorem low_bits_of_multiples {first second : ℤ}
    (hsame : first * 1000 % 4294967296 = second * 1000 % 4294967296) :
    (first - second) % 536870912 = 0 := by
  have hpos : (0 : ℤ) < 4294967296 := by decide
  have hcancelled : first ≡ second [ZMOD 536870912] := Int.ModEq.cancel_right_div_gcd hpos hsame
  exact Int.emod_eq_emod_iff_emod_sub_eq_zero.mp hcancelled

/-- A dividend is determined by the low bits of its multiple, which leave out its three highest
ones, and by those of its eighth. -/
theorem dividend_of_quotients {first second : ℤ} (hfirst : 0 ≤ first ∧ first < 4294967296)
    (hsecond : 0 ≤ second ∧ second < 4294967296)
    (hone : first * 1000 % 4294967296 = second * 1000 % 4294967296)
    (height : first / 8 * 1000 % 4294967296 = second / 8 * 1000 % 4294967296) :
    first = second := by
  have hlow := low_bits_of_multiples hone
  have hhigh := low_bits_of_multiples height
  clear hone height
  omega

/-- The multiple of a number in the range of words of 32 bits by 3125 determines the number up to
multiples of 2 ^ 32. -/
theorem half_of_dividends {base first second : ℤ}
    (hfirst : -1073741824 ≤ first ∧ first ≤ 1073741823)
    (hsecond : -1073741824 ≤ second ∧ second ≤ 1073741823)
    (hsame : (base - (first - 64000)) * 3125 % 2 ^ 32 =
      (base - (second - 64000)) * 3125 % 2 ^ 32) : first = second := by
  have hpos : (0 : ℤ) < 2 ^ 32 := by decide
  have hcancelled : base - (first - 64000) ≡ base - (second - 64000) [ZMOD 4294967296] :=
    Int.ModEq.cancel_right_div_gcd hpos hsame
  have hdifference := Int.emod_eq_emod_iff_emod_sub_eq_zero.mp hcancelled
  clear hsame hcancelled
  omega

/-- States whose pressures agree on two probing calibrations have the same half of the fine
temperature. The divisor 1 gives the dividends up to a multiple of 2 ^ 29, and the divisor 8 all
but their last three bits. -/
theorem half_of_pressures_eq {calib : Bme680Calib} {pressureAdc : UInt32}
    {first second : Bme680Data}
    (hpressure : ∀ divisor, calcPressure (first.calibrated (probePressure calib divisor))
      pressureAdc = calcPressure (second.calibrated (probePressure calib divisor)) pressureAdc) :
    first.tFine.toInt / 2 = second.tFine.toInt / 2 := by
  have hprobe (divisor : UInt16) (quotient : Int64)
      (hdivisor : (32768 * divisor.toUInt64.toInt64) >>> 15 = quotient)
      (hpos : 0 < quotient.toInt) :
      (probedDividend first.tFine pressureAdc).toInt / quotient.toInt * 1000 % 4294967296 =
        (probedDividend second.tFine pressureAdc).toInt / quotient.toInt * 1000 %
          4294967296 := by
    have hnonzero : quotient ≠ 0 := by
      rintro rfl
      exact absurd hpos (lt_irrefl 0)
    have hsame := hpressure divisor
    rw [calcPressure_probe first calib hdivisor hnonzero,
      calcPressure_probe second calib hdivisor hnonzero] at hsame
    have hvalue := congrArg (fun press : UInt32 ↦ (press.toNat : ℤ)) (Option.some.inj hsame)
    rwa [toNat_probed_pressure (probedDividend_range first.tFine pressureAdc) hpos,
      toNat_probed_pressure (probedDividend_range second.tFine pressureAdc) hpos] at hvalue
  have hone := hprobe 1 1 (by decide) (by decide)
  have height := hprobe 8 8 (by decide) (by decide)
  rw [show (1 : Int64).toInt = 1 from rfl, Int.ediv_one, Int.ediv_one] at hone
  rw [show (8 : Int64).toInt = 8 from rfl] at height
  have hdividend := dividend_of_quotients (probedDividend_range _ _) (probedDividend_range _ _)
    hone height
  rw [toInt_probedDividend, toInt_probedDividend] at hdividend
  exact half_of_dividends (half_range first.tFine) (half_range second.tFine) hdividend

/-! ### The scaled fine temperature in the humidity -/

/-- A calibration on which the humidity is a multiple of the scaled fine temperature. -/
def probeHumidity (calib : Bme680Calib) (offset : UInt16) : Bme680Calib :=
  { calib with
    parH1 := offset, parH2 := 1024, parH3 := 0, parH4 := 100, parH5 := 0, parH6 := 0, parH7 := 0 }

/-- The term of `par_h4` with its value 100, scaled by `par_h2` with its value 1024. -/
theorem toInt_scaled_term {scaled : Int32}
    (hrange : -50000 ≤ scaled.toInt ∧ scaled.toInt ≤ 50000) :
    (((1024 : Int32) * ((scaled * 100) / 100 + 16384)) >>> 10).toInt = scaled.toInt + 16384 := by
  obtain ⟨hlow, hhigh⟩ := hrange
  have hproduct : (scaled * 100).toInt = scaled.toInt * 100 :=
    toInt_mul32 rfl rfl ⟨by omega, by omega⟩
  have hquotient : ((scaled * 100) / 100).toInt = scaled.toInt :=
    (toInt_div32 hproduct rfl (by decide)).trans (Int.mul_tdiv_cancel _ (by decide))
  have hsum : ((scaled * 100) / 100 + 16384).toInt = scaled.toInt + 16384 :=
    toInt_add32 hquotient rfl ⟨by omega, by omega⟩
  have hmultiple : ((1024 : Int32) * ((scaled * 100) / 100 + 16384)).toInt =
      1024 * (scaled.toInt + 16384) :=
    toInt_mul32 rfl hsum ⟨by omega, by omega⟩
  have hshifted : (((1024 : Int32) * ((scaled * 100) / 100 + 16384)) >>> 10).toInt =
      1024 * (scaled.toInt + 16384) / 1024 :=
    toInt_shr32 hmultiple (by decide) (by decide)
  rw [hshifted]
  omega

/-- The last steps of `calc_humidity` before its cap, for a factor of five times 1024 or its
negation. -/
theorem toInt_probed_humidity {reading factor : Int32} {sign : ℤ} (hsign : sign = 1 ∨ sign = -1)
    (hreading : reading.toInt = 5120 * sign)
    (hfactor : -33616 ≤ factor.toInt ∧ factor.toInt ≤ 66384) :
    ((((reading * factor) >>> 10) * 1000) >>> 12).toInt = 5000 * (sign * factor.toInt) / 4096 := by
  obtain ⟨hlow, hhigh⟩ := hfactor
  have hbounds : -66384 ≤ sign * factor.toInt ∧ sign * factor.toInt ≤ 66384 := by
    rcases hsign with rfl | rfl <;> omega
  obtain ⟨hlow', hhigh'⟩ := hbounds
  have hproduct : (reading * factor).toInt = 5120 * sign * factor.toInt :=
    toInt_mul32 hreading rfl (by rw [mul_assoc]; exact ⟨by omega, by omega⟩)
  rw [mul_assoc] at hproduct
  have hshifted : ((reading * factor) >>> 10).toInt = 5120 * (sign * factor.toInt) / 1024 :=
    toInt_shr32 hproduct (by decide) (by decide)
  have hmultiple : (((reading * factor) >>> 10) * 1000).toInt =
      5120 * (sign * factor.toInt) / 1024 * 1000 :=
    toInt_mul32 hshifted rfl ⟨by omega, by omega⟩
  have hresult : ((((reading * factor) >>> 10) * 1000) >>> 12).toInt =
      5120 * (sign * factor.toInt) / 1024 * 1000 / 4096 :=
    toInt_shr32 hmultiple (by decide) (by decide)
  rw [hresult]
  omega

/-- The cap at the end of `calc_humidity`. -/
theorem toNat_capped (word : Int32) :
    ((if word > 100000 then (100000 : UInt32) else if word < 0 then 0
      else word.toUInt32).toNat : ℤ) = max 0 (min word.toInt 100000) := by
  split_ifs with habove hnegative
  · have hhigh : 100000 < word.toInt := Int32.lt_iff_toInt_lt.mp habove
    rw [min_eq_right hhigh.le]
    rfl
  · have hlow : word.toInt < 0 := Int32.lt_iff_toInt_lt.mp hnegative
    rw [max_eq_left ((min_le_left _ _).trans hlow.le)]
    rfl
  · have hhigh : word.toInt ≤ 100000 :=
      not_lt.mp fun hhigh ↦ habove (Int32.lt_iff_toInt_lt.mpr hhigh)
    have hlow : 0 ≤ word.toInt :=
      not_lt.mp fun hlow ↦ hnegative (Int32.lt_iff_toInt_lt.mpr hlow)
    rw [toNat_toUInt32_of_nonneg hlow, min_eq_left hhigh, max_eq_right hlow]

/-- The humidity on a probing calibration. -/
theorem calcHumidity_probe (data : Bme680Data) (calib : Bme680Calib) {offset humidAdc : UInt16}
    {reading : Int32} {sign : ℤ} (hsign : sign = 1 ∨ sign = -1)
    (hoffset : humidAdc.toUInt32.toInt32 - offset.toUInt32.toInt32 * 16 = reading)
    (hreading : reading.toInt = 5120 * sign)
    (hrange : -50000 ≤ (tempScaled data.tFine).toInt ∧ (tempScaled data.tFine).toInt ≤ 50000) :
    ((calcHumidity (data.calibrated (probeHumidity calib offset)) humidAdc).toNat : ℤ) =
      max 0 (5000 * (sign * ((tempScaled data.tFine).toInt + 16384)) / 4096) := by
  have h8 : (0 : Int8).toInt32 = 0 := rfl
  have hu8 : (0 : UInt8).toUInt32.toInt32 = 0 := rfl
  have h2 : (1024 : UInt16).toUInt32.toInt32 = 1024 := rfl
  have h4 : (100 : Int8).toInt32 = 100 := rfl
  have hbit : (1 : Int32) <<< (14 : Int32) = 16384 := rfl
  unfold calcHumidity
  simp only [Bme680Data.calibrated, probeHumidity, h8, hu8, h2, h4, hbit, Int32.mul_zero,
    Int32.zero_mul, Int32.add_zero, Int32.zero_shiftLeft, Int32.zero_shiftRight, Int32.zero_div,
    Int32.sub_zero, hoffset]
  have hfactor := toInt_scaled_term hrange
  have hvalue := @toInt_probed_humidity reading
    (((1024 : Int32) * ((tempScaled data.tFine * 100) / 100 + 16384)) >>> 10) sign hsign hreading
    (by omega)
  have hbelow : 5000 * (sign * ((tempScaled data.tFine).toInt + 16384)) / 4096 ≤ 100000 := by
    rcases hsign with rfl | rfl <;> omega
  rw [toNat_capped, hvalue, hfactor, min_eq_left hbelow]

/-- The cut multiples of a number and of its negation determine the number. -/
theorem value_of_cut_multiples {first second : ℤ}
    (hplus : max 0 (5000 * (1 * (first + 16384)) / 4096) =
      max 0 (5000 * (1 * (second + 16384)) / 4096))
    (hminus : max 0 (5000 * (-1 * (first + 16384)) / 4096) =
      max 0 (5000 * (-1 * (second + 16384)) / 4096)) : first = second := by
  omega

/-- The range of scaled fine temperatures that the driver's measurements lead to. -/
def ScaledInRange (tFine : Int32) : Prop :=
  -50000 ≤ (tempScaled tFine).toInt ∧ (tempScaled tFine).toInt ≤ 50000

/-- States whose humidities agree on the probing calibrations have the same scaled fine
temperature. An offset of 640 turns the raw humidity of 5120 into its negation. -/
theorem tempScaled_of_humidities_eq {calib : Bme680Calib} {first second : Bme680Data}
    (hfirst : ScaledInRange first.tFine) (hsecond : ScaledInRange second.tFine)
    (hhumidity : ∀ offset, calcHumidity (first.calibrated (probeHumidity calib offset)) 5120 =
      calcHumidity (second.calibrated (probeHumidity calib offset)) 5120) :
    tempScaled first.tFine = tempScaled second.tFine := by
  have hprobe (offset : UInt16) (reading : Int32) (sign : ℤ) (hsign : sign = 1 ∨ sign = -1)
      (hoffset : (5120 : UInt16).toUInt32.toInt32 - offset.toUInt32.toInt32 * 16 = reading)
      (hreading : reading.toInt = 5120 * sign) :
      max 0 (5000 * (sign * ((tempScaled first.tFine).toInt + 16384)) / 4096) =
        max 0 (5000 * (sign * ((tempScaled second.tFine).toInt + 16384)) / 4096) := by
    rw [← calcHumidity_probe first calib hsign hoffset hreading hfirst,
      ← calcHumidity_probe second calib hsign hoffset hreading hsecond, hhumidity offset]
  have hplus := hprobe 0 5120 1 (Or.inl rfl) (by decide) (by decide)
  have hminus := hprobe 640 (-5120) (-1) (Or.inr rfl) (by decide) (by decide)
  exact Int32.toInt_inj.mp (value_of_cut_multiples hplus hminus)

/-! ### The range of the fine temperature -/

/-- The range of fine temperatures that the driver's measurements lead to. -/
def FineInRange (tFine : Int32) : Prop :=
  -2300000 ≤ tFine.toInt ∧ tFine.toInt ≤ 2300000

end Bme680.Driver
