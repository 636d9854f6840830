import Bme680.Driver.Calibration
import Bme680.Driver.StepRanges

/-!
# Where the compensation is exact

For a calibration and a raw frame the driver evaluates `calc_temperature`, and with the fine
temperature it leaves `calc_pressure` and `calc_humidity`. The evaluation is exact where no step of
it wraps around and no conversion changes a value; the results are then those of the formulas on
unbounded integers (`CompensationExact`).

The calibrations that `bme680_read_calib` decodes and the frames leave seven steps that can fail
(`InExactRange`): the conversion of the temperature to 16 bits, that of the pressure's dividend to
an unsigned word, the division, the conversion of its result, and three steps at the end of the
humidity. All the others always fit (`compensation_exact_iff`).
-/

set_option autoImplicit false
set_option relaxedAutoImplicit false

namespace Bme680.Driver

open Arithmetic

/-! ### The formulas of a calibration -/

namespace Bme680Calib

/-- The fine temperature of a raw temperature. -/
def fine (calib : Bme680Calib) (tempAdc : ℤ) : ℤ :=
  fineFormula calib.parT2.toInt calib.parT3.toInt (temperatureOffset calib.parT1.toNat tempAdc)

/-- The subtrahend of the pressure at a fine temperature. -/
def subtrahend (calib : Bme680Calib) (fine : ℤ) : ℤ :=
  subtrahendFormula calib.parP4.toInt calib.parP5.toInt calib.parP6.toInt (pressureOffset fine)

/-- The divisor of the pressure at a fine temperature. -/
def divisor (calib : Bme680Calib) (fine : ℤ) : ℤ :=
  divisorFormula calib.parP1.toNat
    (slopeFormula calib.parP2.toInt calib.parP3.toInt (pressureOffset fine))

/-- The pressure before its correction. -/
def press (calib : Bme680Calib) (fine pressureAdc : ℤ) : ℤ :=
  (dividendFormula pressureAdc (calib.subtrahend fine)).tdiv (calib.divisor fine) * 1000

/-- The pressure at a fine temperature. -/
def pressure (calib : Bme680Calib) (fine pressureAdc : ℤ) : ℤ :=
  correctedFormula calib.parP7.toInt calib.parP8.toInt calib.parP9.toInt calib.parP10.toNat
    (calib.press fine pressureAdc)

/-- `var1` of the humidity at a temperature. -/
def reading (calib : Bme680Calib) (scaled humidAdc : ℤ) : ℤ :=
  readingFormula calib.parH1.toNat calib.parH3.toInt scaled humidAdc

/-- `var2` of the humidity at a temperature. -/
def factor (calib : Bme680Calib) (scaled : ℤ) : ℤ :=
  factorFormula calib.parH2.toNat calib.parH4.toInt calib.parH5.toInt scaled

/-- `var4` of the humidity at a temperature. -/
def weight (calib : Bme680Calib) (scaled : ℤ) : ℤ :=
  weightFormula calib.parH6.toNat calib.parH7.toInt scaled

/-- The humidity at a temperature. -/
def humidity (calib : Bme680Calib) (scaled humidAdc : ℤ) : ℤ :=
  cappedFormula
    (humidityFormula (calib.reading scaled humidAdc * calib.factor scaled) (calib.weight scaled))

/-- All the steps of `calc_temperature` fit. -/
structure TemperatureFits (calib : Bme680Calib) (tempAdc : ℤ) : Prop where
  offset : OffsetFits calib.parT1.toNat tempAdc
  fine : FineFits calib.parT2.toInt calib.parT3.toInt
    (temperatureOffset calib.parT1.toNat tempAdc)
  scaled : ScaledFits (calib.fine tempAdc)
  result : Fits16 (scaledFormula (calib.fine tempAdc))

/-- All the steps of `calc_pressure` fit. -/
structure PressureFits (calib : Bme680Calib) (fine pressureAdc : ℤ) : Prop where
  offset : Fits64 (pressureOffset fine)
  subtrahend : SubtrahendFits calib.parP4.toInt calib.parP5.toInt calib.parP6.toInt
    (pressureOffset fine)
  divisor : DivisorFits calib.parP1.toNat calib.parP2.toInt calib.parP3.toInt (pressureOffset fine)
  dividend : DividendFits pressureAdc (calib.subtrahend fine)
  quotient : QuotientFits (dividendFormula pressureAdc (calib.subtrahend fine))
    (calib.divisor fine)
  correction : CorrectionFits calib.parP7.toInt calib.parP8.toInt calib.parP9.toInt
    calib.parP10.toNat (calib.press fine pressureAdc)

/-- All the steps of `calc_humidity` after the scaling of the temperature fit. -/
structure HumidityFits (calib : Bme680Calib) (scaled humidAdc : ℤ) : Prop where
  reading : ReadingFits calib.parH1.toNat calib.parH3.toInt scaled humidAdc
  factor : FactorFits calib.parH2.toNat calib.parH4.toInt calib.parH5.toInt scaled
  weight : WeightFits calib.parH6.toNat calib.parH7.toInt scaled
  humidity : Driver.HumidityFits (calib.reading scaled humidAdc) (calib.factor scaled)
    (calib.weight scaled)

end Bme680Calib

/-! ### The parts of the pressure -/

/-- The divisor in `calc_pressure`. -/
def pressureDivisor (data : Bme680Data) : Int64 :=
  let offset : Int64 := (data.tFine.toInt64 >>> 1) - 64000
  (((32768 : Int64) + ((((((offset >>> 2) * (offset >>> 2)) >>> 13) *
    (data.bme680.parP3.toInt64 <<< 5)) >>> 3) + ((data.bme680.parP2.toInt64 * offset) >>> 1)) >>>
    18) * data.bme680.parP1.toUInt64.toInt64) >>> 15

/-- The subtrahend in `calc_pressure`. -/
def pressureSubtrahend (data : Bme680Data) : Int64 :=
  let offset : Int64 := (data.tFine.toInt64 >>> 1) - 64000
  (((((offset >>> 2) * (offset >>> 2)) >>> 11) * data.bme680.parP6.toInt64) >>> 2 +
    ((offset * data.bme680.parP5.toInt64) <<< 1)) >>> 2 + (data.bme680.parP4.toInt64 <<< 16)

/-- The dividend in `calc_pressure`. -/
def pressureDividend (data : Bme680Data) (pressureAdc : UInt32) : Int64 :=
  ((((1048576 : UInt32) - pressureAdc).toUInt64.toInt64 -
    (pressureSubtrahend data >>> 12)) * 3125).toUInt64.toUInt32.toUInt64.toInt64

/-- The end of `calc_pressure` after the division. -/
def correctedPressure (data : Bme680Data) (press : Int64) : UInt32 :=
  (press + (((data.bme680.parP9.toInt64 * (((press >>> 13) * (press >>> 13)) >>> 12)) >>> 25 +
    (data.bme680.parP8.toInt64 * press) >>> 19 +
    (data.bme680.parP10.toUInt64.toInt64 * press) >>> 48 +
    (data.bme680.parP7.toInt64 <<< 7)) >>> 4)).toUInt64.toUInt32

/-- `calc_pressure` divides the dividend by the divisor. -/
theorem calcPressure_eq (data : Bme680Data) (pressureAdc : UInt32) :
    calcPressure data pressureAdc =
      if pressureDivisor data = 0 then none
      else some (correctedPressure data
        (pressureDividend data pressureAdc / pressureDivisor data * 1000)) :=
  rfl

/-- The divisor is that of the formula. -/
theorem toInt_pressureDivisor {data : Bme680Data}
    (hfits : DivisorFits data.bme680.parP1.toNat data.bme680.parP2.toInt data.bme680.parP3.toInt
      (pressureOffset data.tFine.toInt)) :
    (pressureDivisor data).toInt = data.bme680.divisor data.tFine.toInt :=
  toInt_divisor (toInt_centered data.tFine) hfits

/-! ### The parts of the humidity -/

/-- `var1` of `calc_humidity`. -/
def humidityReading (data : Bme680Data) (humidAdc : UInt16) : Int32 :=
  (humidAdc.toUInt32.toInt32 - (data.bme680.parH1.toUInt32.toInt32 * 16)) -
    (((tempScaled data.tFine * data.bme680.parH3.toInt32) / (100 : Int32)) >>> (1 : Int32))

/-- `var2` of `calc_humidity`. -/
def humidityFactor (data : Bme680Data) : Int32 :=
  (data.bme680.parH2.toUInt32.toInt32 *
    (((tempScaled data.tFine * data.bme680.parH4.toInt32) / (100 : Int32)) +
      (((tempScaled data.tFine * ((tempScaled data.tFine * data.bme680.parH5.toInt32) /
        (100 : Int32))) >>> (6 : Int32)) / (100 : Int32)) +
      ((1 : Int32) <<< (14 : Int32)))) >>> 10

/-- `var4` of `calc_humidity`. -/
def humidityWeight (data : Bme680Data) : Int32 :=
  ((data.bme680.parH6.toUInt32.toInt32 <<< 7) +
    ((tempScaled data.tFine * data.bme680.parH7.toInt32) / 100)) >>> 4

/-- The end of `calc_humidity` before the cap. -/
def uncappedHumidity (reading factor weight : Int32) : Int32 :=
  (((reading * factor + ((weight * ((((reading * factor) >>> 14) *
    ((reading * factor) >>> 14)) >>> 10)) >>> 1)) >>> 10) * 1000) >>> 12

/-- The cap at the end of `calc_humidity`. -/
def cappedHumidity (humidity : Int32) : UInt32 :=
  if humidity > 100000 then 100000 else if humidity < 0 then 0 else humidity.toUInt32

/-- `calc_humidity` caps the humidity of its three parts. -/
theorem calcHumidity_eq (data : Bme680Data) (humidAdc : UInt16) :
    calcHumidity data humidAdc =
      cappedHumidity (uncappedHumidity (humidityReading data humidAdc) (humidityFactor data)
        (humidityWeight data)) :=
  rfl

/-! ### Where the steps fit the results are exact -/

/-- The temperature and the fine temperature. -/
theorem calcTemperature_exact {data : Bme680Data} {tempAdc : Int32}
    (hfits : data.bme680.TemperatureFits tempAdc.toInt) :
    (calcTemperature data tempAdc).1.tFine.toInt = data.bme680.fine tempAdc.toInt ∧
      (calcTemperature data tempAdc).2.toInt =
        scaledFormula (data.bme680.fine tempAdc.toInt) := by
  have hfine : (calcTemperature data tempAdc).1.tFine.toInt = data.bme680.fine tempAdc.toInt :=
    toInt_fine (toInt_offset hfits.offset) hfits.fine
  have hscaled : (tempScaled (calcTemperature data tempAdc).1.tFine).toInt =
      scaledFormula (data.bme680.fine tempAdc.toInt) := by
    rw [← hfine]
    refine toInt_tempScaled ?_
    rw [hfine]
    exact hfits.scaled
  refine ⟨hfine, ?_⟩
  change (tempScaled (calcTemperature data tempAdc).1.tFine).toInt16.toInt32.toInt = _
  rw [Int16.toInt_toInt32, Int32.toInt_toInt16, hscaled]
  exact bmod_of_range16 hfits.result.1 hfits.result.2

/-- The pressure. -/
theorem calcPressure_exact {data : Bme680Data} {calib : Bme680Calib} {fine : ℤ}
    {pressureAdc : UInt32} (hcalib : data.bme680 = calib) (hfine : data.tFine.toInt = fine)
    (hfits : calib.PressureFits fine pressureAdc.toNat) :
    ∃ press, calcPressure data pressureAdc = some press ∧
      (press.toNat : ℤ) = calib.pressure fine pressureAdc.toNat := by
  subst hcalib hfine
  have hdivisor := toInt_pressureDivisor hfits.divisor
  have hnonzero : pressureDivisor data ≠ 0 := by
    intro hzero
    refine hfits.quotient.nonzero ?_
    rw [← hdivisor, hzero]
    rfl
  have hsubtrahend : (pressureSubtrahend data).toInt = data.bme680.subtrahend data.tFine.toInt :=
    toInt_subtrahend (toInt_centered data.tFine) hfits.subtrahend
  have hdividend : (pressureDividend data pressureAdc).toInt =
      dividendFormula pressureAdc.toNat (data.bme680.subtrahend data.tFine.toInt) :=
    toInt_dividend hsubtrahend hfits.dividend
  have hpress : (pressureDividend data pressureAdc / pressureDivisor data * 1000).toInt =
      data.bme680.press data.tFine.toInt pressureAdc.toNat :=
    toInt_mul64 (toInt_div64 hdividend hdivisor hfits.quotient.quotient) rfl hfits.quotient.press
  refine ⟨_, (calcPressure_eq data pressureAdc).trans (if_neg hnonzero), ?_⟩
  exact toNat_corrected hpress hfits.correction

/-- The humidity. -/
theorem calcHumidity_exact {data : Bme680Data} {calib : Bme680Calib} {scaled : ℤ}
    {humidAdc : UInt16} (hcalib : data.bme680 = calib)
    (hscaled : (tempScaled data.tFine).toInt = scaled)
    (hfits : calib.HumidityFits scaled humidAdc.toNat) :
    ((calcHumidity data humidAdc).toNat : ℤ) = calib.humidity scaled humidAdc.toNat := by
  subst hcalib
  have hreading : (humidityReading data humidAdc).toInt =
      data.bme680.reading scaled humidAdc.toNat :=
    toInt_reading hscaled hfits.reading
  have hfactor : (humidityFactor data).toInt = data.bme680.factor scaled :=
    toInt_factor hscaled hfits.factor
  have hweight : (humidityWeight data).toInt = data.bme680.weight scaled :=
    toInt_weight hscaled hfits.weight
  rw [calcHumidity_eq]
  exact toNat_cap (toInt_humidity hreading hfactor hweight hfits.humidity)

/-! ### Which steps can fail -/

/-- The steps of the temperature fit exactly when its conversion to 16 bits does. -/
theorem temperatureFits_iff (calib : Bme680Calib) {tempAdc : ℤ}
    (htemp : 0 ≤ tempAdc ∧ tempAdc < 1048576) :
    calib.TemperatureFits tempAdc ↔
      -1677747 ≤ calib.fine tempAdc ∧ calib.fine tempAdc ≤ 1677695 := by
  have hoffset := within_offset calib.parT1 htemp
  constructor
  · intro hfits
    exact fits16_scaled_iff.mp hfits.result
  · intro hrange
    exact {
      offset := offsetFits calib.parT1 htemp
      fine := fineFits calib.parT2 calib.parT3 hoffset
      scaled := scaledFits (within_fine calib.parT2 calib.parT3 hoffset)
      result := fits16_scaled_iff.mpr hrange }

/-- The steps of the pressure fit exactly when the conversions of its dividend and of its result do
and the divisor is not zero. -/
theorem pressureFits_iff (calib : Bme680Calib) {fine pressureAdc : ℤ}
    (hfine : Within 2300000 fine) (hpressure : 0 ≤ pressureAdc ∧ pressureAdc < 1048576) :
    calib.PressureFits fine pressureAdc ↔
      (0 ≤ 1048576 - pressureAdc - calib.subtrahend fine / 4096 ∧
        1048576 - pressureAdc - calib.subtrahend fine / 4096 ≤ 1374389) ∧
      calib.divisor fine ≠ 0 ∧ FitsUnsigned32 (calib.pressure fine pressureAdc) := by
  have hoffset := within_pressureOffset hfine
  have hsubtrahend := within_subtrahend hoffset calib.parP4 calib.parP5 calib.parP6
  constructor
  · intro hfits
    exact ⟨(dividendFits_iff hpressure hsubtrahend).mp hfits.dividend, hfits.quotient.nonzero,
      hfits.correction.result⟩
  · rintro ⟨hrange, hnonzero, hresult⟩
    have hdividend := (dividendFits_iff hpressure hsubtrahend).mpr hrange
    exact {
      offset := hoffset.fits64 (by decide)
      subtrahend := subtrahendFits hoffset calib.parP4 calib.parP5 calib.parP6
      divisor := divisorFits hoffset calib.parP1 calib.parP2 calib.parP3
      dividend := hdividend
      quotient := (quotientFits_iff hdividend.dividend).mpr hnonzero
      correction := (correctionFits_iff calib.parP7 calib.parP8 calib.parP9 calib.parP10
        (within_press hdividend.dividend)).mpr hresult }

/-- The steps of the humidity fit exactly when three of its last ones do. -/
theorem calibHumidityFits_iff {calib : Bme680Calib} {scaled : ℤ} {humidAdc : UInt16}
    (hscaled : Within 32768 scaled) (hparH1 : calib.parH1.toNat < 4096)
    (hparH2 : calib.parH2.toNat < 4096) :
    calib.HumidityFits scaled humidAdc.toNat ↔
      HumidityFits (calib.reading scaled humidAdc.toNat) (calib.factor scaled)
        (calib.weight scaled) := by
  constructor
  · intro hfits
    exact hfits.humidity
  · intro hhumidity
    exact {
      reading := readingFits hscaled calib.parH3 hparH1
      factor := factorFits hscaled calib.parH4 calib.parH5 hparH2
      weight := weightFits hscaled calib.parH6 calib.parH7
      humidity := hhumidity }

/-! ### The evaluation of a frame -/

/-- The exact fine temperature of the raw values in a state. -/
def Bme680Data.fine (data : Bme680Data) : ℤ :=
  data.bme680.fine data.tempAdc.toInt

/-- The exact temperature of the raw values in a state. -/
def Bme680Data.scaled (data : Bme680Data) : ℤ :=
  scaledFormula data.fine

/-- `var3` of the humidity of the raw values in a state. -/
def Bme680Data.humidityProduct (data : Bme680Data) : ℤ :=
  data.bme680.reading data.scaled data.humidAdc.toNat * data.bme680.factor data.scaled

/-- Twice the `var6` of the humidity of the raw values in a state. -/
def Bme680Data.humidityCurve (data : Bme680Data) : ℤ :=
  data.bme680.weight data.scaled * squareFormula data.humidityProduct

/-- The evaluation of the raw values in a state is exact: all its steps fit, and the fine
temperature and the results are those of the formulas. -/
structure CompensationExact (data : Bme680Data) : Prop where
  temperatureFits : data.bme680.TemperatureFits data.tempAdc.toInt
  pressureFits : data.bme680.PressureFits data.fine data.pressureAdc.toNat
  humidityFits : data.bme680.HumidityFits data.scaled data.humidAdc.toNat
  fine : (calcTemperature data data.tempAdc).1.tFine.toInt = data.fine
  temperature : (calcTemperature data data.tempAdc).2.toInt = data.scaled
  pressure : ∃ press, calcPressure (calcTemperature data data.tempAdc).1 data.pressureAdc =
    some press ∧ (press.toNat : ℤ) = data.bme680.pressure data.fine data.pressureAdc.toNat
  humidity : ((calcHumidity (calcTemperature data data.tempAdc).1 data.humidAdc).toNat : ℤ) =
    data.bme680.humidity data.scaled data.humidAdc.toNat

/-- The raw values in a state are in the range where the evaluation is exact. -/
structure InExactRange (data : Bme680Data) : Prop where
  temperature : -1677747 ≤ data.fine ∧ data.fine ≤ 1677695
  dividend : 0 ≤ 1048576 - data.pressureAdc.toNat - data.bme680.subtrahend data.fine / 4096 ∧
    1048576 - data.pressureAdc.toNat - data.bme680.subtrahend data.fine / 4096 ≤ 1374389
  divisor : data.bme680.divisor data.fine ≠ 0
  pressure : FitsUnsigned32 (data.bme680.pressure data.fine data.pressureAdc.toNat)
  product : -759234560 ≤ data.humidityProduct ∧ data.humidityProduct ≤ 759250943
  curve : Fits32 data.humidityCurve
  sum : Fits32 (data.humidityProduct + data.humidityCurve / 2)

/-- Where all the steps fit the evaluation is exact. -/
theorem compensationExact_of_fits {data : Bme680Data}
    (htemperature : data.bme680.TemperatureFits data.tempAdc.toInt)
    (hpressure : data.bme680.PressureFits data.fine data.pressureAdc.toNat)
    (hhumidity : data.bme680.HumidityFits data.scaled data.humidAdc.toNat) :
    CompensationExact data := by
  have hfine : (calcTemperature data data.tempAdc).1.tFine.toInt = data.fine :=
    (calcTemperature_exact htemperature).1
  have hscaled : (tempScaled (calcTemperature data data.tempAdc).1.tFine).toInt = data.scaled := by
    unfold Bme680Data.scaled
    rw [← hfine]
    refine toInt_tempScaled ?_
    rw [hfine]
    exact htemperature.scaled
  have hcalib : (calcTemperature data data.tempAdc).1.bme680 = data.bme680 := by
    simp only [calcTemperature]
  have hcalcPressure := calcPressure_exact hcalib hfine hpressure
  have hcalcHumidity := calcHumidity_exact hcalib hscaled hhumidity
  exact {
    temperatureFits := htemperature
    pressureFits := hpressure
    humidityFits := hhumidity
    fine := hfine
    temperature := (calcTemperature_exact htemperature).2
    pressure := hcalcPressure
    humidity := hcalcHumidity }

/-- The evaluation of a calibration that was read and of a raw frame is exact exactly in the range
of seven conditions. -/
theorem compensation_exact_iff {rserrorMask : BitField} {reads : CalibReads} {calib : CalibRecord}
    (hread : (bme680ReadCalib rserrorMask reads calib).2 = 0) {data : Bme680Data}
    (hcalib : data.bme680 = (bme680ReadCalib rserrorMask reads calib).1.toBme680Calib)
    (htemp : 0 ≤ data.tempAdc.toInt ∧ data.tempAdc.toInt < 1048576)
    (hpressure : data.pressureAdc.toNat < 1048576) :
    CompensationExact data ↔ InExactRange data := by
  obtain ⟨hparH1, hparH2⟩ := inRange_of_read hread
  rw [← hcalib] at hparH1 hparH2
  have hfine : Within 2300000 data.fine :=
    within_fine data.bme680.parT2 data.bme680.parT3 (within_offset data.bme680.parT1 htemp)
  have hadc : 0 ≤ (data.pressureAdc.toNat : ℤ) ∧ (data.pressureAdc.toNat : ℤ) < 1048576 := by
    omega
  have hpressureIff := pressureFits_iff data.bme680 hfine hadc
  -- the steps of the humidity are bounded only for a temperature of 16 bits
  have hscaled (htemperature : -1677747 ≤ data.fine ∧ data.fine ≤ 1677695) :
      Within 32768 data.scaled := by
    obtain ⟨hlow, hhigh⟩ := fits16_scaled_iff.mpr htemperature
    exact ⟨hlow, hhigh.trans (by decide)⟩
  constructor
  · intro hexact
    have htemperature := (temperatureFits_iff data.bme680 htemp).mp hexact.temperatureFits
    obtain ⟨hdividend, hnonzero, hresult⟩ := hpressureIff.mp hexact.pressureFits
    obtain ⟨hproduct, hcurve, hsum⟩ := humidityFits_iff.mp hexact.humidityFits.humidity
    exact ⟨htemperature, hdividend, hnonzero, hresult, hproduct, hcurve, hsum⟩
  · intro hrange
    exact compensationExact_of_fits ((temperatureFits_iff data.bme680 htemp).mpr hrange.temperature)
      (hpressureIff.mpr ⟨hrange.dividend, hrange.divisor, hrange.pressure⟩)
      ((calibHumidityFits_iff (hscaled hrange.temperature) hparH1 hparH2).mpr
        (humidityFits_iff.mpr ⟨hrange.product, hrange.curve, hrange.sum⟩))

/-- A calibration whose other parameters than two are zero. -/
def twoParameterRecord (parT2 : Int16) (parP1 : UInt16) : CalibRecord :=
  { humidityRecord 0 with parT2 := parT2, parP1 := parP1 }

/-- The state of a driver that has read such a calibration, with a raw temperature. -/
def twoParameterState (parT2 : Int16) (parP1 : UInt16) (tempAdc : Int32) : Bme680Data :=
  { unmeasured with
    bme680 := (bme680ReadCalib wholeByte (readsOfRecord (twoParameterRecord parT2 parP1))
      (humidityRecord 0)).1.toBme680Calib
    tempAdc := tempAdc }

/-- The state of a driver that has read the calibration of the sensor and a frame at room
temperature. -/
def roomState : Bme680Data :=
  { unmeasured with
    bme680 := (bme680ReadCalib highNibble sensorReads (humidityRecord 0)).1.toBme680Calib
    tempAdc := 500000
    pressureAdc := 350000
    humidAdc := 20000 }

/-- The evaluation of a frame at room temperature is exact. -/
theorem compensation_exact_at_room : CompensationExact roomState :=
  (@compensation_exact_iff highNibble sensorReads (humidityRecord 0) (by decide) roomState rfl
    (by decide) (by decide)).mpr {
      temperature := by decide
      dividend := by decide
      divisor := by decide
      pressure := by
        unfold FitsUnsigned32
        decide
      product := by decide
      curve := by
        unfold Fits32
        decide
      sum := by
        unfold Fits32
        decide }

/-- The highest raw temperature with the highest `par_t2` has a temperature that 16 bits do not
hold. -/
theorem temperature_wraps_around :
    ¬ ∀ (rserrorMask : BitField) (reads : CalibReads) (calib : CalibRecord) (data : Bme680Data),
      (bme680ReadCalib rserrorMask reads calib).2 = 0 →
      data.bme680 = (bme680ReadCalib rserrorMask reads calib).1.toBme680Calib →
      (0 ≤ data.tempAdc.toInt ∧ data.tempAdc.toInt < 1048576) →
      data.pressureAdc.toNat < 1048576 → CompensationExact data := by
  intro hall
  have hexact := hall wholeByte (readsOfRecord (twoParameterRecord 32767 32768))
    (humidityRecord 0) (twoParameterState 32767 32768 1048575) (by decide) rfl (by decide)
    (by decide)
  exact absurd hexact.temperature (by decide)

end Bme680.Driver
