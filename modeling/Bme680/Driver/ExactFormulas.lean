import Bme680.Arithmetic.ExactWords
import Bme680.Driver.Compensation

/-!
# The compensation formulas over the integers

The formulas of `calc_temperature`, `calc_pressure` and `calc_humidity` on unbounded integers: a
shift to the right is a division that rounds down, and the divisions by 100 and by the divisor of
the pressure cut off towards zero. Beside each formula stands the list of its steps that a word of
the driver has to hold: the sums, differences, products and shifts to the left in the width the
driver computes them in, and the conversions to a narrower type.

Where all the steps of a formula fit, the driver computes the formula. The lemmas are about the
words of the parameters, with the integers they denote given by equations.
-/

set_option autoImplicit false
set_option relaxedAutoImplicit false

namespace Bme680.Driver

open Arithmetic

/-! ### The temperature -/

/-- `var1` of `calc_temperature`. -/
def temperatureOffset (parT1 tempAdc : ℤ) : ℤ :=
  tempAdc / 8 - parT1 * 2

/-- The fine temperature for an offset. -/
def fineFormula (parT2 parT3 offset : ℤ) : ℤ :=
  offset * parT2 / 2048 + offset / 2 * (offset / 2) / 4096 * (parT3 * 16) / 16384

/-- The temperature for a fine temperature, as `calc_humidity` uses it. -/
def scaledFormula (fine : ℤ) : ℤ :=
  (fine * 5 + 128) / 256

/-- The steps to the offset of `calc_temperature`. -/
structure OffsetFits (parT1 tempAdc : ℤ) : Prop where
  doubled : Fits32 (parT1 * 2)
  offset : Fits32 (temperatureOffset parT1 tempAdc)

/-- The steps from the offset to the fine temperature, and its conversion to 32 bits. -/
structure FineFits (parT2 parT3 offset : ℤ) : Prop where
  linear : Fits64 (offset * parT2)
  square : Fits64 (offset / 2 * (offset / 2))
  factor : Fits32 (parT3 * 16)
  quadratic : Fits64 (offset / 2 * (offset / 2) / 4096 * (parT3 * 16))
  sum : Fits64 (fineFormula parT2 parT3 offset)
  fine : Fits32 (fineFormula parT2 parT3 offset)

/-- The steps from the fine temperature to the scaled one. -/
structure ScaledFits (fine : ℤ) : Prop where
  five : Fits32 (fine * 5)
  rounded : Fits32 (fine * 5 + 128)

/-- The offset of a raw temperature. -/
theorem toInt_offset {parT1 : UInt16} {tempAdc : Int32}
    (hfits : OffsetFits parT1.toNat tempAdc.toInt) :
    ((tempAdc >>> 3) - (parT1.toUInt32.toInt32 <<< 1)).toInt64.toInt =
      temperatureOffset parT1.toNat tempAdc.toInt := by
  rw [Int32.toInt_toInt64]
  exact toInt_sub32 (toInt_shr32 rfl (by decide) (by decide))
    (toInt_shl32 (toInt_widened16 parT1) (by decide) (by decide) hfits.doubled) hfits.offset

/-- The fine temperature of an offset. -/
theorem toInt_fine {parT2 : Int16} {parT3 : Int8} {offset : Int64} {value : ℤ}
    (hoffset : offset.toInt = value) (hfits : FineFits parT2.toInt parT3.toInt value) :
    (((offset * parT2.toInt64) >>> 11) + ((((offset >>> 1) * (offset >>> 1)) >>> 12) *
        (parT3.toInt32 <<< 4).toInt64) >>> 14).toInt32.toInt =
      fineFormula parT2.toInt parT3.toInt value := by
  have hhalf : (offset >>> 1).toInt = value / 2 := toInt_shr64 hoffset (by decide) (by decide)
  have hfactor : (parT3.toInt32 <<< 4).toInt64.toInt = parT3.toInt * 16 := by
    rw [Int32.toInt_toInt64]
    exact toInt_shl32 (Int8.toInt_toInt32 parT3) (by decide) (by decide) hfits.factor
  have hsquare : (((offset >>> 1) * (offset >>> 1)) >>> 12).toInt =
      value / 2 * (value / 2) / 4096 :=
    toInt_shr64 (toInt_mul64 hhalf hhalf hfits.square) (by decide) (by decide)
  rw [Int64.toInt_toInt32]
  refine (congrArg (Int.bmod · (2 ^ 32)) ?_).trans (bmod_of_range32 hfits.fine.1 hfits.fine.2)
  exact toInt_add64
    (toInt_shr64 (toInt_mul64 hoffset (Int16.toInt_toInt64 parT2) hfits.linear) (by decide)
      (by decide))
    (toInt_shr64 (toInt_mul64 hsquare hfactor hfits.quadratic) (by decide) (by decide)) hfits.sum

/-- The scaled temperature of a fine one. -/
theorem toInt_tempScaled {tFine : Int32} (hfits : ScaledFits tFine.toInt) :
    (tempScaled tFine).toInt = scaledFormula tFine.toInt := by
  have hfive : (tFine * 5).toInt = tFine.toInt * 5 := toInt_mul32 rfl rfl hfits.five
  have hrounded : (tFine * 5 + 128).toInt = tFine.toInt * 5 + 128 :=
    toInt_add32 hfive rfl hfits.rounded
  exact toInt_shr32 hrounded (by decide) (by decide)

/-! ### The pressure -/

/-- `var1` of `calc_pressure` at first. -/
def pressureOffset (fine : ℤ) : ℤ :=
  fine / 2 - 64000

/-- `var2` of `calc_pressure` at first, for an offset. -/
def subtrahendFormula (parP4 parP5 parP6 offset : ℤ) : ℤ :=
  (offset / 4 * (offset / 4) / 2048 * parP6 / 4 + offset * parP5 * 2) / 4 + parP4 * 65536

/-- `var1` of `calc_pressure` before it is scaled by `par_p1`. -/
def slopeFormula (parP2 parP3 offset : ℤ) : ℤ :=
  offset / 4 * (offset / 4) / 8192 * (parP3 * 32) / 8 + parP2 * offset / 2

/-- The divisor of `calc_pressure`. -/
def divisorFormula (parP1 slope : ℤ) : ℤ :=
  (32768 + slope / 262144) * parP1 / 32768

/-- The dividend of `calc_pressure`. -/
def dividendFormula (pressureAdc subtrahend : ℤ) : ℤ :=
  (1048576 - pressureAdc - subtrahend / 4096) * 3125

/-- The square that `par_p9` is a factor of. -/
def pressureSquare (press : ℤ) : ℤ :=
  press / 8192 * (press / 8192) / 4096

/-- The correction of a pressure. -/
def correctionFormula (parP7 parP8 parP9 parP10 press : ℤ) : ℤ :=
  parP9 * pressureSquare press / 33554432 + parP8 * press / 524288 +
    parP10 * press / 281474976710656 + parP7 * 128

/-- The corrected pressure. -/
def correctedFormula (parP7 parP8 parP9 parP10 press : ℤ) : ℤ :=
  press + correctionFormula parP7 parP8 parP9 parP10 press / 16

/-- The steps from the offset to the subtrahend. -/
structure SubtrahendFits (parP4 parP5 parP6 offset : ℤ) : Prop where
  square : Fits64 (offset / 4 * (offset / 4))
  quadratic : Fits64 (offset / 4 * (offset / 4) / 2048 * parP6)
  linear : Fits64 (offset * parP5)
  doubled : Fits64 (offset * parP5 * 2)
  inner : Fits64 (offset / 4 * (offset / 4) / 2048 * parP6 / 4 + offset * parP5 * 2)
  shifted : Fits64 (parP4 * 65536)
  sum : Fits64 (subtrahendFormula parP4 parP5 parP6 offset)

/-- The steps from the offset to the divisor. -/
structure DivisorFits (parP1 parP2 parP3 offset : ℤ) : Prop where
  square : Fits64 (offset / 4 * (offset / 4))
  factor : Fits64 (parP3 * 32)
  quadratic : Fits64 (offset / 4 * (offset / 4) / 8192 * (parP3 * 32))
  linear : Fits64 (parP2 * offset)
  slope : Fits64 (slopeFormula parP2 parP3 offset)
  base : Fits64 (32768 + slopeFormula parP2 parP3 offset / 262144)
  product : Fits64 ((32768 + slopeFormula parP2 parP3 offset / 262144) * parP1)

/-- The steps to the dividend, and its conversion to an unsigned word of 32 bits. -/
structure DividendFits (pressureAdc subtrahend : ℤ) : Prop where
  reading : FitsUnsigned32 (1048576 - pressureAdc)
  difference : Fits64 (1048576 - pressureAdc - subtrahend / 4096)
  product : Fits64 (dividendFormula pressureAdc subtrahend)
  dividend : FitsUnsigned32 (dividendFormula pressureAdc subtrahend)

/-- The division of `calc_pressure` and its multiple. -/
structure QuotientFits (dividend divisor : ℤ) : Prop where
  nonzero : divisor ≠ 0
  quotient : Fits64 (dividend.tdiv divisor)
  press : Fits64 (dividend.tdiv divisor * 1000)

/-- The steps from a pressure to the corrected one, and its conversion to the result. -/
structure CorrectionFits (parP7 parP8 parP9 parP10 press : ℤ) : Prop where
  square : Fits64 (press / 8192 * (press / 8192))
  ninth : Fits64 (parP9 * pressureSquare press)
  eighth : Fits64 (parP8 * press)
  tenth : Fits64 (parP10 * press)
  two : Fits64 (parP9 * pressureSquare press / 33554432 + parP8 * press / 524288)
  three : Fits64 (parP9 * pressureSquare press / 33554432 + parP8 * press / 524288 +
    parP10 * press / 281474976710656)
  seventh : Fits64 (parP7 * 128)
  correction : Fits64 (correctionFormula parP7 parP8 parP9 parP10 press)
  corrected : Fits64 (correctedFormula parP7 parP8 parP9 parP10 press)
  result : FitsUnsigned32 (correctedFormula parP7 parP8 parP9 parP10 press)

/-- The subtrahend of an offset. -/
theorem toInt_subtrahend {parP4 parP5 : Int16} {parP6 : Int8} {offset : Int64} {value : ℤ}
    (hoffset : offset.toInt = value)
    (hfits : SubtrahendFits parP4.toInt parP5.toInt parP6.toInt value) :
    ((((((offset >>> 2) * (offset >>> 2)) >>> 11) * parP6.toInt64) >>> 2 +
        ((offset * parP5.toInt64) <<< 1)) >>> 2 + (parP4.toInt64 <<< 16)).toInt =
      subtrahendFormula parP4.toInt parP5.toInt parP6.toInt value := by
  have hquarter : (offset >>> 2).toInt = value / 4 := toInt_shr64 hoffset (by decide) (by decide)
  have hsquare : (((offset >>> 2) * (offset >>> 2)) >>> 11).toInt =
      value / 4 * (value / 4) / 2048 :=
    toInt_shr64 (toInt_mul64 hquarter hquarter hfits.square) (by decide) (by decide)
  have hquadratic : (((((offset >>> 2) * (offset >>> 2)) >>> 11) * parP6.toInt64) >>> 2).toInt =
      value / 4 * (value / 4) / 2048 * parP6.toInt / 4 :=
    toInt_shr64 (toInt_mul64 hsquare (Int8.toInt_toInt64 parP6) hfits.quadratic) (by decide)
      (by decide)
  have hlinear : ((offset * parP5.toInt64) <<< 1).toInt = value * parP5.toInt * 2 :=
    toInt_shl64 (toInt_mul64 hoffset (Int16.toInt_toInt64 parP5) hfits.linear) (by decide)
      (by decide) hfits.doubled
  have hshifted : (parP4.toInt64 <<< 16).toInt = parP4.toInt * 65536 :=
    toInt_shl64 (Int16.toInt_toInt64 parP4) (by decide) (by decide) hfits.shifted
  exact toInt_add64
    (toInt_shr64 (toInt_add64 hquadratic hlinear hfits.inner) (by decide) (by decide)) hshifted
    hfits.sum

/-- The divisor of an offset. -/
theorem toInt_divisor {parP1 : UInt16} {parP2 : Int16} {parP3 : Int8} {offset : Int64} {value : ℤ}
    (hoffset : offset.toInt = value)
    (hfits : DivisorFits parP1.toNat parP2.toInt parP3.toInt value) :
    ((((32768 : Int64) + ((((((offset >>> 2) * (offset >>> 2)) >>> 13) *
        (parP3.toInt64 <<< 5)) >>> 3) + ((parP2.toInt64 * offset) >>> 1)) >>> 18) *
        parP1.toUInt64.toInt64) >>> 15).toInt =
      divisorFormula parP1.toNat (slopeFormula parP2.toInt parP3.toInt value) := by
  have hquarter : (offset >>> 2).toInt = value / 4 := toInt_shr64 hoffset (by decide) (by decide)
  have hsquare : (((offset >>> 2) * (offset >>> 2)) >>> 13).toInt =
      value / 4 * (value / 4) / 8192 :=
    toInt_shr64 (toInt_mul64 hquarter hquarter hfits.square) (by decide) (by decide)
  have hfactor : (parP3.toInt64 <<< 5).toInt = parP3.toInt * 32 :=
    toInt_shl64 (Int8.toInt_toInt64 parP3) (by decide) (by decide) hfits.factor
  have hquadratic : (((((offset >>> 2) * (offset >>> 2)) >>> 13) *
      (parP3.toInt64 <<< 5)) >>> 3).toInt =
      value / 4 * (value / 4) / 8192 * (parP3.toInt * 32) / 8 :=
    toInt_shr64 (toInt_mul64 hsquare hfactor hfits.quadratic) (by decide) (by decide)
  have hlinear : ((parP2.toInt64 * offset) >>> 1).toInt = parP2.toInt * value / 2 :=
    toInt_shr64 (toInt_mul64 (Int16.toInt_toInt64 parP2) hoffset hfits.linear) (by decide)
      (by decide)
  have hslope := toInt_add64 hquadratic hlinear hfits.slope
  have hpart := @toInt_shr64 _ _ hslope 18 262144 (by decide) (by decide)
  have hbase := toInt_add64 (show (32768 : Int64).toInt = 32768 from rfl) hpart hfits.base
  exact toInt_shr64 (toInt_mul64 hbase (toInt_wide16 parP1) hfits.product) (by decide) (by decide)

/-- The dividend of a raw pressure and a subtrahend. -/
theorem toInt_dividend {pressureAdc : UInt32} {subtrahend : Int64} {value : ℤ}
    (hsubtrahend : subtrahend.toInt = value) (hfits : DividendFits pressureAdc.toNat value) :
    ((((1048576 : UInt32) - pressureAdc).toUInt64.toInt64 -
        (subtrahend >>> 12)) * 3125).toUInt64.toUInt32.toUInt64.toInt64.toInt =
      dividendFormula pressureAdc.toNat value := by
  have hreading : ((1048576 : UInt32) - pressureAdc).toUInt64.toInt64.toInt =
      1048576 - pressureAdc.toNat := by
    have hbound := hfits.reading
    unfold FitsUnsigned32 at hbound
    have hle : pressureAdc ≤ 1048576 := UInt32.le_iff_toNat_le.mpr (by
      change pressureAdc.toNat ≤ 1048576
      omega)
    have hvalue : ((1048576 : UInt32) - pressureAdc).toNat = 1048576 - pressureAdc.toNat :=
      UInt32.toNat_sub_of_le _ _ hle
    rw [toInt_wide32, hvalue]
    omega
  have hproduct : ((((1048576 : UInt32) - pressureAdc).toUInt64.toInt64 -
      (subtrahend >>> 12)) * 3125).toInt = dividendFormula pressureAdc.toNat value :=
    toInt_mul64 (toInt_sub64 hreading (toInt_shr64 hsubtrahend (by decide) (by decide))
      hfits.difference) rfl hfits.product
  have hword := toNat_toUInt32 ((((1048576 : UInt32) - pressureAdc).toUInt64.toInt64 -
    (subtrahend >>> 12)) * 3125)
  rw [hproduct, Int.emod_eq_of_lt hfits.dividend.1 (Int.lt_of_le_sub_one hfits.dividend.2)] at hword
  exact (toInt_wide32 _).trans hword

/-- The result of a pressure that is corrected. -/
theorem toNat_corrected {parP7 : Int8} {parP8 parP9 : Int16} {parP10 : UInt8} {press : Int64}
    {value : ℤ} (hpress : press.toInt = value)
    (hfits : CorrectionFits parP7.toInt parP8.toInt parP9.toInt parP10.toNat value) :
    ((press + (((parP9.toInt64 * (((press >>> 13) * (press >>> 13)) >>> 12)) >>> 25 +
        (parP8.toInt64 * press) >>> 19 + (parP10.toUInt64.toInt64 * press) >>> 48 +
        (parP7.toInt64 <<< 7)) >>> 4)).toUInt64.toUInt32.toNat : ℤ) =
      correctedFormula parP7.toInt parP8.toInt parP9.toInt parP10.toNat value := by
  have hpart : (press >>> 13).toInt = value / 8192 := toInt_shr64 hpress (by decide) (by decide)
  have hsquare : (((press >>> 13) * (press >>> 13)) >>> 12).toInt = pressureSquare value :=
    toInt_shr64 (toInt_mul64 hpart hpart hfits.square) (by decide) (by decide)
  have hninth : ((parP9.toInt64 * (((press >>> 13) * (press >>> 13)) >>> 12)) >>> 25).toInt =
      parP9.toInt * pressureSquare value / 33554432 :=
    toInt_shr64 (toInt_mul64 (Int16.toInt_toInt64 parP9) hsquare hfits.ninth) (by decide)
      (by decide)
  have height : ((parP8.toInt64 * press) >>> 19).toInt = parP8.toInt * value / 524288 :=
    toInt_shr64 (toInt_mul64 (Int16.toInt_toInt64 parP8) hpress hfits.eighth) (by decide)
      (by decide)
  have htenth : ((parP10.toUInt64.toInt64 * press) >>> 48).toInt =
      parP10.toNat * value / 281474976710656 :=
    toInt_shr64 (toInt_mul64 (toInt_wide8 parP10) hpress hfits.tenth) (by decide) (by decide)
  have hseventh : (parP7.toInt64 <<< 7).toInt = parP7.toInt * 128 :=
    toInt_shl64 (Int8.toInt_toInt64 parP7) (by decide) (by decide) hfits.seventh
  have hcorrection := toInt_add64 (toInt_add64 (toInt_add64 hninth height hfits.two) htenth
    hfits.three) hseventh hfits.correction
  have hcorrected := toInt_add64 hpress
    (@toInt_shr64 _ _ hcorrection 4 16 (by decide) (by decide)) hfits.corrected
  rw [toNat_toUInt32]
  refine (congrArg (· % (2 ^ 32 : ℤ)) hcorrected).trans ?_
  exact Int.emod_eq_of_lt hfits.result.1 (Int.lt_of_le_sub_one hfits.result.2)

/-! ### The humidity -/

/-- `var1` of `calc_humidity`. -/
def readingFormula (parH1 parH3 scaled humidAdc : ℤ) : ℤ :=
  humidAdc - parH1 * 16 - (scaled * parH3).tdiv 100 / 2

/-- The sum that `par_h2` is a factor of. -/
def temperatureFactor (parH4 parH5 scaled : ℤ) : ℤ :=
  (scaled * parH4).tdiv 100 + (scaled * (scaled * parH5).tdiv 100 / 64).tdiv 100 + 16384

/-- `var2` of `calc_humidity`. -/
def factorFormula (parH2 parH4 parH5 scaled : ℤ) : ℤ :=
  parH2 * temperatureFactor parH4 parH5 scaled / 1024

/-- `var4` of `calc_humidity`. -/
def weightFormula (parH6 parH7 scaled : ℤ) : ℤ :=
  (parH6 * 128 + (scaled * parH7).tdiv 100) / 16

/-- `var5` of `calc_humidity`, for its `var3`. -/
def squareFormula (product : ℤ) : ℤ :=
  product / 16384 * (product / 16384) / 1024

/-- The humidity before its cap, for a `var3` and a `var4`. -/
def humidityFormula (product weight : ℤ) : ℤ :=
  (product + weight * squareFormula product / 2) / 1024 * 1000 / 4096

/-- The cap of the humidity at 100 percent, and at zero. -/
def cappedFormula (humidity : ℤ) : ℤ :=
  max 0 (min humidity 100000)

/-- The steps to `var1`. -/
structure ReadingFits (parH1 parH3 scaled humidAdc : ℤ) : Prop where
  first : Fits32 (parH1 * 16)
  difference : Fits32 (humidAdc - parH1 * 16)
  third : Fits32 (scaled * parH3)
  reading : Fits32 (readingFormula parH1 parH3 scaled humidAdc)

/-- The steps to `var2`. -/
structure FactorFits (parH2 parH4 parH5 scaled : ℤ) : Prop where
  fourth : Fits32 (scaled * parH4)
  fifth : Fits32 (scaled * parH5)
  square : Fits32 (scaled * (scaled * parH5).tdiv 100)
  two : Fits32 ((scaled * parH4).tdiv 100 + (scaled * (scaled * parH5).tdiv 100 / 64).tdiv 100)
  sum : Fits32 (temperatureFactor parH4 parH5 scaled)
  second : Fits32 (parH2 * temperatureFactor parH4 parH5 scaled)

/-- The steps to `var4`. -/
structure WeightFits (parH6 parH7 scaled : ℤ) : Prop where
  sixth : Fits32 (parH6 * 128)
  seventh : Fits32 (scaled * parH7)
  sum : Fits32 (parH6 * 128 + (scaled * parH7).tdiv 100)

/-- The steps from `var1`, `var2` and `var4` to the humidity before its cap. -/
structure HumidityFits (reading factor weight : ℤ) : Prop where
  product : Fits32 (reading * factor)
  square : Fits32 (reading * factor / 16384 * (reading * factor / 16384))
  curve : Fits32 (weight * squareFormula (reading * factor))
  sum : Fits32 (reading * factor + weight * squareFormula (reading * factor) / 2)
  thousand : Fits32
    ((reading * factor + weight * squareFormula (reading * factor) / 2) / 1024 * 1000)

/-- A division by 100 cuts off towards zero. -/
theorem toInt_div_hundred {word : Int32} {value : ℤ} (hword : word.toInt = value) :
    (word / 100).toInt = value.tdiv 100 :=
  toInt_div32 hword rfl (by decide)

/-- `var1` of `calc_humidity`. -/
theorem toInt_reading {parH1 humidAdc : UInt16} {parH3 : Int8} {scaled : Int32} {value : ℤ}
    (hscaled : scaled.toInt = value)
    (hfits : ReadingFits parH1.toNat parH3.toInt value humidAdc.toNat) :
    ((humidAdc.toUInt32.toInt32 - (parH1.toUInt32.toInt32 * 16)) -
        (((scaled * parH3.toInt32) / (100 : Int32)) >>> (1 : Int32))).toInt =
      readingFormula parH1.toNat parH3.toInt value humidAdc.toNat := by
  have hfirst : (parH1.toUInt32.toInt32 * 16).toInt = parH1.toNat * 16 :=
    toInt_mul32 (toInt_widened16 parH1) rfl hfits.first
  have hthird : (((scaled * parH3.toInt32) / (100 : Int32)) >>> (1 : Int32)).toInt =
      (value * parH3.toInt).tdiv 100 / 2 :=
    toInt_shr32 (toInt_div_hundred (toInt_mul32 hscaled (Int8.toInt_toInt32 parH3) hfits.third))
      (by decide) (by decide)
  exact toInt_sub32 (toInt_sub32 (toInt_widened16 humidAdc) hfirst hfits.difference) hthird
    hfits.reading

/-- `var2` of `calc_humidity`. -/
theorem toInt_factor {parH2 : UInt16} {parH4 parH5 : Int8} {scaled : Int32} {value : ℤ}
    (hscaled : scaled.toInt = value)
    (hfits : FactorFits parH2.toNat parH4.toInt parH5.toInt value) :
    ((parH2.toUInt32.toInt32 *
        (((scaled * parH4.toInt32) / (100 : Int32)) +
          (((scaled * ((scaled * parH5.toInt32) / (100 : Int32))) >>> (6 : Int32)) /
            (100 : Int32)) + ((1 : Int32) <<< (14 : Int32)))) >>> 10).toInt =
      factorFormula parH2.toNat parH4.toInt parH5.toInt value := by
  have hfourth : ((scaled * parH4.toInt32) / (100 : Int32)).toInt =
      (value * parH4.toInt).tdiv 100 :=
    toInt_div_hundred (toInt_mul32 hscaled (Int8.toInt_toInt32 parH4) hfits.fourth)
  have hfifth : ((scaled * parH5.toInt32) / (100 : Int32)).toInt =
      (value * parH5.toInt).tdiv 100 :=
    toInt_div_hundred (toInt_mul32 hscaled (Int8.toInt_toInt32 parH5) hfits.fifth)
  have hsquare : (((scaled * ((scaled * parH5.toInt32) / (100 : Int32))) >>> (6 : Int32)) /
      (100 : Int32)).toInt = (value * (value * parH5.toInt).tdiv 100 / 64).tdiv 100 :=
    toInt_div_hundred (toInt_shr32 (toInt_mul32 hscaled hfifth hfits.square) (by decide)
      (by decide))
  have hsum := toInt_add32 (toInt_add32 hfourth hsquare hfits.two)
    (show ((1 : Int32) <<< (14 : Int32)).toInt = 16384 by decide) hfits.sum
  exact toInt_shr32 (toInt_mul32 (toInt_widened16 parH2) hsum hfits.second) (by decide) (by decide)

/-- `var4` of `calc_humidity`. -/
theorem toInt_weight {parH6 : UInt8} {parH7 : Int8} {scaled : Int32} {value : ℤ}
    (hscaled : scaled.toInt = value) (hfits : WeightFits parH6.toNat parH7.toInt value) :
    (((parH6.toUInt32.toInt32 <<< 7) + ((scaled * parH7.toInt32) / 100)) >>> 4).toInt =
      weightFormula parH6.toNat parH7.toInt value := by
  have hsixth : (parH6.toUInt32.toInt32 <<< 7).toInt = parH6.toNat * 128 :=
    toInt_shl32 (toInt_widened8 parH6) (by decide) (by decide) hfits.sixth
  have hseventh : ((scaled * parH7.toInt32) / 100).toInt = (value * parH7.toInt).tdiv 100 :=
    toInt_div_hundred (toInt_mul32 hscaled (Int8.toInt_toInt32 parH7) hfits.seventh)
  exact toInt_shr32 (toInt_add32 hsixth hseventh hfits.sum) (by decide) (by decide)

/-- The humidity before its cap. -/
theorem toInt_humidity {reading factor weight : Int32} {readingValue factorValue weightValue : ℤ}
    (hreading : reading.toInt = readingValue) (hfactor : factor.toInt = factorValue)
    (hweight : weight.toInt = weightValue)
    (hfits : HumidityFits readingValue factorValue weightValue) :
    ((((reading * factor + ((weight * ((((reading * factor) >>> 14) *
        ((reading * factor) >>> 14)) >>> 10)) >>> 1)) >>> 10) * 1000) >>> 12).toInt =
      humidityFormula (readingValue * factorValue) weightValue := by
  have hproduct := toInt_mul32 hreading hfactor hfits.product
  have hpart : ((reading * factor) >>> 14).toInt = readingValue * factorValue / 16384 :=
    toInt_shr32 hproduct (by decide) (by decide)
  have hsquare : ((((reading * factor) >>> 14) * ((reading * factor) >>> 14)) >>> 10).toInt =
      squareFormula (readingValue * factorValue) :=
    toInt_shr32 (toInt_mul32 hpart hpart hfits.square) (by decide) (by decide)
  have hcurve : ((weight * ((((reading * factor) >>> 14) *
      ((reading * factor) >>> 14)) >>> 10)) >>> 1).toInt =
      weightValue * squareFormula (readingValue * factorValue) / 2 :=
    toInt_shr32 (toInt_mul32 hweight hsquare hfits.curve) (by decide) (by decide)
  have hsum : ((reading * factor + ((weight * ((((reading * factor) >>> 14) *
      ((reading * factor) >>> 14)) >>> 10)) >>> 1)) >>> 10).toInt =
      (readingValue * factorValue +
        weightValue * squareFormula (readingValue * factorValue) / 2) / 1024 :=
    toInt_shr32 (toInt_add32 hproduct hcurve hfits.sum) (by decide) (by decide)
  exact toInt_shr32 (toInt_mul32 hsum (show (1000 : Int32).toInt = 1000 from rfl) hfits.thousand)
    (by decide) (by decide)

/-- The cap at the end of `calc_humidity`. -/
theorem toNat_cap {word : Int32} {value : ℤ} (hword : word.toInt = value) :
    ((if word > 100000 then (100000 : UInt32) else if word < 0 then 0
      else word.toUInt32).toNat : ℤ) = cappedFormula value := by
  subst hword
  exact toNat_capped word

end Bme680.Driver
