import Bme680.Driver.ExactFormulas

/-!
# Which steps of the compensation fit

The bounds of the parameters and of the raw values go through the formulas step by step. On raw
temperatures of twenty bits all the steps to the fine temperature fit, and so do those to the
subtrahend and the divisor of the pressure. For each other group of steps the bounds leave one or a
few steps on which the rest depends: a group fits exactly when these do.
-/

set_option autoImplicit false
set_option relaxedAutoImplicit false

namespace Bme680.Driver

open Arithmetic

/-! ### The temperature -/

/-- The offset of a raw temperature of twenty bits. -/
theorem within_offset (parT1 : UInt16) {tempAdc : ℤ}
    (htemp : 0 ≤ tempAdc ∧ tempAdc < 1048576) :
    Within 131071 (temperatureOffset parT1.toNat tempAdc) := by
  obtain ⟨hlow, hhigh⟩ := within_toNat16 parT1
  unfold Within temperatureOffset
  omega

theorem offsetFits (parT1 : UInt16) {tempAdc : ℤ} (htemp : 0 ≤ tempAdc ∧ tempAdc < 1048576) :
    OffsetFits parT1.toNat tempAdc where
  doubled := by
    have hdoubled : Within 131070 ((parT1.toNat : ℤ) * 2) :=
      (within_toNat16 parT1).mul (within_self (by decide)) (by decide)
    exact hdoubled.fits32 (by decide)
  offset := (within_offset parT1 htemp).fits32 (by decide)

section Fine

variable (parT2 : Int16) (parT3 : Int8) {offset : ℤ} (hoffset : Within 131071 offset)

include hoffset

/-- The square in the fine temperature. -/
theorem within_fineSquare : Within 1048608 (offset / 2 * (offset / 2) / 4096) := by
  have hhalf : Within 65536 (offset / 2) := hoffset.ediv (by decide) (by decide)
  exact (hhalf.mul hhalf (le_refl _)).ediv (by decide) (by decide)

/-- The two terms of the fine temperature. -/
theorem within_fineTerms : Within 2097136 (offset * parT2.toInt / 2048) ∧
    Within 131076 (offset / 2 * (offset / 2) / 4096 * (parT3.toInt * 16) / 16384) := by
  have hfactor : Within 2048 (parT3.toInt * 16) :=
    (within_toInt8 parT3).mul (within_self (by decide)) (by decide)
  exact ⟨(hoffset.mul (within_toInt16 parT2) (le_refl _)).ediv (by decide) (by decide),
    ((within_fineSquare hoffset).mul hfactor (le_refl _)).ediv (by decide) (by decide)⟩

theorem within_fine : Within 2300000 (fineFormula parT2.toInt parT3.toInt offset) :=
  (within_fineTerms parT2 parT3 hoffset).1.add (within_fineTerms parT2 parT3 hoffset).2 (by decide)

theorem fineFits : FineFits parT2.toInt parT3.toInt offset := by
  have hfactor : Within 2048 (parT3.toInt * 16) :=
    (within_toInt8 parT3).mul (within_self (by decide)) (by decide)
  have hhalf : Within 65536 (offset / 2) := hoffset.ediv (by decide) (by decide)
  exact {
    linear := (hoffset.mul (within_toInt16 parT2) (le_refl _)).fits64 (by decide)
    square := (hhalf.mul hhalf (le_refl _)).fits64 (by decide)
    factor := hfactor.fits32 (by decide)
    quadratic := ((within_fineSquare hoffset).mul hfactor (le_refl _)).fits64 (by decide)
    sum := (within_fine parT2 parT3 hoffset).fits64 (by decide)
    fine := (within_fine parT2 parT3 hoffset).fits32 (by decide) }

end Fine

/-- The fine temperature that `calc_temperature` leaves is that of the formula, on raw temperatures
of twenty bits. -/
theorem toInt_calcTemperature (data : Bme680Data) {tempAdc : Int32}
    (htemp : 0 ≤ tempAdc.toInt ∧ tempAdc.toInt < 1048576) :
    (calcTemperature data tempAdc).1.tFine.toInt =
      fineFormula data.bme680.parT2.toInt data.bme680.parT3.toInt
        (temperatureOffset data.bme680.parT1.toNat tempAdc.toInt) :=
  toInt_fine (toInt_offset (offsetFits data.bme680.parT1 htemp))
    (fineFits data.bme680.parT2 data.bme680.parT3 (within_offset data.bme680.parT1 htemp))

/-- The fine temperature of a raw temperature of twenty bits is in its range. -/
theorem fineInRange_calcTemperature (data : Bme680Data) {tempAdc : Int32}
    (htemp : 0 ≤ tempAdc.toInt ∧ tempAdc.toInt < 1048576) :
    FineInRange (calcTemperature data tempAdc).1.tFine := by
  unfold FineInRange
  rw [toInt_calcTemperature data htemp]
  exact within_fine _ _ (within_offset data.bme680.parT1 htemp)

section Scaled

variable {fine : ℤ}

theorem scaledFits (hfine : Within 2300000 fine) : ScaledFits fine := by
  have hfive : Within 11500000 (fine * 5) := hfine.mul (within_self (by decide)) (by decide)
  have hrounded : Within 11500128 (fine * 5 + 128) :=
    hfive.add (within_self (by decide)) (by decide)
  exact ⟨hfive.fits32 (by decide), hrounded.fits32 (by decide)⟩

/-- The temperature fits a word of 16 bits up to a fine temperature of about 1.68 million. -/
theorem fits16_scaled_iff :
    Fits16 (scaledFormula fine) ↔ -1677747 ≤ fine ∧ fine ≤ 1677695 := by
  unfold Fits16 scaledFormula
  omega

/-- A fine temperature in its range is scaled to one in its range. -/
theorem FineInRange.scaled {tFine : Int32} (hrange : FineInRange tFine) : ScaledInRange tFine := by
  have hscaled := toInt_tempScaled (scaledFits (show Within 2300000 tFine.toInt from hrange))
  unfold ScaledInRange
  rw [hscaled]
  unfold FineInRange at hrange
  unfold scaledFormula
  omega

end Scaled

/-! ### The pressure -/

theorem within_pressureOffset {fine : ℤ} (hfine : Within 2300000 fine) :
    Within 1214000 (pressureOffset fine) := by
  have hhalf : Within 1150000 (fine / 2) := hfine.ediv (by decide) (by decide)
  exact hhalf.sub (within_self (by decide)) (by decide)

section Offset

variable {offset : ℤ} (hoffset : Within 1214000 offset)

include hoffset

/-- The square in the subtrahend and in the divisor. -/
theorem within_offsetSquare : Within 92112250000 (offset / 4 * (offset / 4)) := by
  have hquarter : Within 303500 (offset / 4) := hoffset.ediv (by decide) (by decide)
  exact hquarter.mul hquarter (by decide)

section Subtrahend

variable (parP4 parP5 : Int16) (parP6 : Int8)

/-- The term of `par_p6`. -/
theorem within_sixthTerm : Within 5760000000 (offset / 4 * (offset / 4) / 2048 * parP6.toInt) := by
  have hsquare : Within 45000000 (offset / 4 * (offset / 4) / 2048) :=
    (within_offsetSquare hoffset).ediv (by decide) (by decide)
  exact hsquare.mul (within_toInt8 parP6) (by decide)

/-- The term of `par_p5`. -/
theorem within_fifthTerm : Within 79600000000 (offset * parP5.toInt * 2) :=
  (hoffset.mul (within_toInt16 parP5) (le_refl _)).mul (within_self (by decide)) (by decide)

/-- The sum of the two terms. -/
theorem within_subtrahendTerms : Within 81040000000
    (offset / 4 * (offset / 4) / 2048 * parP6.toInt / 4 + offset * parP5.toInt * 2) := by
  have hsixth : Within 1440000000 (offset / 4 * (offset / 4) / 2048 * parP6.toInt / 4) :=
    (within_sixthTerm hoffset parP6).ediv (by decide) (by decide)
  exact hsixth.add (within_fifthTerm hoffset parP5) (by decide)

theorem within_subtrahend :
    Within 22410000000 (subtrahendFormula parP4.toInt parP5.toInt parP6.toInt offset) := by
  have hterms : Within 20260000000
      ((offset / 4 * (offset / 4) / 2048 * parP6.toInt / 4 + offset * parP5.toInt * 2) / 4) :=
    (within_subtrahendTerms hoffset parP5 parP6).ediv (by decide) (by decide)
  have hfourth : Within 2147483648 (parP4.toInt * 65536) :=
    (within_toInt16 parP4).mul (within_self (by decide)) (by decide)
  exact hterms.add hfourth (by decide)

theorem subtrahendFits :
    SubtrahendFits parP4.toInt parP5.toInt parP6.toInt offset where
  square := (within_offsetSquare hoffset).fits64 (by decide)
  quadratic := (within_sixthTerm hoffset parP6).fits64 (by decide)
  linear := (hoffset.mul (within_toInt16 parP5) (le_refl _)).fits64 (by decide)
  doubled := (within_fifthTerm hoffset parP5).fits64 (by decide)
  inner := (within_subtrahendTerms hoffset parP5 parP6).fits64 (by decide)
  shifted := ((within_toInt16 parP4).mul (within_self (by decide)) (le_refl _)).fits64
    (by decide)
  sum := (within_subtrahend hoffset parP4 parP5 parP6).fits64 (by decide)

end Subtrahend

section Divisor

variable (parP1 : UInt16) (parP2 : Int16) (parP3 : Int8)

/-- The term of `par_p3`. -/
theorem within_thirdTerm :
    Within 46060000000 (offset / 4 * (offset / 4) / 8192 * (parP3.toInt * 32)) := by
  have hsquare : Within 11245000 (offset / 4 * (offset / 4) / 8192) :=
    (within_offsetSquare hoffset).ediv (by decide) (by decide)
  have hfactor : Within 4096 (parP3.toInt * 32) :=
    (within_toInt8 parP3).mul (within_self (by decide)) (by decide)
  exact hsquare.mul hfactor (by decide)

theorem within_slope : Within 25700000000 (slopeFormula parP2.toInt parP3.toInt offset) := by
  have hthird : Within 5757500000 (offset / 4 * (offset / 4) / 8192 * (parP3.toInt * 32) / 8) :=
    (within_thirdTerm hoffset parP3).ediv (by decide) (by decide)
  have hsecond : Within 19900000000 (parP2.toInt * offset / 2) :=
    ((within_toInt16 parP2).mul hoffset (le_refl _)).ediv (by decide) (by decide)
  exact hthird.add hsecond (by decide)

/-- The factor of `par_p1` in the divisor. -/
theorem within_base :
    Within 131072 (32768 + slopeFormula parP2.toInt parP3.toInt offset / 262144) := by
  have hpart : Within 98100 (slopeFormula parP2.toInt parP3.toInt offset / 262144) :=
    (within_slope hoffset parP2 parP3).ediv (by decide) (by decide)
  exact (within_self (show (0 : ℤ) ≤ 32768 by decide)).add hpart (by decide)

theorem divisorFits : DivisorFits parP1.toNat parP2.toInt parP3.toInt offset where
  square := (within_offsetSquare hoffset).fits64 (by decide)
  factor := ((within_toInt8 parP3).mul (within_self (by decide)) (le_refl _)).fits64
    (by decide)
  quadratic := (within_thirdTerm hoffset parP3).fits64 (by decide)
  linear := ((within_toInt16 parP2).mul hoffset (le_refl _)).fits64 (by decide)
  slope := (within_slope hoffset parP2 parP3).fits64 (by decide)
  base := (within_base hoffset parP2 parP3).fits64 (by decide)
  product := ((within_base hoffset parP2 parP3).mul (within_toNat16 parP1) (le_refl _)).fits64
    (by decide)

end Divisor

end Offset

/-- The dividend fits exactly when it converts to an unsigned word: the reading minus the
subtrahend is not negative and at most 1374389. -/
theorem dividendFits_iff {pressureAdc subtrahend : ℤ}
    (hpressure : 0 ≤ pressureAdc ∧ pressureAdc < 1048576)
    (hsubtrahend : Within 22410000000 subtrahend) :
    DividendFits pressureAdc subtrahend ↔
      0 ≤ 1048576 - pressureAdc - subtrahend / 4096 ∧
        1048576 - pressureAdc - subtrahend / 4096 ≤ 1374389 := by
  have hreading : Within 1048576 (1048576 - pressureAdc) := by
    unfold Within
    omega
  have hpart : Within 5471192 (subtrahend / 4096) := hsubtrahend.ediv (by decide) (by decide)
  have hdifference : Within 6519768 (1048576 - pressureAdc - subtrahend / 4096) :=
    hreading.sub hpart (by decide)
  constructor
  · intro hfits
    have hdividend := hfits.dividend
    unfold FitsUnsigned32 dividendFormula at hdividend
    omega
  · intro hrange
    exact {
      reading := by
        unfold FitsUnsigned32
        omega
      difference := hdifference.fits64 (by decide)
      product := (hdifference.mul (within_self (by decide)) (le_refl _)).fits64 (by decide)
      dividend := by
        unfold FitsUnsigned32 dividendFormula
        omega }

section Press

variable {dividend divisor : ℤ} (hdividend : FitsUnsigned32 dividend)

include hdividend

theorem within_press : Within 4294967295000 (dividend.tdiv divisor * 1000) :=
  (hdividend.within.tdiv_any divisor).mul (within_self (by decide)) (by decide)

/-- The division fits exactly when the divisor is not zero. -/
theorem quotientFits_iff : QuotientFits dividend divisor ↔ divisor ≠ 0 := by
  constructor
  · intro hfits
    exact hfits.nonzero
  · intro hnonzero
    exact ⟨hnonzero, (hdividend.within.tdiv_any divisor).fits64 (by decide),
      (within_press hdividend).fits64 (by decide)⟩

end Press

/-- The correction of a pressure fits exactly when its result converts to an unsigned word. -/
theorem correctionFits_iff (parP7 : Int8) (parP8 parP9 : Int16) (parP10 : UInt8) {press : ℤ}
    (hpress : Within 4294967295000 press) :
    CorrectionFits parP7.toInt parP8.toInt parP9.toInt parP10.toNat press ↔
      FitsUnsigned32 (correctedFormula parP7.toInt parP8.toInt parP9.toInt parP10.toNat press) := by
  have hpart : Within 524288001 (press / 8192) := hpress.ediv (by decide) (by decide)
  have hpartSquare : Within 274877907993600001 (press / 8192 * (press / 8192)) :=
    hpart.mul hpart (by decide)
  have hsquare : Within 67108864257000 (pressureSquare press) :=
    hpartSquare.ediv (by decide) (by decide)
  have hninth : Within 2199023263973376000 (parP9.toInt * pressureSquare press) :=
    (within_toInt16 parP9).mul hsquare (by decide)
  have height : Within 140737488322560000 (parP8.toInt * press) :=
    (within_toInt16 parP8).mul hpress (by decide)
  have htenth : Within 1095216660225000 (parP10.toNat * press) :=
    (within_toNat8 parP10).mul hpress (by decide)
  have htwo : Within 333971456400
      (parP9.toInt * pressureSquare press / 33554432 + parP8.toInt * press / 524288) :=
    (hninth.ediv (by decide) (show _ ≤ 65536000400 * _ by decide)).add
      (height.ediv (by decide) (show _ ≤ 268435456000 * _ by decide)) (by decide)
  have hthree : Within 333971456404
      (parP9.toInt * pressureSquare press / 33554432 + parP8.toInt * press / 524288 +
        parP10.toNat * press / 281474976710656) :=
    htwo.add (htenth.ediv (by decide) (show _ ≤ 4 * _ by decide)) (by decide)
  have hseventh : Within 16384 (parP7.toInt * 128) :=
    (within_toInt8 parP7).mul (within_self (by decide)) (by decide)
  have hcorrection : Within 333971472788
      (correctionFormula parP7.toInt parP8.toInt parP9.toInt parP10.toNat press) :=
    hthree.add hseventh (by decide)
  have hcorrected : Within 4315840512050
      (correctedFormula parP7.toInt parP8.toInt parP9.toInt parP10.toNat press) :=
    hpress.add (hcorrection.ediv (by decide) (show _ ≤ 20873217050 * _ by decide)) (by decide)
  constructor
  · intro hfits
    exact hfits.result
  · intro hresult
    exact {
      square := hpartSquare.fits64 (by decide)
      ninth := hninth.fits64 (by decide)
      eighth := height.fits64 (by decide)
      tenth := htenth.fits64 (by decide)
      two := htwo.fits64 (by decide)
      three := hthree.fits64 (by decide)
      seventh := hseventh.fits64 (by decide)
      correction := hcorrection.fits64 (by decide)
      corrected := hcorrected.fits64 (by decide)
      result := hresult }

/-! ### The humidity -/

section Humidity

variable {scaled : ℤ} (hscaled : Within 32768 scaled)

include hscaled

/-- The product of the temperature and a signed byte. -/
theorem within_byteProduct (byte : Int8) : Within 4194304 (scaled * byte.toInt) :=
  hscaled.mul (within_toInt8 byte) (by decide)

/-- A hundredth of the product of the temperature and a signed byte. -/
theorem within_byteTerm (byte : Int8) : Within 41944 ((scaled * byte.toInt).tdiv 100) :=
  (within_byteProduct hscaled byte).tdiv (by decide) (by decide)

theorem within_reading {parH1 humidAdc : UInt16} (parH3 : Int8) (hparH1 : parH1.toNat < 4096) :
    Within 155000 (readingFormula parH1.toNat parH3.toInt scaled humidAdc.toNat) := by
  have hfirst : Within 65520 ((parH1.toNat : ℤ) * 16) := by
    unfold Within
    omega
  have hthird : Within 20972 ((scaled * parH3.toInt).tdiv 100 / 2) :=
    (within_byteTerm hscaled parH3).ediv (by decide) (by decide)
  exact ((within_toNat16 humidAdc).sub hfirst (le_refl _)).sub hthird (by decide)

theorem readingFits {parH1 humidAdc : UInt16} (parH3 : Int8) (hparH1 : parH1.toNat < 4096) :
    ReadingFits parH1.toNat parH3.toInt scaled humidAdc.toNat where
  first := ((within_toNat16 parH1).mul (within_self (by decide)) (le_refl _)).fits32 (by decide)
  difference := ((within_toNat16 humidAdc).sub
    ((within_toNat16 parH1).mul (within_self (by decide)) (le_refl _)) (le_refl _)).fits32
    (by decide)
  third := (within_byteProduct hscaled parH3).fits32 (by decide)
  reading := (within_reading hscaled parH3 hparH1).fits32 (by decide)

/-- The sum that `par_h2` is a factor of. -/
theorem factorFits {parH2 : UInt16} (parH4 parH5 : Int8) (hparH2 : parH2.toNat < 4096) :
    FactorFits parH2.toNat parH4.toInt parH5.toInt scaled := by
  have hsquare : Within 1374420992 (scaled * (scaled * parH5.toInt).tdiv 100) :=
    hscaled.mul (within_byteTerm hscaled parH5) (by decide)
  have hcurve : Within 214754 ((scaled * (scaled * parH5.toInt).tdiv 100 / 64).tdiv 100) :=
    (hsquare.ediv (by decide) (show _ ≤ 21475328 * _ by decide)).tdiv (by decide) (by decide)
  have htwo : Within 256698 ((scaled * parH4.toInt).tdiv 100 +
      (scaled * (scaled * parH5.toInt).tdiv 100 / 64).tdiv 100) :=
    (within_byteTerm hscaled parH4).add hcurve (by decide)
  have hsum : Within 273082 (temperatureFactor parH4.toInt parH5.toInt scaled) :=
    htwo.add (within_self (by decide)) (by decide)
  have htwelve : Within 4095 (parH2.toNat : ℤ) := by
    unfold Within
    omega
  exact {
    fourth := (within_byteProduct hscaled parH4).fits32 (by decide)
    fifth := (within_byteProduct hscaled parH5).fits32 (by decide)
    square := hsquare.fits32 (by decide)
    two := htwo.fits32 (by decide)
    sum := hsum.fits32 (by decide)
    second := (htwelve.mul hsum (le_refl _)).fits32 (by decide) }

theorem weightFits (parH6 : UInt8) (parH7 : Int8) :
    WeightFits parH6.toNat parH7.toInt scaled := by
  have hsixth : Within 32640 ((parH6.toNat : ℤ) * 128) :=
    (within_toNat8 parH6).mul (within_self (by decide)) (by decide)
  have hsum : Within 74584 ((parH6.toNat : ℤ) * 128 + (scaled * parH7.toInt).tdiv 100) :=
    hsixth.add (within_byteTerm hscaled parH7) (by decide)
  exact ⟨hsixth.fits32 (by decide), (within_byteProduct hscaled parH7).fits32 (by decide),
    hsum.fits32 (by decide)⟩

end Humidity

/-- The last steps of the humidity fit exactly when the square of its `var3`, its multiple by `var4`
and their sum do. -/
theorem humidityFits_iff {reading factor weight : ℤ} :
    HumidityFits reading factor weight ↔
      (-759234560 ≤ reading * factor ∧ reading * factor ≤ 759250943) ∧
        Fits32 (weight * squareFormula (reading * factor)) ∧
        Fits32 (reading * factor + weight * squareFormula (reading * factor) / 2) := by
  constructor
  · intro hfits
    have hroot := square_fits32_iff.mp hfits.square
    unfold Within at hroot
    exact ⟨by omega, hfits.curve, hfits.sum⟩
  · rintro ⟨hproduct, hcurve, hsum⟩
    have hroot : Within 46340 (reading * factor / 16384) := by
      unfold Within
      omega
    have hthousand : Within 2097152000
        ((reading * factor + weight * squareFormula (reading * factor) / 2) / 1024 * 1000) := by
      unfold Fits32 at hsum
      unfold Within
      omega
    exact {
      product := by
        unfold Fits32
        omega
      square := square_fits32_iff.mpr hroot
      curve := hcurve
      sum := hsum
      thousand := hthousand.fits32 (by decide) }

end Bme680.Driver
