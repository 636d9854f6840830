import Bme680.Arithmetic.ExactWords
import Bme680.Driver.Compensation

/-!
# The gas resistance of the high range

`calc_gas_resistance_high` computes in unsigned words of 64 and 32 bits, where its sibling for the
low range computes in signed ones of 64 bits. So it takes a negative `par_gh1` for a number near
2 ^ 32, wraps around below zero on a raw value of zero, and cuts off the bits of large quotients.

`gasResistanceHigh_exact_iff` says on which inputs none of this happens: `par_gh1` is positive, the
raw value is not zero, and what is left of it by one, shifted by 27 minus the range, is at most
128849018.
-/

set_option autoImplicit false
set_option relaxedAutoImplicit false

namespace Bme680.Driver

open Arithmetic

/-! ### The formula over the integers -/

/-- `var2` of `calc_gas_resistance_high`. -/
def gasFactor (gasRange : ℕ) : ℕ :=
  262144 >>> gasRange

/-- The dividend of the first division. -/
def gasDividend (gasAdc gasRange : ℕ) : ℤ :=
  ((gasAdc : ℤ) * 512 - 512) * gasFactor gasRange

/-- The gas resistance. -/
def gasFormula (gasAdc gasRange : ℕ) (parGh1 : ℤ) : ℤ :=
  ((gasDividend gasAdc gasRange).tdiv 3 * 100).tdiv parGh1

/-- The steps of `calc_gas_resistance_high`: the difference and the product in unsigned words of 64
bits, and the conversion of the quotient, its multiple and the conversion of `par_gh1` to unsigned
words of 32 bits. -/
structure GasFits (gasAdc gasRange : ℕ) (parGh1 : ℤ) : Prop where
  difference : 0 ≤ (gasAdc : ℤ) * 512 - 512
  product : gasDividend gasAdc gasRange ≤ 18446744073709551615
  quotient : FitsUnsigned32 ((gasDividend gasAdc gasRange).tdiv 3)
  hundred : FitsUnsigned32 ((gasDividend gasAdc gasRange).tdiv 3 * 100)
  divisor : FitsUnsigned32 parGh1

/-- The gas resistance is exact: all the steps fit, and the result is that of the formula. -/
structure GasResistanceExact (data : Bme680Data) (gasAdc : UInt16) (gasRange : UInt8) : Prop where
  fits : GasFits gasAdc.toNat gasRange.toNat data.bme680.parGh1.toInt
  result : ∃ gas, calcGasResistanceHigh data gasAdc gasRange = some gas ∧
    (gas.toNat : ℤ) = gasFormula gasAdc.toNat gasRange.toNat data.bme680.parGh1.toInt

/-- The inputs on which the gas resistance is exact. -/
structure InGasRange (data : Bme680Data) (gasAdc : UInt16) (gasRange : UInt8) : Prop where
  positive : 1 ≤ gasAdc.toNat
  divisor : 0 < data.bme680.parGh1.toInt
  bound : (gasAdc.toNat - 1) * (1 <<< (27 - gasRange.toNat)) ≤ 128849018

/-! ### The steps -/

/-- The factor of a gas range times 512 is a power of two. -/
theorem gasFactor_mul {gasRange : ℕ} (hrange : gasRange ≤ 15) :
    512 * gasFactor gasRange = 1 <<< (27 - gasRange) := by
  revert gasRange
  decide

/-- The dividend as a natural number. -/
theorem gasDividend_eq {gasAdc gasRange : ℕ} (hadc : 1 ≤ gasAdc) (hrange : gasRange ≤ 15) :
    gasDividend gasAdc gasRange = ((gasAdc - 1) * (1 <<< (27 - gasRange)) : ℕ) := by
  obtain ⟨above, rfl⟩ := Nat.exists_eq_add_of_le hadc
  rw [← gasFactor_mul hrange, Nat.add_sub_cancel_left, gasDividend]
  push_cast
  rw [← mul_assoc]
  congr 1
  omega

/-- The steps fit exactly in the range of three conditions. -/
theorem gasFits_iff {gasAdc gasRange : ℕ} {parGh1 : ℤ} (hadc : gasAdc < 65536)
    (hrange : gasRange ≤ 15) (hparGh1 : -128 ≤ parGh1 ∧ parGh1 ≤ 127) :
    GasFits gasAdc gasRange parGh1 ↔ 1 ≤ gasAdc ∧ 0 ≤ parGh1 ∧
      (gasAdc - 1) * (1 <<< (27 - gasRange)) ≤ 128849018 := by
  constructor
  · intro hfits
    have hdifference := hfits.difference
    have hpositive : 1 ≤ gasAdc := by omega
    -- the multiple by 100 is the narrowest step, and its bound implies those of the others
    have hhundred := hfits.hundred.2
    rw [gasDividend_eq hpositive hrange, Int.tdiv_eq_ediv_of_nonneg (Int.natCast_nonneg _)]
      at hhundred
    refine ⟨hpositive, hfits.divisor.1, ?_⟩
    omega
  · rintro ⟨hpositive, hdivisor, hbound⟩
    have hdividend := gasDividend_eq hpositive hrange
    have hquotient : (gasDividend gasAdc gasRange).tdiv 3 =
        ((gasAdc - 1) * (1 <<< (27 - gasRange)) : ℕ) / 3 := by
      rw [hdividend, Int.tdiv_eq_ediv_of_nonneg (Int.natCast_nonneg _)]
    constructor
    · omega
    · omega
    · rw [hquotient]
      unfold FitsUnsigned32
      omega
    · rw [hquotient]
      unfold FitsUnsigned32
      omega
    · unfold FitsUnsigned32
      omega

/-- The factor in words. -/
theorem toNat_gasFactor {gasRange : UInt8} (hrange : gasRange.toNat ≤ 15) :
    ((262144 : UInt32) >>> gasRange.toUInt32).toNat = gasFactor gasRange.toNat := by
  rw [UInt32.toNat_shiftRight, UInt8.toNat_toUInt32, Nat.mod_eq_of_lt (by omega)]
  rfl

/-- The difference in words, above zero. -/
theorem toNat_gasDifference {gasAdc : UInt16} (hadc : 1 ≤ gasAdc.toNat) :
    (gasAdc.toUInt64 * 512 - 512).toNat = (gasAdc.toNat - 1) * 512 := by
  have hlt := gasAdc.toNat_lt
  have hproduct : (gasAdc.toUInt64 * 512).toNat = gasAdc.toNat * 512 := by
    rw [UInt64.toNat_mul, UInt16.toNat_toUInt64]
    exact Nat.mod_eq_of_lt (by change gasAdc.toNat * 512 < _; omega)
  have hle : (512 : UInt64) ≤ gasAdc.toUInt64 * 512 := by
    rw [UInt64.le_iff_toNat_le, hproduct]
    change 512 ≤ gasAdc.toNat * 512
    omega
  rw [UInt64.toNat_sub_of_le _ _ hle, hproduct]
  change gasAdc.toNat * 512 - 512 = _
  omega

/-- The quotient in words, where it is below 2 ^ 32. -/
theorem toNat_gasQuotient {gasAdc : UInt16} {gasRange : UInt8} (hadc : 1 ≤ gasAdc.toNat)
    (hrange : gasRange.toNat ≤ 15)
    (hbound : (gasAdc.toNat - 1) * (1 <<< (27 - gasRange.toNat)) ≤ 128849018) :
    ((gasAdc.toUInt64 * 512 - 512) *
        ((262144 : UInt32) >>> gasRange.toUInt32).toUInt64 / 3).toUInt32.toNat =
      (gasAdc.toNat - 1) * (1 <<< (27 - gasRange.toNat)) / 3 := by
  have hproduct : ((gasAdc.toUInt64 * 512 - 512) *
      ((262144 : UInt32) >>> gasRange.toUInt32).toUInt64).toNat =
      (gasAdc.toNat - 1) * (1 <<< (27 - gasRange.toNat)) := by
    rw [UInt64.toNat_mul, toNat_gasDifference hadc, UInt32.toNat_toUInt64,
      toNat_gasFactor hrange, Nat.mul_assoc, gasFactor_mul hrange]
    exact Nat.mod_eq_of_lt (by omega)
  rw [UInt64.toNat_toUInt32, UInt64.toNat_div, hproduct]
  exact Nat.mod_eq_of_lt (by change _ / 3 < _; omega)

/-- `par_gh1` in words, where it is not negative. -/
theorem toNat_gasDivisor {parGh1 : Int8} (hparGh1 : 0 ≤ parGh1.toInt) :
    (parGh1.toInt32.toUInt32.toNat : ℤ) = parGh1.toInt := by
  have hword := Int8.toInt_toInt32 parGh1
  rw [toNat_toUInt32_of_nonneg (by rw [hword]; exact hparGh1), hword]

/-! ### Where the result is exact -/

/-- Where the steps fit, the result is that of the formula. -/
theorem calcGasResistanceHigh_exact {data : Bme680Data} {gasAdc : UInt16} {gasRange : UInt8}
    (hrange : gasRange.toNat ≤ 15) (hin : InGasRange data gasAdc gasRange) :
    ∃ gas, calcGasResistanceHigh data gasAdc gasRange = some gas ∧
      (gas.toNat : ℤ) = gasFormula gasAdc.toNat gasRange.toNat data.bme680.parGh1.toInt := by
  have hquotient := toNat_gasQuotient hin.positive hrange hin.bound
  have hdivisor := toNat_gasDivisor hin.divisor.le
  have hnonzero : data.bme680.parGh1.toInt32.toUInt32 ≠ 0 := by
    intro hzero
    rw [hzero] at hdivisor
    exact absurd hdivisor hin.divisor.ne
  refine ⟨_, if_neg hnonzero, ?_⟩
  have hbound := hin.bound
  rw [UInt32.toNat_div, UInt32.toNat_mul, hquotient, gasFormula,
    gasDividend_eq hin.positive hrange, Int.tdiv_eq_ediv_of_nonneg (Int.natCast_nonneg _),
    ← hdivisor, Int.tdiv_eq_ediv_of_nonneg (by omega), Int.natCast_ediv]
  refine congrArg (· / (data.bme680.parGh1.toInt32.toUInt32.toNat : ℤ)) ?_
  change (((gasAdc.toNat - 1) * (1 <<< (27 - gasRange.toNat)) / 3 * 100 % 4294967296 : ℕ) : ℤ) = _
  omega

/-- The gas resistance of a frame is exact exactly in the range of three conditions. -/
theorem gasResistanceHigh_exact_iff {data : Bme680Data} {gasAdc : UInt16} {gasRange : UInt8}
    (hrange : gasRange.toNat ≤ 15) (hnonzero : data.bme680.parGh1 ≠ 0) :
    GasResistanceExact data gasAdc gasRange ↔ InGasRange data gasAdc gasRange := by
  have hparGh1 : data.bme680.parGh1.toInt ≠ 0 := fun hzero ↦
    hnonzero (Int8.toInt_inj.mp hzero)
  have hfitsIff := @gasFits_iff gasAdc.toNat gasRange.toNat data.bme680.parGh1.toInt
    gasAdc.toNat_lt hrange ⟨data.bme680.parGh1.le_toInt, data.bme680.parGh1.toInt_le⟩
  constructor
  · intro hexact
    obtain ⟨hadc, hdivisor, hbound⟩ := hfitsIff.mp hexact.fits
    exact ⟨hadc, lt_of_le_of_ne hdivisor hparGh1.symm, hbound⟩
  · intro hin
    exact ⟨hfitsIff.mpr ⟨hin.positive, hin.divisor.le, hin.bound⟩,
      calcGasResistanceHigh_exact hrange hin⟩

/-- The state of a driver with a given `par_gh1`. -/
def gasState (parGh1 : Int8) : Bme680Data :=
  unmeasured.calibrated { unmeasured.bme680 with parGh1 := parGh1 }

/-- The resistance of a raw value of 317 in range nine is exact on a `par_gh1` of 23. -/
theorem gasResistanceHigh_exact_range_nine : GasResistanceExact (gasState 23) 317 9 :=
  (@gasResistanceHigh_exact_iff (gasState 23) 317 9 (by decide) (by decide)).mpr
    ⟨by decide, by decide, by decide⟩

/-- The resistance of a raw value of 512 in range zero wraps around. -/
theorem gas_resistance_wraps_around :
    ¬ ∀ (data : Bme680Data) (gasAdc : UInt16) (gasRange : UInt8), gasRange.toNat ≤ 15 →
      data.bme680.parGh1 ≠ 0 → GasResistanceExact data gasAdc gasRange := by
  intro hall
  obtain ⟨gas, hgas, hvalue⟩ := (hall (gasState 30) 512 0 (by decide) (by decide)).result
  have hword : calcGasResistanceHigh (gasState 30) 512 0 = some 41756624 := by decide
  rw [hword, Option.some.injEq] at hgas
  subst hgas
  exact absurd hvalue (by decide)

end Bme680.Driver
