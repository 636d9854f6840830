import Bme680.Arithmetic.SignedWords

/-!
# Operations on signed words that are exact

A word denotes an integer. Where the operands of an operation denote integers and the exact result
is in the range of the words, the result of the operation denotes it. The lemmas here say so for the
operations of fixed-point formulas, with the value of each operand given by an equation, so that the
value of a formula is put together along its syntax. Whether a result is in the range follows from
bounds on the magnitudes of the operands (`Within`), put together in the same way.
-/

set_option autoImplicit false
set_option relaxedAutoImplicit false

namespace Bme680.Arithmetic

/-! ### Ranges -/

/-- The range of signed words of 16 bits. -/
def Fits16 (value : ℤ) : Prop :=
  -32768 ≤ value ∧ value ≤ 32767

/-- The range of signed words of 32 bits. -/
def Fits32 (value : ℤ) : Prop :=
  -2147483648 ≤ value ∧ value ≤ 2147483647

/-- The range of signed words of 64 bits. -/
def Fits64 (value : ℤ) : Prop :=
  -9223372036854775808 ≤ value ∧ value ≤ 9223372036854775807

/-- The range of unsigned words of 32 bits. -/
def FitsUnsigned32 (value : ℤ) : Prop :=
  0 ≤ value ∧ value ≤ 4294967295

variable {firstValue secondValue : ℤ}

/-! ### Words of 32 bits -/

section Words32

variable {first second : Int32} (hfirst : first.toInt = firstValue)
  (hsecond : second.toInt = secondValue)

include hfirst hsecond

theorem toInt_add32 (hfits : Fits32 (firstValue + secondValue)) :
    (first + second).toInt = firstValue + secondValue := by
  rw [Int32.toInt_add, hfirst, hsecond]
  exact bmod_of_range32 hfits.1 hfits.2

theorem toInt_sub32 (hfits : Fits32 (firstValue - secondValue)) :
    (first - second).toInt = firstValue - secondValue := by
  rw [Int32.toInt_sub, hfirst, hsecond]
  exact bmod_of_range32 hfits.1 hfits.2

theorem toInt_mul32 (hfits : Fits32 (firstValue * secondValue)) :
    (first * second).toInt = firstValue * secondValue := by
  rw [Int32.toInt_mul, hfirst, hsecond]
  exact bmod_of_range32 hfits.1 hfits.2

/-- A division by a word other than -1 is exact. -/
theorem toInt_div32 (hdivisor : second ≠ -1) :
    (first / second).toInt = firstValue.tdiv secondValue := by
  rw [Int32.toInt_div_of_ne_right _ _ hdivisor, hfirst, hsecond]

omit hsecond

theorem toInt_shr32 {places : ℕ} {factor : ℤ} (hplaces : places < 32)
    (hfactor : 2 ^ places = factor) :
    (first >>> (no_index (OfNat.ofNat places : Int32))).toInt = firstValue / factor := by
  rw [toInt_shiftRight32 _ hplaces, hfirst, hfactor]

theorem toInt_shl32 {places : ℕ} {factor : ℤ} (hplaces : places < 32)
    (hfactor : 2 ^ places = factor) (hfits : Fits32 (firstValue * factor)) :
    (first <<< (no_index (OfNat.ofNat places : Int32))).toInt = firstValue * factor := by
  rw [toInt_shiftLeft32 _ hplaces, hfirst, hfactor]
  exact bmod_of_range32 hfits.1 hfits.2

end Words32

/-! ### Words of 64 bits -/

section Words64

variable {first second : Int64} (hfirst : first.toInt = firstValue)
  (hsecond : second.toInt = secondValue)

include hfirst hsecond

theorem toInt_add64 (hfits : Fits64 (firstValue + secondValue)) :
    (first + second).toInt = firstValue + secondValue := by
  rw [Int64.toInt_add, hfirst, hsecond]
  exact bmod_of_range64 hfits.1 hfits.2

theorem toInt_sub64 (hfits : Fits64 (firstValue - secondValue)) :
    (first - second).toInt = firstValue - secondValue := by
  rw [Int64.toInt_sub, hfirst, hsecond]
  exact bmod_of_range64 hfits.1 hfits.2

theorem toInt_mul64 (hfits : Fits64 (firstValue * secondValue)) :
    (first * second).toInt = firstValue * secondValue := by
  rw [Int64.toInt_mul, hfirst, hsecond]
  exact bmod_of_range64 hfits.1 hfits.2

theorem toInt_div64 (hfits : Fits64 (firstValue.tdiv secondValue)) :
    (first / second).toInt = firstValue.tdiv secondValue := by
  rw [Int64.toInt_div, hfirst, hsecond]
  exact bmod_of_range64 hfits.1 hfits.2

omit hsecond

theorem toInt_shr64 {places : ℕ} {factor : ℤ} (hplaces : places < 64)
    (hfactor : 2 ^ places = factor) :
    (first >>> (no_index (OfNat.ofNat places : Int64))).toInt = firstValue / factor := by
  rw [toInt_shiftRight64 _ hplaces, hfirst, hfactor]

theorem toInt_shl64 {places : ℕ} {factor : ℤ} (hplaces : places < 64)
    (hfactor : 2 ^ places = factor) (hfits : Fits64 (firstValue * factor)) :
    (first <<< (no_index (OfNat.ofNat places : Int64))).toInt = firstValue * factor := by
  rw [toInt_shiftLeft64 _ hplaces, hfirst, hfactor]
  exact bmod_of_range64 hfits.1 hfits.2

end Words64

/-! ### Magnitudes -/

/-- An integer is between the negation of a bound and the bound. -/
def Within (bound value : ℤ) : Prop :=
  -bound ≤ value ∧ value ≤ bound

section Magnitudes

variable {bound firstBound secondBound value : ℤ}

/-- Bounds up to those of words of 32 bits fit them. -/
theorem Within.fits32 (hvalue : Within bound value) (hbound : bound ≤ 2147483647) :
    Fits32 value := by
  obtain ⟨hlow, hhigh⟩ := hvalue
  exact ⟨by omega, by omega⟩

/-- Bounds up to those of words of 64 bits fit them. -/
theorem Within.fits64 (hvalue : Within bound value) (hbound : bound ≤ 9223372036854775807) :
    Fits64 value := by
  obtain ⟨hlow, hhigh⟩ := hvalue
  exact ⟨by omega, by omega⟩

/-- The magnitude of an unsigned word of 32 bits. -/
theorem FitsUnsigned32.within (hvalue : FitsUnsigned32 value) : Within 4294967295 value := by
  unfold FitsUnsigned32 at hvalue
  unfold Within
  omega

theorem Within.add (hfirst : Within firstBound firstValue)
    (hsecond : Within secondBound secondValue) (hbound : firstBound + secondBound ≤ bound) :
    Within bound (firstValue + secondValue) := by
  unfold Within at hfirst hsecond ⊢
  omega

theorem Within.sub (hfirst : Within firstBound firstValue)
    (hsecond : Within secondBound secondValue) (hbound : firstBound + secondBound ≤ bound) :
    Within bound (firstValue - secondValue) := by
  unfold Within at hfirst hsecond ⊢
  omega

theorem Within.mul (hfirst : Within firstBound firstValue)
    (hsecond : Within secondBound secondValue) (hbound : firstBound * secondBound ≤ bound) :
    Within bound (firstValue * secondValue) := by
  obtain ⟨hlow, hhigh⟩ := product_range hfirst hsecond
  exact ⟨(neg_le_neg hbound).trans hlow, hhigh.trans hbound⟩

/-- A division that rounds down divides the bound. -/
theorem Within.ediv {factor : ℤ} (hvalue : Within firstBound value) (hfactor : 0 < factor)
    (hbound : firstBound ≤ bound * factor) : Within bound (value / factor) := by
  obtain ⟨hlow, hhigh⟩ := hvalue
  refine ⟨Int.le_ediv_of_mul_le hfactor ?_, Int.ediv_le_of_le_mul hfactor (hhigh.trans hbound)⟩
  rw [Int.neg_mul]
  exact (neg_le_neg hbound).trans hlow

/-- A division that cuts off towards zero divides the bound. -/
theorem Within.tdiv {factor : ℤ} (hvalue : Within firstBound value) (hfactor : 0 < factor)
    (hbound : firstBound ≤ bound * factor) : Within bound (value.tdiv factor) := by
  rcases le_total 0 value with hpositive | hnegative
  · rw [Int.tdiv_eq_ediv_of_nonneg hpositive]
    exact hvalue.ediv hfactor hbound
  · have hopposite : Within firstBound (-value) := by
      unfold Within at hvalue ⊢
      omega
    obtain ⟨hlow, hhigh⟩ := hopposite.ediv hfactor hbound
    rw [← neg_neg (value.tdiv factor), ← Int.neg_tdiv,
      Int.tdiv_eq_ediv_of_nonneg (neg_nonneg.mpr hnegative)]
    exact ⟨neg_le_neg hhigh, neg_le.mp hlow⟩

/-- A division by an integer other than zero that cuts off towards zero keeps every bound. -/
theorem Within.tdiv_any (hvalue : Within bound value) (divisor : ℤ) :
    Within bound (value.tdiv divisor) := by
  have hmagnitude := Int.natAbs_tdiv_le_natAbs value divisor
  unfold Within at hvalue ⊢
  omega

/-- A constant that is not negative is its own bound. -/
theorem within_self (hbound : 0 ≤ bound) : Within bound bound :=
  ⟨(neg_nonpos.mpr hbound).trans hbound, le_refl bound⟩

theorem within_toInt16 (word : Int16) : Within 32768 word.toInt :=
  ⟨word.le_toInt, word.toInt_le.trans (by decide)⟩

theorem within_toInt8 (word : Int8) : Within 128 word.toInt :=
  ⟨word.le_toInt, word.toInt_le.trans (by decide)⟩

theorem within_toNat16 (word : UInt16) : Within 65535 word.toNat := by
  have hlt := word.toNat_lt
  unfold Within
  omega

theorem within_toNat8 (word : UInt8) : Within 255 word.toNat := by
  have hlt := word.toNat_lt
  unfold Within
  omega

/-- The square of an integer fits a word of 32 bits exactly when its magnitude is at most 46340. -/
theorem square_fits32_iff : Fits32 (value * value) ↔ Within 46340 value := by
  constructor
  · intro hfits
    have hmagnitude : |value| < |46341| :=
      abs_lt_iff_mul_self_lt.mpr (lt_of_le_of_lt hfits.2 (by decide))
    rw [abs_of_pos (show (0 : ℤ) < 46341 by decide)] at hmagnitude
    obtain ⟨hlow, hhigh⟩ := abs_lt.mp hmagnitude
    exact ⟨by omega, by omega⟩
  · intro hvalue
    exact (hvalue.mul hvalue (le_refl _)).fits32 (by decide)

end Magnitudes

end Bme680.Arithmetic
