import Mathlib.Algebra.Order.Group.Int
import Mathlib.Algebra.Order.Ring.Int
import Mathlib.Algebra.Order.Ring.Abs

/-!
# Signed machine words as integers

Arithmetic on signed words of 32 and 64 bits wraps around. Where the exact result of an operation
is in the range of the words, the operation computes it: `bmod_of_range32` and `bmod_of_range64`
turn the core library's description of the operations into equations of integers. A shift to the
right is a division by a power of two that rounds down, a shift to the left a multiplication where
the result is in range.
-/

set_option autoImplicit false
set_option relaxedAutoImplicit false

namespace Bme680.Arithmetic

/-! ### Exact results -/

/-- An integer in the range of 32-bit words is not changed by wrapping. -/
theorem bmod_of_range32 {value : ℤ} (hlow : -2147483648 ≤ value) (hhigh : value ≤ 2147483647) :
    value.bmod (2 ^ 32) = value :=
  Int.bmod_eq_of_le_mul_two (by omega) (by omega)

/-- An integer in the range of 16-bit words is not changed by wrapping. -/
theorem bmod_of_range16 {value : ℤ} (hlow : -32768 ≤ value) (hhigh : value ≤ 32767) :
    value.bmod (2 ^ 16) = value :=
  Int.bmod_eq_of_le_mul_two (by omega) (by omega)

/-- An integer in the range of 64-bit words is not changed by wrapping. -/
theorem bmod_of_range64 {value : ℤ} (hlow : -9223372036854775808 ≤ value)
    (hhigh : value ≤ 9223372036854775807) : value.bmod (2 ^ 64) = value :=
  Int.bmod_eq_of_le_mul_two (by omega) (by omega)

/-- A 32-bit word is in its range. -/
theorem range32 (word : Int32) : -2147483648 ≤ word.toInt ∧ word.toInt ≤ 2147483647 :=
  ⟨word.le_toInt, word.toInt_le⟩

/-- The product of two integers is bounded by the product of their bounds. -/
theorem product_range {first second firstBound secondBound : ℤ}
    (hfirst : -firstBound ≤ first ∧ first ≤ firstBound)
    (hsecond : -secondBound ≤ second ∧ second ≤ secondBound) :
    -(firstBound * secondBound) ≤ first * second ∧ first * second ≤ firstBound * secondBound := by
  have hfirst' : |first| ≤ firstBound := abs_le.mpr hfirst
  have hsecond' : |second| ≤ secondBound := abs_le.mpr hsecond
  refine abs_le.mp ?_
  rw [abs_mul]
  exact mul_le_mul hfirst' hsecond' (abs_nonneg _) ((abs_nonneg _).trans hfirst')

/-! ### Shifts -/

/-- The number of places of a shift of a 32-bit word by a literal. -/
theorem places32 {places : ℕ} (hplaces : places < 32) :
    ((Int32.ofNat places).toBitVec.smod 32).toNat = places := by
  revert places
  decide

/-- The number of places of a shift of a 64-bit word by a literal. -/
theorem places64 {places : ℕ} (hplaces : places < 64) :
    ((Int64.ofNat places).toBitVec.smod 64).toNat = places := by
  revert places
  decide

/-- A shift to the right divides by a power of two and rounds down. -/
theorem toInt_shiftRight32 (word : Int32) {places : ℕ} (hplaces : places < 32) :
    (word >>> (no_index (OfNat.ofNat places : Int32))).toInt = word.toInt / 2 ^ places := by
  have hshift : (word >>> (no_index (OfNat.ofNat places : Int32))).toInt =
      word.toInt >>> ((Int32.ofNat places).toBitVec.smod 32).toNat := BitVec.toInt_sshiftRight'
  rw [hshift, places32 hplaces, Int.shiftRight_eq_div_pow]
  norm_cast

/-- A shift to the right divides by a power of two and rounds down. -/
theorem toInt_shiftRight64 (word : Int64) {places : ℕ} (hplaces : places < 64) :
    (word >>> (no_index (OfNat.ofNat places : Int64))).toInt = word.toInt / 2 ^ places := by
  have hshift : (word >>> (no_index (OfNat.ofNat places : Int64))).toInt =
      word.toInt >>> ((Int64.ofNat places).toBitVec.smod 64).toNat := BitVec.toInt_sshiftRight'
  rw [hshift, places64 hplaces, Int.shiftRight_eq_div_pow]
  norm_cast

/-- A shift of a bit vector to the left multiplies by a power of two and wraps around. -/
theorem toInt_shiftLeft_eq {bits : ℕ} (word : BitVec bits) (places : ℕ) :
    (word <<< places).toInt = (word.toInt * 2 ^ places).bmod (2 ^ bits) := by
  rw [BitVec.toInt_shiftLeft, Nat.shiftLeft_eq, BitVec.toInt_eq_toNat_bmod, Int.bmod_mul_bmod]
  norm_cast

/-- A shift to the left multiplies by a power of two and wraps around. -/
theorem toInt_shiftLeft32 (word : Int32) {places : ℕ} (hplaces : places < 32) :
    (word <<< (no_index (OfNat.ofNat places : Int32))).toInt =
      (word.toInt * 2 ^ places).bmod (2 ^ 32) := by
  have hshift : (word <<< (no_index (OfNat.ofNat places : Int32))).toInt =
      (word.toBitVec <<< ((Int32.ofNat places).toBitVec.smod 32).toNat).toInt := rfl
  rw [hshift, places32 hplaces, toInt_shiftLeft_eq]
  rfl

/-- A shift to the left multiplies by a power of two and wraps around. -/
theorem toInt_shiftLeft64 (word : Int64) {places : ℕ} (hplaces : places < 64) :
    (word <<< (no_index (OfNat.ofNat places : Int64))).toInt =
      (word.toInt * 2 ^ places).bmod (2 ^ 64) := by
  have hshift : (word <<< (no_index (OfNat.ofNat places : Int64))).toInt =
      (word.toBitVec <<< ((Int64.ofNat places).toBitVec.smod 64).toNat).toInt := rfl
  rw [hshift, places64 hplaces, toInt_shiftLeft_eq]
  rfl

/-! ### Conversions -/

/-- An unsigned word below half of its range keeps its value as a signed one. -/
theorem toInt_toInt32 {word : UInt32} (hword : word.toNat < 2 ^ 31) :
    word.toInt32.toInt = word.toNat :=
  BitVec.toInt_eq_toNat_of_lt (by change 2 * word.toNat < 2 ^ 32; omega)

/-- An unsigned word below half of its range keeps its value as a signed one. -/
theorem toInt_toInt64 {word : UInt64} (hword : word.toNat < 2 ^ 63) :
    word.toInt64.toInt = word.toNat :=
  BitVec.toInt_eq_toNat_of_lt (by change 2 * word.toNat < 2 ^ 64; omega)

/-- Unsigned words of 8 and 16 bits keep their values as signed ones of 32 bits. -/
theorem toInt_widened8 (word : UInt8) : word.toUInt32.toInt32.toInt = word.toNat := by
  have hlt := word.toNat_lt
  rw [toInt_toInt32, UInt8.toNat_toUInt32]
  rw [UInt8.toNat_toUInt32]
  omega

theorem toInt_widened16 (word : UInt16) : word.toUInt32.toInt32.toInt = word.toNat := by
  have hlt := word.toNat_lt
  rw [toInt_toInt32, UInt16.toNat_toUInt32]
  rw [UInt16.toNat_toUInt32]
  omega

/-- Unsigned words of 8, 16 and 32 bits keep their values as signed ones of 64 bits. -/
theorem toInt_wide8 (word : UInt8) : word.toUInt64.toInt64.toInt = word.toNat := by
  have hlt := word.toNat_lt
  rw [toInt_toInt64, UInt8.toNat_toUInt64]
  rw [UInt8.toNat_toUInt64]
  omega

theorem toInt_wide16 (word : UInt16) : word.toUInt64.toInt64.toInt = word.toNat := by
  have hlt := word.toNat_lt
  rw [toInt_toInt64, UInt16.toNat_toUInt64]
  rw [UInt16.toNat_toUInt64]
  omega

theorem toInt_wide32 (word : UInt32) : word.toUInt64.toInt64.toInt = word.toNat := by
  have hlt := word.toNat_lt
  rw [toInt_toInt64, UInt32.toNat_toUInt64]
  rw [UInt32.toNat_toUInt64]
  omega

/-- A word that is not negative keeps its value as an unsigned one. -/
theorem toNat_toUInt32_of_nonneg {word : Int32} (hword : 0 ≤ word.toInt) :
    (word.toUInt32.toNat : ℤ) = word.toInt := by
  have hvalue : word.toInt = (word.toUInt32.toNat : ℤ).bmod (2 ^ 32) :=
    BitVec.toInt_eq_toNat_bmod word.toBitVec
  have hlt := word.toUInt32.toNat_lt
  rw [hvalue, Int.bmod_def] at hword ⊢
  split_ifs at hword ⊢ <;> omega

/-- The conversion of a signed word to an unsigned one of 32 bits takes the remainder. -/
theorem toNat_toUInt32 (word : Int64) :
    (word.toUInt64.toUInt32.toNat : ℤ) = word.toInt % 2 ^ 32 := by
  have hlow : (word.toUInt64.toUInt32.toNat : ℤ) = (word.toBitVec.toNat % 2 ^ 32 : ℕ) := rfl
  have hword : word.toInt = (word.toBitVec.toNat : ℤ).bmod (2 ^ 64) :=
    BitVec.toInt_eq_toNat_bmod word.toBitVec
  rw [hlow, hword, Int.bmod_def]
  split_ifs <;> omega

end Bme680.Arithmetic
