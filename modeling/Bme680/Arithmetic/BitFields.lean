import Mathlib.Data.Nat.Bitwise

/-!
# Fields of bits in a byte

A register of eight bits holds several settings, each in a field of adjacent bits. A field is its
lowest bit and its width. `prep` moves a value into the field and `get` takes it out again, as the
kernel's `FIELD_PREP` and `FIELD_GET` do, and `install` replaces the field in a byte and keeps the
bits around it.

A byte that has one field installed is read through another one in `get_install_iff`: the value
found there is made of the bits that the byte had before where the fields do not overlap, and of the
installed value where they do.
-/

set_option autoImplicit false
set_option relaxedAutoImplicit false

namespace Bme680.Arithmetic

/-- A field of adjacent bits in a byte. -/
structure BitField where
  shift : ℕ
  width : ℕ
  positive : 0 < width
  fits : shift + width ≤ 8

namespace BitField

/-- The mask of a field. -/
def mask (field : BitField) : UInt8 :=
  UInt8.ofNat ((1 <<< field.width - 1) <<< field.shift)

/-- `FIELD_PREP`. -/
def prep (field : BitField) (value : UInt8) : UInt8 :=
  (value <<< UInt8.ofNat field.shift) &&& field.mask

/-- `FIELD_GET`. -/
def get (field : BitField) (byte : UInt8) : UInt8 :=
  (byte &&& field.mask) >>> UInt8.ofNat field.shift

/-- The byte with a value in the field. -/
def install (field : BitField) (byte value : UInt8) : UInt8 :=
  (byte &&& ~~~field.mask) ||| field.prep value

/-! ### Bits -/

/-- Bytes are equal when their bits are. -/
theorem byte_ext {first second : UInt8}
    (hbits : ∀ bit < 8, first.toNat.testBit bit = second.toNat.testBit bit) : first = second := by
  refine UInt8.toNat_inj.mp (Nat.eq_of_testBit_eq fun bit ↦ ?_)
  by_cases hbit : bit < 8
  · exact hbits bit hbit
  · have hbound : 2 ^ 8 ≤ 2 ^ bit := Nat.pow_le_pow_right (by decide) (not_lt.mp hbit)
    rw [Nat.testBit_lt_two_pow (first.toNat_lt.trans_le hbound),
      Nat.testBit_lt_two_pow (second.toNat_lt.trans_le hbound)]

/-- The places of a shift by a literal below eight. -/
theorem toNat_places {places : ℕ} (hplaces : places < 8) :
    (UInt8.ofNat places).toNat % 8 = places := by
  rw [UInt8.toNat_ofNat']
  omega

/-- The bits of a complement. -/
theorem testBit_not (byte : UInt8) {bit : ℕ} (hbit : bit < 8) :
    (~~~byte).toNat.testBit bit = !byte.toNat.testBit bit := by
  rw [UInt8.toNat_not, show UInt8.size - 1 - byte.toNat = 2 ^ 8 - (byte.toNat + 1) from
    Nat.sub_sub _ _ _ |>.trans (by rw [Nat.add_comm]; rfl), Nat.testBit_two_pow_sub_succ
    byte.toNat_lt, decide_eq_true hbit, Bool.true_and]

/-- Bytes are equal when they agree outside a mask and inside it. -/
theorem eq_iff_on_mask (first second mask : UInt8) :
    first = second ↔ first &&& ~~~mask = second &&& ~~~mask ∧ first &&& mask = second &&& mask := by
  constructor
  · rintro rfl
    exact ⟨rfl, rfl⟩
  · rintro ⟨houtside, hinside⟩
    refine byte_ext fun bit hbit ↦ ?_
    have hout := congrArg (fun word : UInt8 ↦ word.toNat.testBit bit) houtside
    have hin := congrArg (fun word : UInt8 ↦ word.toNat.testBit bit) hinside
    simp only [UInt8.toNat_and, Nat.testBit_and, testBit_not mask hbit] at hout hin
    cases hmask : mask.toNat.testBit bit with
    | false => simpa only [hmask, Bool.not_false, Bool.and_true] using hout
    | true => simpa only [hmask, Bool.and_true] using hin

variable (field : BitField)

theorem shift_lt : field.shift < 8 := by
  have hpositive := field.positive
  have hfits := field.fits
  omega

/-- The mask has the bits of the field. -/
theorem testBit_mask {bit : ℕ} (hbit : bit < 8) :
    field.mask.toNat.testBit bit =
      decide (field.shift ≤ bit ∧ bit < field.shift + field.width) := by
  rw [mask, UInt8.toNat_ofNat', Nat.testBit_mod_two_pow, Nat.testBit_shiftLeft,
    Nat.one_shiftLeft, Nat.testBit_two_pow_sub_one, decide_eq_true hbit, Bool.true_and,
    ← Bool.decide_and]
  refine decide_eq_decide.mpr ?_
  omega

/-- A prepared value has its own bits in the field and no others. -/
theorem testBit_prep (value : UInt8) {bit : ℕ} (hbit : bit < 8) :
    (field.prep value).toNat.testBit bit =
      (decide (field.shift ≤ bit ∧ bit < field.shift + field.width) &&
        value.toNat.testBit (bit - field.shift)) := by
  rw [prep, UInt8.toNat_and, Nat.testBit_and, testBit_mask field hbit, UInt8.toNat_shiftLeft,
    toNat_places field.shift_lt, Nat.testBit_mod_two_pow, Nat.testBit_shiftLeft,
    decide_eq_true hbit, Bool.true_and]
  by_cases hlow : field.shift ≤ bit
  · rw [decide_eq_true (show bit ≥ field.shift from hlow), Bool.true_and, Bool.and_comm]
  · rw [decide_eq_false (show ¬ bit ≥ field.shift from hlow), Bool.false_and,
      decide_eq_false fun hboth ↦ hlow hboth.1, Bool.false_and, Bool.false_and]

/-- The value taken out of a field has the bits the byte has there. -/
theorem testBit_get (byte : UInt8) {bit : ℕ} (hbit : bit < 8) :
    (field.get byte).toNat.testBit bit =
      (decide (bit < field.width) && byte.toNat.testBit (field.shift + bit)) := by
  rw [get, UInt8.toNat_shiftRight, toNat_places field.shift_lt, Nat.testBit_shiftRight,
    UInt8.toNat_and, Nat.testBit_and]
  have hfits := field.fits
  by_cases hwidth : bit < field.width
  · rw [testBit_mask field (show field.shift + bit < 8 by omega), decide_eq_true hwidth,
      decide_eq_true (show _ ∧ _ by omega), Bool.and_comm]
  · rw [decide_eq_false hwidth, Bool.false_and]
    by_cases hbyte : field.shift + bit < 8
    · rw [testBit_mask field hbyte, decide_eq_false (show ¬ (_ ∧ _) by omega), Bool.and_false]
    · have hbound : 2 ^ 8 ≤ 2 ^ (field.shift + bit) :=
        Nat.pow_le_pow_right (by decide) (not_lt.mp hbyte)
      rw [Nat.testBit_lt_two_pow (field.mask.toNat_lt.trans_le hbound), Bool.and_false]

/-! ### Installing values -/

/-- A prepared value has no bits outside the mask. -/
theorem prep_and_mask (value : UInt8) : field.prep value &&& field.mask = field.prep value := by
  unfold prep
  rw [UInt8.and_assoc, UInt8.and_self]

/-- A value that is installed replaces one that was installed before. -/
theorem install_install (byte earlier value : UInt8) :
    field.install (field.install byte earlier) value = field.install byte value := by
  refine byte_ext fun bit hbit ↦ ?_
  simp only [install, prep, UInt8.toNat_and, UInt8.toNat_or, Nat.testBit_and, Nat.testBit_or,
    testBit_not _ hbit]
  cases field.mask.toNat.testBit bit <;> simp

/-- A cleared byte stays so when zero is installed. -/
theorem install_zero_zero : field.install 0 0 = 0 := by
  unfold install prep
  rw [UInt8.zero_and, UInt8.zero_shiftLeft, UInt8.zero_and, UInt8.or_zero]

/-! ### Reading a field back -/

/-- A field holds a value when the value is not wider than the field and its bits stand there. -/
theorem get_eq_iff (byte value : UInt8) :
    field.get byte = value ↔
      value.toNat < 1 <<< field.width ∧ byte &&& field.mask = field.prep value := by
  have hfits := field.fits
  constructor
  · rintro rfl
    refine ⟨?_, byte_ext fun bit hbit ↦ ?_⟩
    · rw [Nat.one_shiftLeft]
      refine Nat.lt_pow_two_of_testBit _ fun bit hwidth ↦ ?_
      by_cases hbit : bit < 8
      · rw [testBit_get field byte hbit, decide_eq_false (not_lt.mpr hwidth), Bool.false_and]
      · have hbound : 2 ^ 8 ≤ 2 ^ bit := Nat.pow_le_pow_right (by decide) (not_lt.mp hbit)
        exact Nat.testBit_lt_two_pow ((field.get byte).toNat_lt.trans_le hbound)
    · rw [UInt8.toNat_and, Nat.testBit_and, testBit_mask field hbit, testBit_prep field _ hbit]
      by_cases hinside : field.shift ≤ bit ∧ bit < field.shift + field.width
      · rw [decide_eq_true hinside, Bool.true_and, Bool.and_true,
          testBit_get field byte (show bit - field.shift < 8 by omega),
          decide_eq_true (show bit - field.shift < field.width by omega), Bool.true_and,
          Nat.add_sub_cancel' hinside.1]
      · rw [decide_eq_false hinside, Bool.false_and, Bool.and_false]
  · rintro ⟨hvalue, hbits⟩
    refine byte_ext fun bit hbit ↦ ?_
    rw [testBit_get field byte hbit]
    by_cases hwidth : bit < field.width
    · have hplace := congrArg (fun word : UInt8 ↦ word.toNat.testBit (field.shift + bit)) hbits
      rw [UInt8.toNat_and, Nat.testBit_and, testBit_mask field (by omega),
        testBit_prep field value (by omega), decide_eq_true (show _ ∧ _ by omega), Bool.and_true,
        Bool.true_and, Nat.add_sub_cancel_left] at hplace
      rw [decide_eq_true hwidth, Bool.true_and, hplace]
    · have hbound : 2 ^ field.width ≤ 2 ^ bit :=
        Nat.pow_le_pow_right (by decide) (not_lt.mp hwidth)
      rw [Nat.one_shiftLeft] at hvalue
      rw [decide_eq_false hwidth, Bool.false_and,
        Nat.testBit_lt_two_pow (hvalue.trans_le hbound)]

/-- A value that is installed in one field makes another one hold a code: outside the installed
field the byte has the bits of the code already, and inside it the value has them. -/
def MakesHold (installed field : BitField) (byte value code : UInt8) : Prop :=
  code.toNat < 1 <<< field.width ∧
    byte &&& field.mask &&& ~~~installed.mask = field.prep code &&& ~~~installed.mask ∧
    installed.prep value &&& field.mask = field.prep code &&& installed.mask

/-- What a field holds after another one is installed. -/
theorem get_install_iff (installed : BitField) (byte value code : UInt8) :
    field.get (installed.install byte value) = code ↔
      installed.MakesHold field byte value code := by
  rw [get_eq_iff]
  refine and_congr_right fun _ ↦ ?_
  rw [eq_iff_on_mask (installed.install byte value &&& field.mask) _ installed.mask]
  have houtside : installed.install byte value &&& field.mask &&& ~~~installed.mask =
      byte &&& field.mask &&& ~~~installed.mask := by
    refine byte_ext fun bit hbit ↦ ?_
    simp only [install, prep, UInt8.toNat_and, UInt8.toNat_or, Nat.testBit_and, Nat.testBit_or,
      testBit_not _ hbit]
    cases installed.mask.toNat.testBit bit <;> simp
  have hinside : installed.install byte value &&& field.mask &&& installed.mask =
      installed.prep value &&& field.mask := by
    refine byte_ext fun bit hbit ↦ ?_
    simp only [install, prep, UInt8.toNat_and, UInt8.toNat_or, Nat.testBit_and, Nat.testBit_or,
      testBit_not _ hbit]
    cases installed.mask.toNat.testBit bit <;> simp
  rw [houtside, hinside]

end BitField

end Bme680.Arithmetic
