import Bme680.Arithmetic.BitFields
import Mathlib.Logic.Function.Basic

/-!
# Bytes that agree outside a mask

A mask for each address says which bits of the bytes of a memory somebody may change. Two memories
agree outside it when they have the other bits in common. What is written to bits of the mask keeps
the agreement with any other memory, and a field that is installed with one value in both memories
takes its bits out of the mask (`AgreeOutside.install_both`): a sequence of such writes brings two
memories together, whatever made them differ.
-/

set_option autoImplicit false
set_option relaxedAutoImplicit false

namespace Bme680.Arithmetic

variable {Address : Type*}

/-- The bytes have the same bits outside the mask of their address. -/
def AgreeOutside (mask first second : Address → UInt8) : Prop :=
  ∀ address, first address &&& ~~~mask address = second address &&& ~~~mask address

/-- A bit of the one mask is a bit of the other. -/
def Covers (wider mask : UInt8) : Prop := mask &&& ~~~wider = 0

theorem covers_refl (mask : UInt8) : Covers mask mask := by
  unfold Covers
  refine BitField.byte_ext fun bit hbit ↦ ?_
  simp

theorem covers_zero (wider : UInt8) : Covers wider 0 := UInt8.zero_and

/-- Bytes have the same bits outside a mask exactly when each bit outside it is the same. -/
theorem and_not_eq_iff (first second mask : UInt8) :
    first &&& ~~~mask = second &&& ~~~mask ↔
      ∀ bit < 8, mask.toNat.testBit bit = false →
        first.toNat.testBit bit = second.toNat.testBit bit := by
  constructor
  · intro hsame bit hbit hmask
    have hbits := congrArg (fun word : UInt8 ↦ word.toNat.testBit bit) hsame
    simpa only [UInt8.toNat_and, Nat.testBit_and, BitField.testBit_not _ hbit, hmask,
      Bool.not_false, Bool.and_true] using hbits
  · intro hbits
    refine BitField.byte_ext fun bit hbit ↦ ?_
    simp only [UInt8.toNat_and, Nat.testBit_and, BitField.testBit_not _ hbit]
    cases hmask : mask.toNat.testBit bit with
    | false => simpa using hbits bit hbit hmask
    | true => simp

/-- A mask covers another one exactly when it has every bit of it. -/
theorem covers_iff (wider mask : UInt8) :
    Covers wider mask ↔
      ∀ bit < 8, mask.toNat.testBit bit = true → wider.toNat.testBit bit = true := by
  unfold Covers
  constructor
  · intro hzero bit hbit hmask
    have hbits := congrArg (fun word : UInt8 ↦ word.toNat.testBit bit) hzero
    simpa only [UInt8.toNat_and, Nat.testBit_and, BitField.testBit_not _ hbit, hmask,
      UInt8.toNat_zero, Nat.zero_testBit, Bool.true_and, Bool.not_eq_false'] using hbits
  · intro hbits
    refine BitField.byte_ext fun bit hbit ↦ ?_
    simp only [UInt8.toNat_and, Nat.testBit_and, BitField.testBit_not _ hbit, UInt8.toNat_zero,
      Nat.zero_testBit]
    cases hmask : mask.toNat.testBit bit with
    | false => rfl
    | true => rw [hbits bit hbit hmask]; rfl

namespace AgreeOutside

variable {mask wider first second third : Address → UInt8}

theorem refl (mask first : Address → UInt8) : AgreeOutside mask first first := fun _ ↦ rfl

theorem symm (hagree : AgreeOutside mask first second) : AgreeOutside mask second first :=
  fun address ↦ (hagree address).symm

theorem trans (hfirst : AgreeOutside mask first second) (hsecond : AgreeOutside mask second third) :
    AgreeOutside mask first third :=
  fun address ↦ (hfirst address).trans (hsecond address)

/-- Memories that agree outside a mask agree outside a wider one. -/
theorem mono (hwider : ∀ address, Covers (wider address) (mask address))
    (hagree : AgreeOutside mask first second) : AgreeOutside wider first second := by
  intro address
  rw [and_not_eq_iff]
  intro bit hbit hbare
  refine (and_not_eq_iff _ _ _).mp (hagree address) bit hbit ?_
  by_contra hmask
  have hcovered := (covers_iff _ _).mp (hwider address) bit hbit (Bool.not_eq_false _ ▸ hmask)
  exact Bool.false_ne_true (hbare.symm.trans hcovered)

variable [DecidableEq Address]

/-- Writing a byte that agrees outside the mask of its address keeps the agreement. -/
theorem update (hagree : AgreeOutside mask first second) {address : Address} {byte : UInt8}
    (hbyte : first address &&& ~~~mask address = byte &&& ~~~mask address) :
    AgreeOutside mask first (Function.update second address byte) := by
  intro other
  by_cases hsame : other = address
  · rw [hsame, Function.update_self]
    exact hbyte
  · rw [Function.update_of_ne hsame]
    exact hagree other

/-- Changing bits of the mask keeps the agreement. -/
theorem update_bits (hagree : AgreeOutside mask first second) {address : Address}
    {bits : UInt8} (hbits : Covers (mask address) bits) (value : UInt8) :
    AgreeOutside mask first
      (Function.update second address ((second address &&& ~~~bits) ||| (value &&& bits))) := by
  refine hagree.update ?_
  rw [hagree address, and_not_eq_iff]
  intro bit hbit hbare
  have hclear : bits.toNat.testBit bit = false := by
    by_contra hset
    have hcovered := (covers_iff _ _).mp hbits bit hbit (Bool.not_eq_false _ ▸ hset)
    exact Bool.false_ne_true (hbare.symm.trans hcovered)
  simp only [UInt8.toNat_and, UInt8.toNat_or, Nat.testBit_and, Nat.testBit_or,
    BitField.testBit_not _ hbit, hclear, Bool.not_false, Bool.and_true, Bool.and_false,
    Bool.or_false]

/-- A field installed with one value in both memories leaves the mask. -/
theorem install_both (hagree : AgreeOutside mask first second) (field : BitField)
    (address : Address) (value : UInt8) :
    AgreeOutside (Function.update mask address (mask address &&& ~~~field.mask))
      (Function.update first address (field.install (first address) value))
      (Function.update second address (field.install (second address) value)) := by
  intro other
  by_cases hsame : other = address
  · rw [hsame, Function.update_self, Function.update_self, Function.update_self, and_not_eq_iff]
    intro bit hbit hbare
    simp only [UInt8.toNat_and, Nat.testBit_and, BitField.testBit_not _ hbit] at hbare
    simp only [BitField.install, UInt8.toNat_and, UInt8.toNat_or, Nat.testBit_and, Nat.testBit_or,
      BitField.testBit_not _ hbit]
    cases hfield : field.mask.toNat.testBit bit with
    | true => simp
    | false =>
      have hmask : (mask address).toNat.testBit bit = false := by
        simpa [hfield] using hbare
      rw [(and_not_eq_iff _ _ _).mp (hagree address) bit hbit hmask]
  · simp only [Function.update_of_ne hsame]
    exact hagree other

/-- A byte written to both memories leaves the mask. -/
theorem write_both (hagree : AgreeOutside mask first second) (address : Address) (value : UInt8) :
    AgreeOutside (Function.update mask address 0) (Function.update first address value)
      (Function.update second address value) := by
  intro other
  by_cases hsame : other = address
  · rw [hsame, Function.update_self, Function.update_self, Function.update_self]
  · simp only [Function.update_of_ne hsame]
    exact hagree other

end AgreeOutside

end Bme680.Arithmetic
