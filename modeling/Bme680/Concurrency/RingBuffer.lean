import Bme680.Concurrency.TransitionSystem
import Mathlib.Data.List.Basic
import Mathlib.Data.Int.ModEq
import Mathlib.Tactic.Common

/-!
# A bounded first-in first-out queue and its ring buffer

The abstract queue is the history of what was put in and what was taken out: at every moment what
was taken out is a prefix of what was put in (`FifoHistory.bounded_of_reachable`).

A ring buffer is an array with the position of its oldest element, the position behind its newest
one, and their number. Its accesses and remainders are partial, as those of the C language are:
outside the array, and for a zero size, they have no value. `Represents` says that the stored
elements, read from the head around the end of the array, are those of a queue. It is kept by
putting in an element where there is room, and by taking one out where there is one, and neither
leaves the array or divides by zero then (`Represents.push`, `Represents.pop`).
-/

set_option autoImplicit false
set_option relaxedAutoImplicit false

namespace Bme680.Concurrency

variable {α : Type*}

/-! ### The abstract queue -/

/-- Everything that was put into a queue and everything that was taken out, in order. -/
@[ext] structure FifoHistory (α : Type*) where
  accepted : List α
  delivered : List α

/-- An element is put in or taken out. -/
inductive FifoLabel (α : Type*)
  | put (value : α)
  | take (value : α)

namespace FifoHistory

/-- What was put in is what was taken out and then the elements that are pending. -/
def Pending (history : FifoHistory α) (queue : List α) : Prop :=
  history.accepted = history.delivered ++ queue

/-- What was taken out is a prefix of what was put in, and no more than a capacity is pending. -/
def Bounded (history : FifoHistory α) (capacity : ℤ) : Prop :=
  ∃ queue, history.Pending queue ∧ (queue.length : ℤ) ≤ capacity

/-- The history with an element put in. -/
def put (history : FifoHistory α) (value : α) : FifoHistory α :=
  { history with accepted := history.accepted ++ [value] }

/-- The history with an element taken out. -/
def take (history : FifoHistory α) (value : α) : FifoHistory α :=
  { history with delivered := history.delivered ++ [value] }

theorem Pending.put {history : FifoHistory α} {queue : List α} (hpending : history.Pending queue)
    (value : α) : (history.put value).Pending (queue ++ [value]) := by
  change history.accepted ++ [value] = history.delivered ++ (queue ++ [value])
  rw [hpending, List.append_assoc]

theorem Pending.take {history : FifoHistory α} {value : α} {queue : List α}
    (hpending : history.Pending (value :: queue)) : (history.take value).Pending queue := by
  change history.accepted = history.delivered ++ [value] ++ queue
  rw [hpending, List.append_assoc, List.singleton_append]

end FifoHistory

/-- A queue of a capacity: an element is put in where fewer are pending, and the one taken out is
the oldest pending one. -/
def fifoNext [DecidableEq α] (capacity : ℤ) (history : FifoHistory α) :
    FifoLabel α → Option (FifoHistory α)
  | .put value =>
    if (history.accepted.length : ℤ) < history.delivered.length + capacity then
      some (history.put value)
    else none
  | .take value =>
    if history.accepted[history.delivered.length]? = some value then some (history.take value)
    else none

/-- The queue of a capacity, empty at first. -/
def fifoSystem (α : Type*) [DecidableEq α] (capacity : ℤ) :
    TransitionSystem (FifoHistory α) (FifoLabel α) where
  initial := fun history ↦ history.accepted = [] ∧ history.delivered = []
  next := fifoNext capacity

section Steps

variable [DecidableEq α] {capacity : ℤ} {history : FifoHistory α} {queue : List α}

/-- An element can be put in where fewer elements than the capacity are pending. -/
theorem fifoNext_put (hpending : history.Pending queue) (hroom : (queue.length : ℤ) < capacity)
    (value : α) : fifoNext capacity history (.put value) = some (history.put value) := by
  refine if_pos ?_
  rw [hpending, List.length_append]
  push_cast
  omega

/-- The oldest pending element can be taken out. -/
theorem fifoNext_take {value : α} (hpending : history.Pending (value :: queue)) :
    fifoNext capacity history (.take value) = some (history.take value) := by
  refine if_pos ?_
  rw [hpending, List.getElem?_append_right le_rfl, Nat.sub_self, List.getElem?_cons_zero]

/-- In every reachable state what was taken out is a prefix of what was put in, and no more than
the capacity is pending. -/
theorem FifoHistory.bounded_of_reachable (hcapacity : 0 ≤ capacity)
    (hreach : (fifoSystem α capacity).Reachable history) : history.Bounded capacity := by
  have hinitial : ∀ start, (fifoSystem α capacity).initial start → start.Bounded capacity := by
    rintro start ⟨haccepted, hdelivered⟩
    refine ⟨[], ?_, hcapacity⟩
    rw [FifoHistory.Pending, haccepted, hdelivered, List.append_nil]
  refine hreach.invariant hinitial fun before label after hbefore _ hnext ↦ ?_
  obtain ⟨queue, hpending, hbound⟩ := hbefore
  cases label with
  | put value =>
    simp only [fifoSystem, fifoNext, Option.ite_none_right_eq_some, Option.some.injEq] at hnext
    obtain ⟨hroom, rfl⟩ := hnext
    refine ⟨queue ++ [value], hpending.put value, ?_⟩
    rw [hpending, List.length_append] at hroom
    rw [List.length_append, List.length_singleton]
    push_cast at hroom ⊢
    omega
  | take value =>
    simp only [fifoSystem, fifoNext, Option.ite_none_right_eq_some, Option.some.injEq] at hnext
    obtain ⟨hfirst, rfl⟩ := hnext
    rw [hpending, List.getElem?_append_right le_rfl, Nat.sub_self] at hfirst
    cases queue with
    | nil => cases hfirst
    | cons first rest =>
      obtain rfl : first = value := Option.some.inj hfirst
      refine ⟨rest, hpending.take, ?_⟩
      rw [List.length_cons] at hbound
      push_cast at hbound
      omega

end Steps

/-! ### Partial accesses -/

/-- The element of an array at an index, inside the array. -/
def element (slots : List α) (index : ℤ) : Option α :=
  if 0 ≤ index then slots[index.toNat]? else none

/-- The array with the element at an index replaced, inside the array. -/
def setElement (slots : List α) (index : ℤ) (value : α) : Option (List α) :=
  if 0 ≤ index ∧ index < slots.length then some (slots.set index.toNat value) else none

/-- The remainder of a division, rounded towards zero, by a divisor other than zero. -/
def remainder (dividend divisor : ℤ) : Option ℤ :=
  if divisor = 0 then none else some (dividend.tmod divisor)

/-- The remainder of a nonnegative dividend by a positive divisor. -/
theorem remainder_eq {dividend divisor : ℤ} (hdividend : 0 ≤ dividend) (hdivisor : 0 < divisor) :
    remainder dividend divisor = some (dividend % divisor) := by
  rw [remainder, if_neg hdivisor.ne', Int.tmod_eq_emod_of_nonneg hdividend]

/-! ### The ring buffer -/

/-- A ring buffer: its array, the positions of the oldest element and behind the newest one, its
size, and the number of its elements. -/
structure RingBuffer (α : Type*) where
  slots : List α
  head : ℤ
  tail : ℤ
  size : ℤ
  count : ℤ
  deriving DecidableEq

namespace RingBuffer

/-- The position a number of elements behind the head. -/
def position (ring : RingBuffer α) (offset : ℤ) : ℤ :=
  (ring.head + offset) % ring.size

/-- The stored elements, from the head on. -/
def stored (ring : RingBuffer α) : List (Option α) :=
  (List.range ring.count.toNat).map fun offset : ℕ ↦ element ring.slots (ring.position offset)

/-- Putting in an element. -/
def push (ring : RingBuffer α) (value : α) : Option (RingBuffer α) :=
  (setElement ring.slots ring.tail value).bind fun slots ↦
    (remainder (ring.tail + 1) ring.size).map fun tail ↦
      { ring with slots := slots, tail := tail, count := ring.count + 1 }

/-- Taking out an element. -/
def pop (ring : RingBuffer α) : Option (RingBuffer α × α) :=
  (element ring.slots ring.head).bind fun value ↦
    (remainder (ring.head + 1) ring.size).map fun head ↦
      ({ ring with head := head, count := ring.count - 1 }, value)

/-- A ring buffer stores a queue. Without slots it has no positions. -/
structure Represents (ring : RingBuffer α) (queue : List α) : Prop where
  length_slots : (ring.slots.length : ℤ) = ring.size
  count_eq : ring.count = queue.length
  count_le : ring.count ≤ ring.size
  head : 0 < ring.size → 0 ≤ ring.head ∧ ring.head < ring.size
  tail : 0 < ring.size → ring.tail = ring.position ring.count
  stored : ring.stored = queue.map some

variable {ring : RingBuffer α} {queue : List α}

/-- Positions lie inside the array. -/
theorem position_bounds (hsize : 0 < ring.size) (offset : ℤ) :
    0 ≤ ring.position offset ∧ ring.position offset < ring.size :=
  ⟨Int.emod_nonneg _ hsize.ne', Int.emod_lt_of_pos _ hsize⟩

/-- Moving on by one position, around the end of the array. -/
theorem position_succ (ring : RingBuffer α) (offset : ℤ) :
    (ring.position offset + 1) % ring.size = ring.position (offset + 1) := by
  rw [position, Int.emod_add_emod, Int.add_assoc, position]

/-- Offsets that differ by less than the size have different positions. -/
theorem position_ne {first second : ℤ} (hless : first < second)
    (hclose : second - first < ring.size) : ring.position first ≠ ring.position second := by
  intro hsame
  have hdvd : ring.size ∣ ring.head + second - (ring.head + first) := Int.ModEq.dvd hsame
  rw [Int.add_sub_add_left] at hdvd
  have hle : ring.size ≤ second - first := Int.le_of_dvd (by omega) hdvd
  omega

/-- Replacing an element changes only the access to it. -/
theorem element_set {slots : List α} {index other : ℤ} (hindex : 0 ≤ index)
    (hinside : index < slots.length) (value : α) :
    element (slots.set index.toNat value) other =
      if other = index then some value else element slots other := by
  unfold element
  by_cases hother : 0 ≤ other
  · rw [if_pos hother, if_pos hother]
    by_cases hsame : other = index
    · subst hsame
      rw [if_pos rfl, List.getElem?_set_self (by omega)]
    · rw [if_neg hsame, List.getElem?_set_ne (by omega)]
  · rw [if_neg hother, if_neg hother, if_neg (by omega)]

namespace Represents

/-- The tail lies inside the array. -/
theorem tail_bounds (hrepresents : ring.Represents queue) (hsize : 0 < ring.size) :
    0 ≤ ring.tail ∧ ring.tail < ring.size := by
  rw [hrepresents.tail hsize]
  exact position_bounds hsize _

/-- An array of any contents stores no elements at first. -/
theorem empty {slots : List α} {size : ℤ} (hsize : 0 ≤ size)
    (hslots : (slots.length : ℤ) = size) :
    Represents { slots := slots, head := 0, tail := 0, size := size, count := 0 } [] where
  length_slots := hslots
  count_eq := rfl
  count_le := hsize
  head := fun hpositive ↦ ⟨le_rfl, hpositive⟩
  tail := fun _ ↦ (Int.zero_emod size).symm
  stored := rfl

/-- Where there is room, an element can be put in, and comes last. -/
theorem push (hrepresents : ring.Represents queue) (hroom : ring.count < ring.size) (value : α) :
    ∃ pushed, ring.push value = some pushed ∧ pushed.size = ring.size ∧
      pushed.Represents (queue ++ [value]) := by
  have hcount := hrepresents.count_eq
  have hlength := hrepresents.length_slots
  have hsize : 0 < ring.size := by omega
  obtain ⟨htail, htailLess⟩ := hrepresents.tail_bounds hsize
  have htailEq := hrepresents.tail hsize
  refine ⟨{ ring with
    slots := ring.slots.set ring.tail.toNat value
    tail := (ring.tail + 1) % ring.size
    count := ring.count + 1 }, ?_, rfl, ?_⟩
  · rw [RingBuffer.push, setElement, if_pos ⟨htail, by omega⟩, remainder_eq (by omega) hsize]
    rfl
  · constructor
    · rw [List.length_set]
      exact hlength
    · rw [List.length_append, List.length_singleton]
      push_cast
      exact congrArg (fun count : ℤ ↦ count + 1) hcount
    · exact hroom
    · exact hrepresents.head
    · intro _
      rw [htailEq]
      exact position_succ ring ring.count
    · -- the slots before the tail are untouched, and the one at the tail is the new last one
      have hrange : (ring.count + 1).toNat = ring.count.toNat + 1 := by omega
      have hold : ∀ offset ∈ List.range ring.count.toNat,
          element (ring.slots.set ring.tail.toNat value) (ring.position offset) =
            element ring.slots (ring.position offset) := by
        intro offset hoffset
        have hless : (offset : ℤ) < ring.count := by
          have hnat := List.mem_range.mp hoffset
          omega
        have hne : ring.position offset ≠ ring.tail := by
          rw [htailEq]
          exact position_ne hless (by omega)
        rw [element_set htail (by omega), if_neg hne]
      have hlast : element (ring.slots.set ring.tail.toNat value)
          (ring.position (ring.count.toNat : ℤ)) = some value := by
        rw [Int.toNat_of_nonneg (by omega), ← htailEq, element_set htail (by omega), if_pos rfl]
      change (List.range (ring.count + 1).toNat).map (fun offset : ℕ ↦
        element (ring.slots.set ring.tail.toNat value) (ring.position offset)) = _
      rw [hrange, List.range_succ, List.map_append, List.map_append, List.map_congr_left hold,
        List.map_singleton, List.map_singleton, hlast, ← hrepresents.stored]
      rfl

/-- Where there is an element, the oldest one can be taken out. -/
theorem pop {value : α} (hrepresents : ring.Represents (value :: queue)) :
    ∃ popped, ring.pop = some (popped, value) ∧ popped.size = ring.size ∧
      popped.Represents queue := by
  have hcount := hrepresents.count_eq
  have hbound := hrepresents.count_le
  have hlength := hrepresents.length_slots
  rw [List.length_cons] at hcount
  push_cast at hcount
  have hsize : 0 < ring.size := by omega
  obtain ⟨hhead, hheadLess⟩ := hrepresents.head hsize
  have hrange : ring.count.toNat = (ring.count - 1).toNat + 1 := by omega
  have hposition : ring.position 0 = ring.head := by
    rw [position, Int.add_zero, Int.emod_eq_of_lt hhead hheadLess]
  have hstored := hrepresents.stored
  rw [RingBuffer.stored, hrange, List.range_succ_eq_map, List.map_cons, List.map_cons,
    List.cons_eq_cons, Nat.cast_zero, hposition, List.map_map] at hstored
  obtain ⟨hfirst, hrest⟩ := hstored
  refine ⟨{ ring with head := (ring.head + 1) % ring.size, count := ring.count - 1 }, ?_, rfl, ?_⟩
  · rw [RingBuffer.pop, hfirst, remainder_eq (by omega) hsize]
    rfl
  · have hshift (offset : ℤ) :
        ((ring.head + 1) % ring.size + offset) % ring.size = ring.position (offset + 1) := by
      rw [Int.emod_add_emod, position]
      congr 1
      omega
    constructor
    · exact hlength
    · change ring.count - 1 = queue.length
      omega
    · change ring.count - 1 ≤ ring.size
      omega
    · exact fun _ ↦ ⟨Int.emod_nonneg _ hsize.ne', Int.emod_lt_of_pos _ hsize⟩
    · intro _
      change ring.tail = ((ring.head + 1) % ring.size + (ring.count - 1)) % ring.size
      rw [hshift, Int.sub_add_cancel]
      exact hrepresents.tail hsize
    · rw [← hrest]
      refine List.map_congr_left fun offset _ ↦ ?_
      change element ring.slots (((ring.head + 1) % ring.size + (offset : ℤ)) % ring.size) = _
      rw [hshift]
      rfl

end Represents

end RingBuffer

end Bme680.Concurrency
