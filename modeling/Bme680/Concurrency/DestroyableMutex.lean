import Mathlib.Data.Int.Notation
import Mathlib.Tactic.Common

/-!
# A mutex that can be destroyed under its users

An ordinary mutex as its implementation keeps it: the holder, the number of users it counts, and
whether it is destroyed. A lock call first tests whether the mutex is destroyed, and is refused
then; a call that has passed this test waits until the mutex is free and takes it, destroyed
meanwhile or not (`acquire`). An unlock of a destroyed mutex fails and changes nothing; any other
frees the mutex, whoever calls. A destruction is refused while users are counted. Initializing the
mutex makes it free and intact without regard to a holder.

So the holder of a destroyed mutex has no way to give it back, and a thread that unlocks without
having locked upsets the count. `Recorded` relates the mutex to what the threads know about
themselves, and `Counted` says that the count is that of the holders.
-/

set_option autoImplicit false
set_option relaxedAutoImplicit false

namespace Bme680.Concurrency

/-- The holder of a mutex, the users counted, and whether the mutex is destroyed. -/
structure DestroyableMutex (Thread : Type*) where
  holder : Option Thread
  users : ℤ
  destroyed : Bool

namespace DestroyableMutex

variable {Thread : Type*}

/-- The mutex after its initialization. -/
def intact : DestroyableMutex Thread := { holder := none, users := 0, destroyed := false }

/-- The end of a lock call that has found the mutex not destroyed: where it is free the thread takes
it. -/
def acquire (mutex : DestroyableMutex Thread) (thread : Thread) :
    Option (DestroyableMutex Thread) :=
  match mutex.holder with
  | none => some { mutex with holder := some thread, users := mutex.users + 1 }
  | some _ => none

/-- An unlock call. -/
def unlock (mutex : DestroyableMutex Thread) : DestroyableMutex Thread :=
  if mutex.destroyed then mutex else { mutex with holder := none, users := mutex.users - 1 }

/-- A destruction. -/
def destroy (mutex : DestroyableMutex Thread) : DestroyableMutex Thread :=
  if mutex.users = 0 then { mutex with destroyed := true } else mutex

/-- The holder of the mutex is one of the threads that have it by their own account. -/
def Recorded (mutex : DestroyableMutex Thread) (holds : Thread → Bool) : Prop :=
  ∀ thread, mutex.holder = some thread → holds thread = true

/-- The count is that of the holders. -/
def Counted (mutex : DestroyableMutex Thread) : Prop :=
  mutex.users = if mutex.holder.isSome then 1 else 0

variable {mutex mutex' : DestroyableMutex Thread} {thread : Thread}

/-! ### What the operations do -/

/-- A thread takes the mutex exactly where it is free. -/
theorem acquire_eq_some_iff : mutex.acquire thread = some mutex' ↔
    mutex.holder = none ∧
      mutex' = { mutex with holder := some thread, users := mutex.users + 1 } := by
  unfold acquire
  cases hholder : mutex.holder with
  | none => simp only [Option.some.injEq, true_and, eq_comm]
  | some other => simp

@[simp] theorem unlock_destroyed : mutex.unlock.destroyed = mutex.destroyed := by
  unfold unlock
  split_ifs <;> rfl

@[simp] theorem destroy_holder : mutex.destroy.holder = mutex.holder := by
  unfold destroy
  split_ifs <;> rfl

@[simp] theorem destroy_users : mutex.destroy.users = mutex.users := by
  unfold destroy
  split_ifs <;> rfl

/-- An unlock fails on a destroyed mutex. -/
theorem unlock_of_destroyed (hdestroyed : mutex.destroyed = true) : mutex.unlock = mutex := by
  rw [unlock, if_pos hdestroyed]

/-- An unlock frees a mutex that is not destroyed. -/
theorem unlock_holder (hintact : mutex.destroyed = false) : mutex.unlock.holder = none := by
  rw [unlock, if_neg (by simp [hintact])]

/-- An unlock leaves the holder there or the mutex free. -/
theorem unlock_holder_eq_some {holder : Thread} (hholder : mutex.unlock.holder = some holder) :
    mutex.destroyed = true ∧ mutex.holder = some holder := by
  cases hdestroyed : mutex.destroyed with
  | true => exact ⟨rfl, by rwa [unlock_of_destroyed hdestroyed] at hholder⟩
  | false => simp [unlock_holder hdestroyed] at hholder

/-- An unlock keeps the holder or frees the mutex. -/
theorem unlock_holder_cases : mutex.unlock.holder = mutex.holder ∨ mutex.unlock.holder = none := by
  cases hdestroyed : mutex.destroyed with
  | true => exact .inl (by rw [unlock_of_destroyed hdestroyed])
  | false => exact .inr (unlock_holder hdestroyed)

/-- A mutex is destroyed after a destruction if it was before, or if no users were counted. -/
theorem destroy_destroyed :
    mutex.destroy.destroyed = true ↔ mutex.destroyed = true ∨ mutex.users = 0 := by
  unfold destroy
  split_ifs with husers
  · exact iff_of_true rfl (.inr husers)
  · exact (or_iff_left husers).symm

/-! ### The count -/

theorem counted_intact : (intact : DestroyableMutex Thread).Counted := rfl

/-- Taking the mutex keeps the count. -/
theorem Counted.acquire (hcounted : mutex.Counted) (hacquire : mutex.acquire thread = some mutex') :
    mutex'.Counted := by
  obtain ⟨hfree, rfl⟩ := acquire_eq_some_iff.mp hacquire
  simp_all [Counted]

/-- An unlock of a destroyed mutex keeps the count. -/
theorem Counted.unlock_of_destroyed (hcounted : mutex.Counted)
    (hdestroyed : mutex.destroyed = true) : mutex.unlock.Counted := by
  rwa [DestroyableMutex.unlock_of_destroyed hdestroyed]

/-- An unlock by the holder keeps the count. -/
theorem Counted.unlock (hcounted : mutex.Counted) (hheld : mutex.holder = some thread) :
    mutex.unlock.Counted := by
  unfold DestroyableMutex.unlock
  split_ifs
  · exact hcounted
  · simp_all [Counted]

/-- A destruction keeps the count. -/
theorem Counted.destroy (hcounted : mutex.Counted) : mutex.destroy.Counted := by
  simpa only [Counted, destroy_users, destroy_holder] using hcounted

/-- A mutex whose count is right is destroyed only while it is free. -/
theorem Counted.free_of_users (hcounted : mutex.Counted) (husers : mutex.users = 0) :
    mutex.holder = none := by
  cases hholder : mutex.holder with
  | none => rfl
  | some holder => simp [Counted, husers, hholder] at hcounted

end DestroyableMutex

end Bme680.Concurrency
