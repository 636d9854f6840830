import Bme680.SectionOutcome
import Mathlib.Data.Fintype.Basic
import Mathlib.Data.Fin.Basic
import Mathlib.Logic.Function.Basic

/-!
# The table of the deadlock detector

`deadlock_detector.c` keeps, for each of its mutexes, whether it is locked and by which thread, as
its callers report it. `deadlockDetectorLock` and `deadlockDetectorUnlock` are the two calls, each
one section under the detector's own mutex, given whether that mutex was obtained in time.

A lock call is refused by what the table shows of all mutexes, and a granted one rewrites the entry
of its mutex, whoever it named before.
-/

set_option autoImplicit false
set_option relaxedAutoImplicit false

namespace Bme680.Deadlock

/-- `struct lock_info`; no owner is the owner 0. -/
structure LockInfo (Thread : Type*) where
  owner : Option Thread
  locked : Bool
  deriving DecidableEq

/-- `struct deadlock_detector` for a number of mutexes. -/
structure DeadlockDetector (Thread : Type*) (numMutexes : ℕ) where
  locks : Fin numMutexes → LockInfo Thread

/-- `deadlock_detector_init`, given whether the two allocations succeed: the detector it sets up,
which the source assigns to its own parameter. -/
def deadlockDetectorInit (Thread : Type*) (numMutexes : ℕ) (allocated locksAllocated : Bool) :
    Except ℤ (DeadlockDetector Thread numMutexes) :=
  if ¬ allocated then .error (-ENOMEM)
  else if ¬ locksAllocated then .error (-ENOMEM)
  else .ok { locks := fun _ ↦ { owner := none, locked := false } }

variable {Thread : Type*} [DecidableEq Thread] {m : ℕ}

/-- The mutex of a number, where `mutex_id < 0 || mutex_id >= dd->num_mutexes` does not hold. -/
def mutexIndex (mutexId : ℤ) : Option (Fin m) :=
  if hvalid : 0 ≤ mutexId ∧ mutexId < m then some ⟨mutexId.toNat, by omega⟩ else none

@[simp] theorem mutexIndex_natCast (mutex : Fin m) :
    mutexIndex ((mutex : ℕ) : ℤ) = some mutex := by
  have hvalid : 0 ≤ ((mutex : ℕ) : ℤ) ∧ ((mutex : ℕ) : ℤ) < m := by
    have hbound := mutex.isLt
    omega
  unfold mutexIndex
  rw [dif_pos hvalid]
  exact congrArg some (Fin.ext (Int.toNat_natCast _))

/-- The mutex of a number has this number. -/
theorem eq_of_mutexIndex {mutexId : ℤ} {mutex : Fin m} (hindex : mutexIndex mutexId = some mutex) :
    mutexId = (mutex : ℕ) := by
  unfold mutexIndex at hindex
  split_ifs at hindex with hvalid
  obtain rfl := Option.some.inj hindex
  exact (Int.toNat_of_nonneg hvalid.1).symm

namespace DeadlockDetector

/-- The table shows a mutex locked by a thread other than the calling one. -/
def LockedByOther (dd : DeadlockDetector Thread m) (current : Thread) (mutex : Fin m) : Prop :=
  (dd.locks mutex).locked = true ∧ (dd.locks mutex).owner ≠ some current

/-- The table shows a mutex locked by the calling thread. -/
def LockedBy (dd : DeadlockDetector Thread m) (current : Thread) (mutex : Fin m) : Prop :=
  (dd.locks mutex).locked = true ∧ (dd.locks mutex).owner = some current

instance (dd : DeadlockDetector Thread m) (current : Thread) (mutex : Fin m) :
    Decidable (dd.LockedByOther current mutex) :=
  inferInstanceAs (Decidable (_ ∧ _))

instance (dd : DeadlockDetector Thread m) (current : Thread) (mutex : Fin m) :
    Decidable (dd.LockedBy current mutex) :=
  inferInstanceAs (Decidable (_ ∧ _))

/-- The two loops of `deadlock_detector_lock` meet a mutex locked by another thread and one of a
greater number locked by the calling thread. -/
def PotentialDeadlock (dd : DeadlockDetector Thread m) (current : Thread) : Prop :=
  ∃ i, dd.LockedByOther current i ∧ ∃ j, dd.LockedBy current j ∧ j > i

instance (dd : DeadlockDetector Thread m) (current : Thread) :
    Decidable (dd.PotentialDeadlock current) :=
  inferInstanceAs (Decidable (∃ _, _))

/-- The table with the entry of one mutex rewritten. -/
def record (dd : DeadlockDetector Thread m) (mutex : Fin m) (info : LockInfo Thread) :
    DeadlockDetector Thread m :=
  { locks := Function.update dd.locks mutex info }

end DeadlockDetector

/-- `deadlock_detector_lock` called by a thread: the table it leaves and the code it returns. -/
def deadlockDetectorLock (dd : DeadlockDetector Thread m) (current : Thread) (mutexId : ℤ)
    (obtained : Bool) : DeadlockDetector Thread m × ℤ :=
  match mutexIndex mutexId with
  | none => (dd, -EINVAL)
  | some mutex =>
    if ¬ obtained then (dd, -ETIMEDOUT)
    else if dd.PotentialDeadlock current then (dd, -EDEADLK)
    else (dd.record mutex { owner := some current, locked := true }, 0)

/-- `deadlock_detector_unlock` called by a thread: the table it leaves and the code it returns. -/
def deadlockDetectorUnlock (dd : DeadlockDetector Thread m) (current : Thread) (mutexId : ℤ) :
    DeadlockDetector Thread m × ℤ :=
  match mutexIndex mutexId with
  | none => (dd, -EINVAL)
  | some mutex =>
    if (dd.locks mutex).locked = false ∨ (dd.locks mutex).owner ≠ some current then (dd, -EPERM)
    else (dd.record mutex { owner := none, locked := false }, 0)

/-- A lock call returns zero exactly when the detector's mutex was obtained and the table shows no
potential deadlock. -/
theorem deadlockDetectorLock_eq_zero {dd : DeadlockDetector Thread m} {current : Thread}
    {mutex : Fin m} {obtained : Bool} :
    (deadlockDetectorLock dd current (mutex : ℕ) obtained).2 = 0 ↔
      obtained = true ∧ ¬ dd.PotentialDeadlock current := by
  simp only [deadlockDetectorLock, mutexIndex_natCast]
  by_cases hobtained : obtained = true
  · rw [if_neg (not_not.mpr hobtained)]
    by_cases hdeadlock : dd.PotentialDeadlock current
    · rw [if_pos hdeadlock]
      exact iff_of_false nofun fun hboth ↦ hboth.2 hdeadlock
    · rw [if_neg hdeadlock]
      exact iff_of_true rfl ⟨hobtained, hdeadlock⟩
  · rw [if_pos hobtained]
    exact iff_of_false nofun fun hboth ↦ hobtained hboth.1

end Bme680.Deadlock
