import Bme680.SectionOutcome
import Mathlib.Tactic.Common

/-!
# The locked sections of the read-write lock

`rwlock.c` keeps four counters under one mutex. Each definition here is one section between two
points at which the mutex is released: `rwlockRdlock` and `rwlockWrlock` run from the acquisition
to the first wait or the return, `rwlockRdlockWoken` and `rwlockWrlockWoken` from the return of
`pthread_cond_timedwait` to the next wait or the return, and `rwlockUnlock` is the whole call.

The counters are mathematical integers where the source has an `int`. The waiting counts and the
active writers count threads and stay small. The active readers count holds for reading, of which a
thread can have any number: the counters are those of the source in the runs in which an `int` can
count the holds (`HoldsFit` of the lock's clients), and beyond them the one of the source overflows.

The specifications after each section list what it can do to the counters when none of the active
counts is negative, the guards included, so that no later argument unfolds a section.
-/

set_option autoImplicit false
set_option relaxedAutoImplicit false

namespace Bme680.ReadWriteLock

/-- The counters of `struct rwlock`: the holds for reading and for writing, and the threads inside
the two wait loops. -/
structure Rwlock where
  activeReaders : ℤ
  activeWriters : ℤ
  waitingReaders : ℤ
  waitingWriters : ℤ
  deriving DecidableEq, Repr

/-- `MAX_WAITING_READERS`. -/
def maxWaitingReaders : ℤ := 10

/-- `MAX_WAITING_WRITERS`. -/
def maxWaitingWriters : ℤ := 5

/-- `rwlock_init`, given whether the allocation succeeds: the counters it sets up, in an allocation
which the source assigns to its own parameter. -/
def rwlockInit (allocated : Bool) : Except ℤ Rwlock :=
  if allocated then
    .ok { activeReaders := 0, activeWriters := 0, waitingReaders := 0, waitingWriters := 0 }
  else .error (-ENOMEM)

/-- The test behind the `Invalid rwlock state` branches. -/
def Rwlock.Invalid (rwlock : Rwlock) : Prop :=
  rwlock.activeReaders < 0 ∨ rwlock.activeWriters < 0

instance (rwlock : Rwlock) : Decidable rwlock.Invalid :=
  inferInstanceAs (Decidable (_ ∨ _))

/-! ### Locking for reading -/

/-- `rwlock_rdlock` from the head of its wait loop. -/
def rwlockRdlockLoop (rwlock : Rwlock) : Rwlock × SectionEnd :=
  if rwlock.activeWriters ≠ 0 ∨ rwlock.waitingWriters ≠ 0 then (rwlock, .sleeps)
  else
    let acquired := { rwlock with
      waitingReaders := rwlock.waitingReaders - 1
      activeReaders := rwlock.activeReaders + 1 }
    if acquired.Invalid then (acquired, .returns (-EINVAL)) else (acquired, .returns 0)

/-- `rwlock_rdlock` from acquiring the mutex. -/
def rwlockRdlock (rwlock : Rwlock) : Rwlock × SectionEnd :=
  if rwlock.waitingReaders ≥ maxWaitingReaders then (rwlock, .returns (-EAGAIN))
  else rwlockRdlockLoop { rwlock with waitingReaders := rwlock.waitingReaders + 1 }

/-- `rwlock_rdlock` from the return `ret` of `pthread_cond_timedwait`. -/
def rwlockRdlockWoken (rwlock : Rwlock) (ret : ℕ) : Rwlock × SectionEnd :=
  if ret = ETIMEDOUT then
    ({ rwlock with waitingReaders := rwlock.waitingReaders - 1 }, .returns (-ETIMEDOUT))
  else if ret ≠ 0 then
    ({ rwlock with waitingReaders := rwlock.waitingReaders - 1 }, .returns ret)
  else rwlockRdlockLoop rwlock

/-! ### Locking for writing -/

/-- `rwlock_wrlock` from the head of its wait loop. -/
def rwlockWrlockLoop (rwlock : Rwlock) : Rwlock × SectionEnd :=
  if rwlock.activeReaders ≠ 0 ∨ rwlock.activeWriters ≠ 0 then (rwlock, .sleeps)
  else
    let acquired := { rwlock with
      waitingWriters := rwlock.waitingWriters - 1
      activeWriters := rwlock.activeWriters + 1 }
    if acquired.Invalid then (acquired, .returns (-EINVAL)) else (acquired, .returns 0)

/-- `rwlock_wrlock` from acquiring the mutex. -/
def rwlockWrlock (rwlock : Rwlock) : Rwlock × SectionEnd :=
  if rwlock.waitingWriters ≥ maxWaitingWriters then (rwlock, .returns (-EAGAIN))
  else rwlockWrlockLoop { rwlock with waitingWriters := rwlock.waitingWriters + 1 }

/-- `rwlock_wrlock` from the return `ret` of `pthread_cond_timedwait`. -/
def rwlockWrlockWoken (rwlock : Rwlock) (ret : ℕ) : Rwlock × SectionEnd :=
  if ret = ETIMEDOUT then
    ({ rwlock with waitingWriters := rwlock.waitingWriters - 1 }, .returns (-ETIMEDOUT))
  else if ret ≠ 0 then
    ({ rwlock with waitingWriters := rwlock.waitingWriters - 1 }, .returns ret)
  else rwlockWrlockLoop rwlock

/-! ### Unlocking -/

/-- What an unlock does to the condition variables. -/
inductive Wakeup
  | nobody
  | signalWriter
  | broadcastReaders
  deriving DecidableEq, Repr

/-- `rwlock_unlock`: the counters it leaves, the wake-up it sends and the code it returns. -/
def rwlockUnlock (rwlock : Rwlock) : Rwlock × Wakeup × ℤ :=
  if rwlock.activeWriters ≠ 0 then
    let released := { rwlock with activeWriters := rwlock.activeWriters - 1 }
    (released,
      if released.waitingWriters ≠ 0 then .signalWriter else .broadcastReaders,
      if released.Invalid then -EINVAL else 0)
  else if rwlock.activeReaders ≠ 0 then
    let released := { rwlock with activeReaders := rwlock.activeReaders - 1 }
    (released,
      if released.activeReaders = 0 ∧ released.waitingWriters ≠ 0 then .signalWriter else .nobody,
      if released.Invalid then -EINVAL else 0)
  else (rwlock, .nobody, -EPERM)

/-! ### The two modes together -/

/-- The two ways of holding the lock. -/
inductive LockMode
  | read
  | write
  deriving DecidableEq, Repr

/-- The lock call of a mode from acquiring the mutex. -/
def rwlockLock : LockMode → Rwlock → Rwlock × SectionEnd
  | .read => rwlockRdlock
  | .write => rwlockWrlock

/-- The lock call of a mode from the return of `pthread_cond_timedwait`. -/
def rwlockWoken : LockMode → Rwlock → ℕ → Rwlock × SectionEnd
  | .read => rwlockRdlockWoken
  | .write => rwlockWrlockWoken

/-- The wait condition of a mode. -/
def LockMode.Busy : LockMode → Rwlock → Prop
  | .read, rwlock => rwlock.activeWriters ≠ 0 ∨ rwlock.waitingWriters ≠ 0
  | .write, rwlock => rwlock.activeReaders ≠ 0 ∨ rwlock.activeWriters ≠ 0

/-- The count of active holds of a mode. -/
def LockMode.active : LockMode → Rwlock → ℤ
  | .read, rwlock => rwlock.activeReaders
  | .write, rwlock => rwlock.activeWriters

/-- The count of waiting threads of a mode. -/
def LockMode.waiting : LockMode → Rwlock → ℤ
  | .read, rwlock => rwlock.waitingReaders
  | .write, rwlock => rwlock.waitingWriters

/-- The most threads a mode lets wait. -/
def LockMode.maxWaiting : LockMode → ℤ
  | .read => maxWaitingReaders
  | .write => maxWaitingWriters

/-- The counters with the waiting threads of a mode changed by an amount. -/
def Rwlock.addWaiting (rwlock : Rwlock) : LockMode → ℤ → Rwlock
  | .read, change => { rwlock with waitingReaders := rwlock.waitingReaders + change }
  | .write, change => { rwlock with waitingWriters := rwlock.waitingWriters + change }

/-- The counters with the active holds of a mode changed by an amount. -/
def Rwlock.addActive (rwlock : Rwlock) : LockMode → ℤ → Rwlock
  | .read, change => { rwlock with activeReaders := rwlock.activeReaders + change }
  | .write, change => { rwlock with activeWriters := rwlock.activeWriters + change }

/-- The wake-up an unlock sends when it releases a hold of a mode. -/
def LockMode.wakeup : LockMode → Rwlock → Wakeup
  | .read, rwlock =>
    if rwlock.activeReaders = 1 ∧ rwlock.waitingWriters ≠ 0 then .signalWriter else .nobody
  | .write, rwlock => if rwlock.waitingWriters ≠ 0 then .signalWriter else .broadcastReaders

/-- The code of a lock call whose wait failed with an error number. -/
def failureCode (ret : ℕ) : ℤ :=
  if ret = ETIMEDOUT then -ETIMEDOUT else ret

/-- A failed wait returns neither zero nor the code of an `Invalid rwlock state` branch. -/
theorem failureCode_ne {ret : ℕ} (hret : ret ≠ 0) :
    SectionEnd.returns (failureCode ret) ≠ .returns 0 ∧
      SectionEnd.returns (failureCode ret) ≠ .returns (-EINVAL) := by
  simp only [failureCode, ETIMEDOUT, EINVAL, ne_eq, SectionEnd.returns.injEq]
  split_ifs <;> omega

/-- Counters of which neither active count is negative. -/
def Rwlock.Valid (rwlock : Rwlock) : Prop :=
  0 ≤ rwlock.activeReaders ∧ 0 ≤ rwlock.activeWriters

@[simp] theorem active_addActive (rwlock : Rwlock) (mode other : LockMode) (change : ℤ) :
    other.active (rwlock.addActive mode change) =
      other.active rwlock + if other = mode then change else 0 := by
  cases mode <;> cases other <;> simp [LockMode.active, Rwlock.addActive]

@[simp] theorem waiting_addActive (rwlock : Rwlock) (mode other : LockMode) (change : ℤ) :
    other.waiting (rwlock.addActive mode change) = other.waiting rwlock := by
  cases mode <;> cases other <;> rfl

@[simp] theorem active_addWaiting (rwlock : Rwlock) (mode other : LockMode) (change : ℤ) :
    other.active (rwlock.addWaiting mode change) = other.active rwlock := by
  cases mode <;> cases other <;> rfl

@[simp] theorem waiting_addWaiting (rwlock : Rwlock) (mode other : LockMode) (change : ℤ) :
    other.waiting (rwlock.addWaiting mode change) =
      other.waiting rwlock + if other = mode then change else 0 := by
  cases mode <;> cases other <;> simp [LockMode.waiting, Rwlock.addWaiting]

/-- Counting a thread as waiting and no longer waiting changes nothing. -/
theorem addWaiting_cancel (rwlock : Rwlock) (mode : LockMode) :
    (rwlock.addWaiting mode 1).addWaiting mode (-1) = rwlock := by
  cases mode <;> simp [Rwlock.addWaiting]

/-- The wait condition of a mode does not read its own waiting threads. -/
theorem busy_addWaiting (rwlock : Rwlock) (mode : LockMode) (change : ℤ) :
    mode.Busy (rwlock.addWaiting mode change) ↔ mode.Busy rwlock := by
  cases mode <;> rfl

/-- Counting waiting threads keeps the active counts valid. -/
theorem valid_addWaiting {rwlock : Rwlock} (hvalid : rwlock.Valid) (mode : LockMode)
    (change : ℤ) : (rwlock.addWaiting mode change).Valid := by
  cases mode <;> exact hvalid

/-- A lock call that finds too many waiting threads is refused and changes nothing. -/
theorem rwlockLock_refused {mode : LockMode} {rwlock : Rwlock}
    (hfull : mode.maxWaiting ≤ mode.waiting rwlock) :
    rwlockLock mode rwlock = (rwlock, .returns (-EAGAIN)) := by
  cases mode with
  | read => exact if_pos hfull
  | write => exact if_pos hfull

/-- A lock call that is not refused counts itself as waiting and enters its wait loop. -/
theorem rwlockLock_enters {mode : LockMode} {rwlock : Rwlock}
    (hroom : mode.waiting rwlock < mode.maxWaiting) :
    rwlockLock mode rwlock = rwlockWoken mode (rwlock.addWaiting mode 1) 0 := by
  cases mode with
  | read => exact if_neg (not_le.mpr hroom)
  | write => exact if_neg (not_le.mpr hroom)

/-- A lock call whose wait failed stops waiting and returns the failure. -/
theorem rwlockWoken_failed (mode : LockMode) (rwlock : Rwlock) {ret : ℕ} (hret : ret ≠ 0) :
    rwlockWoken mode rwlock ret =
      (rwlock.addWaiting mode (-1), .returns (failureCode ret)) := by
  unfold failureCode
  cases mode with
  | read =>
    simp only [rwlockWoken, rwlockRdlockWoken, if_pos hret]
    split_ifs <;> rfl
  | write =>
    simp only [rwlockWoken, rwlockWrlockWoken, if_pos hret]
    split_ifs <;> rfl

/-- A lock call that finds the lock busy sleeps and changes nothing. -/
theorem rwlockWoken_busy {mode : LockMode} {rwlock : Rwlock} (hbusy : mode.Busy rwlock) :
    rwlockWoken mode rwlock 0 = (rwlock, .sleeps) := by
  cases mode with
  | read => exact if_pos hbusy
  | write => exact if_pos hbusy

/-- A lock call that finds the lock free stops waiting and becomes active. -/
theorem rwlockWoken_acquires {mode : LockMode} {rwlock : Rwlock} (hvalid : rwlock.Valid)
    (hfree : ¬ mode.Busy rwlock) :
    rwlockWoken mode rwlock 0 =
      ((rwlock.addWaiting mode (-1)).addActive mode 1, .returns 0) := by
  obtain ⟨hreaders, hwriters⟩ := hvalid
  cases mode with
  | read =>
    have hvalid : ¬ ((rwlock.addWaiting .read (-1)).addActive .read 1).Invalid := by
      simp only [Rwlock.Invalid, Rwlock.addWaiting, Rwlock.addActive]
      omega
    exact (if_neg hfree).trans (if_neg hvalid)
  | write =>
    have hvalid : ¬ ((rwlock.addWaiting .write (-1)).addActive .write 1).Invalid := by
      simp only [Rwlock.Invalid, Rwlock.addWaiting, Rwlock.addActive]
      omega
    exact (if_neg hfree).trans (if_neg hvalid)

/-- An unlock that finds a writer releases the writer. -/
theorem rwlockUnlock_writer {rwlock : Rwlock} (hvalid : rwlock.Valid)
    (hwriter : 0 < rwlock.activeWriters) :
    rwlockUnlock rwlock =
      (rwlock.addActive .write (-1), LockMode.write.wakeup rwlock, 0) := by
  have hreaders := hvalid.1
  have hstill : ¬ (rwlock.addActive .write (-1)).Invalid := by
    simp only [Rwlock.Invalid, Rwlock.addActive]
    omega
  exact (if_pos hwriter.ne').trans
    (congrArg (fun ret : ℤ ↦ (rwlock.addActive .write (-1), LockMode.write.wakeup rwlock, ret))
      (if_neg hstill))

/-- An unlock that finds no writer but a reader releases a reader. -/
theorem rwlockUnlock_reader {rwlock : Rwlock} (hnowriter : rwlock.activeWriters = 0)
    (hreader : 0 < rwlock.activeReaders) :
    rwlockUnlock rwlock =
      (rwlock.addActive .read (-1), LockMode.read.wakeup rwlock, 0) := by
  have hstill : ¬ (rwlock.addActive .read (-1)).Invalid := by
    simp only [Rwlock.Invalid, Rwlock.addActive]
    omega
  have hlast : rwlock.activeReaders + -1 = 0 ↔ rwlock.activeReaders = 1 := by omega
  have hnot : ¬ rwlock.activeWriters ≠ 0 := not_not.mpr hnowriter
  simp only [rwlockUnlock, if_neg hnot, if_pos hreader.ne', Int.sub_eq_add_neg]
  simp only [LockMode.wakeup, Rwlock.addActive, hlast] at hstill ⊢
  rw [if_neg hstill]

end Bme680.ReadWriteLock
