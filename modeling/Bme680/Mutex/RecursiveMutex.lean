import Bme680.SectionOutcome
import Bme680.Arithmetic.SignedWords
import Bme680.Concurrency.TransitionSystem

/-!
# The recursive mutex, one access at a time

`recursive_mutex.c` puts an owner and a count of its own over a recursive `pthread_mutex_t`. Both
functions read the owner without holding the underlying mutex, so other threads may be anywhere in
their own calls when they do.

The system takes every access to the record as a step of its own: the reads of the owner, the read
and the write of each `count++` and `count--`, the test of the count, the writes of owner and
count, the acquisition and the release of the underlying mutex. A call returns with its last such
access. A thread's depth is the lock calls of its that returned zero minus its unlock calls that
returned zero.

`CallerFits` says at each point of the code what a thread's depth means for the record: whether the
thread holds the underlying mutex, whether it is the owner, and what the count is. It is kept by
the thread's own accesses (`CallerFits.access`) and by those of the others
(`CallerFits.access_other`), and `recursive_mutex_sound` reads off it that the mutex works as a
recursive mutex is expected to.
-/

set_option autoImplicit false
set_option relaxedAutoImplicit false

namespace Bme680.Mutex

open Concurrency Arithmetic

/-! ### The record -/

/-- `struct recursive_mutex`: the thread that holds the underlying recursive mutex with the number
of times it holds it, the owner, which is none for the value 0, and the count. -/
structure RecursiveMutex (Thread : Type*) where
  mutex : Option (Thread × ℕ)
  owner : Option Thread
  count : Int32
  deriving DecidableEq, Repr

variable {Thread : Type*} [DecidableEq Thread]

omit [DecidableEq Thread] in
/-- `recursive_mutex_init`, given whether the allocation succeeds. -/
def recursiveMutexInit (allocated : Bool) : Except ℤ (RecursiveMutex Thread) :=
  if allocated then .ok { mutex := none, owner := none, count := 0 } else .error (-ENOMEM)

/-- `pthread_mutex_lock` on a recursive mutex, where it can return zero: the mutex is free, or the
thread holds it already. -/
def pthreadMutexLock (mutex : Option (Thread × ℕ)) (current : Thread) : Option (Thread × ℕ) :=
  match mutex with
  | none => some (current, 1)
  | some (holder, level) => if holder = current then some (current, level + 1) else none

/-- `pthread_mutex_unlock` on a recursive mutex. A thread that does not hold it changes nothing. -/
def pthreadMutexUnlock (mutex : Option (Thread × ℕ)) (current : Thread) : Option (Thread × ℕ) :=
  match mutex with
  | none => none
  | some (holder, level) =>
    if holder = current then if level = 1 then none else some (holder, level - 1)
    else some (holder, level)

/-! ### The calls -/

/-- The access a thread is about to make, with the count it has read in `count++` and `count--`. -/
inductive MutexPhase
  | outside
  | lockReadsOwner
  | lockReadsCount
  | lockIncrements (read : Int32)
  | lockAcquires
  | lockWritesOwner
  | lockWritesCount
  | unlockReadsOwner
  | unlockReadsCount
  | unlockDecrements (read : Int32)
  | unlockTestsCount
  | unlockClearsOwner
  | unlockReleases
  deriving DecidableEq, Repr

/-- A thread using the mutex: where it is, the code its last call returned, and how many of its
lock calls and unlock calls returned zero. -/
structure MutexCaller where
  phase : MutexPhase
  lastReturn : ℤ
  locks : ℕ
  unlocks : ℕ
  deriving DecidableEq, Repr

namespace MutexCaller

/-- A thread that has made no call. -/
def fresh : MutexCaller :=
  { phase := .outside, lastReturn := 0, locks := 0, unlocks := 0 }

/-- The lock calls of a thread minus its unlock calls, counting those that returned zero. -/
def depth (caller : MutexCaller) : ℤ :=
  caller.locks - caller.unlocks

/-- The thread about to make another access. -/
def goto (caller : MutexCaller) (phase : MutexPhase) : MutexCaller :=
  { caller with phase := phase }

/-- The thread after a call that returned an error. -/
def refused (caller : MutexCaller) (ret : ℤ) : MutexCaller :=
  { caller with phase := .outside, lastReturn := ret }

/-- The thread after a lock call that returned zero. -/
def locked (caller : MutexCaller) : MutexCaller :=
  { caller with phase := .outside, lastReturn := 0, locks := caller.locks + 1 }

/-- The thread after an unlock call that returned zero. -/
def unlocked (caller : MutexCaller) : MutexCaller :=
  { caller with phase := .outside, lastReturn := 0, unlocks := caller.unlocks + 1 }

@[simp]
theorem phase_goto (caller : MutexCaller) (phase : MutexPhase) :
    (caller.goto phase).phase = phase :=
  rfl

@[simp]
theorem phase_refused (caller : MutexCaller) (ret : ℤ) :
    (caller.refused ret).phase = .outside :=
  rfl

@[simp]
theorem phase_locked (caller : MutexCaller) : caller.locked.phase = .outside :=
  rfl

@[simp]
theorem phase_unlocked (caller : MutexCaller) : caller.unlocked.phase = .outside :=
  rfl

@[simp]
theorem depth_goto (caller : MutexCaller) (phase : MutexPhase) :
    (caller.goto phase).depth = caller.depth :=
  rfl

@[simp]
theorem depth_refused (caller : MutexCaller) (ret : ℤ) :
    (caller.refused ret).depth = caller.depth :=
  rfl

@[simp]
theorem depth_locked (caller : MutexCaller) : caller.locked.depth = caller.depth + 1 := by
  simp only [depth, locked]
  omega

@[simp]
theorem depth_unlocked (caller : MutexCaller) : caller.unlocked.depth = caller.depth - 1 := by
  simp only [depth, unlocked]
  omega

end MutexCaller

/-- The next access of `recursive_mutex_lock` and `recursive_mutex_unlock` in a thread. Locking the
underlying mutex is the one access that may have to wait. -/
def recursiveMutexAccess (current : Thread) (rmutex : RecursiveMutex Thread)
    (caller : MutexCaller) : Option (RecursiveMutex Thread × MutexCaller) :=
  match caller.phase with
  | .outside => none
  | .lockReadsOwner =>
    if rmutex.owner = some current then some (rmutex, caller.goto .lockReadsCount)
    else some (rmutex, caller.goto .lockAcquires)
  | .lockReadsCount => some (rmutex, caller.goto (.lockIncrements rmutex.count))
  | .lockIncrements read => some ({ rmutex with count := read + 1 }, caller.locked)
  | .lockAcquires =>
    match pthreadMutexLock rmutex.mutex current with
    | some held => some ({ rmutex with mutex := some held }, caller.goto .lockWritesOwner)
    | none => none
  | .lockWritesOwner =>
    some ({ rmutex with owner := some current }, caller.goto .lockWritesCount)
  | .lockWritesCount => some ({ rmutex with count := 1 }, caller.locked)
  | .unlockReadsOwner =>
    if rmutex.owner ≠ some current then some (rmutex, caller.refused (-EPERM))
    else some (rmutex, caller.goto .unlockReadsCount)
  | .unlockReadsCount => some (rmutex, caller.goto (.unlockDecrements rmutex.count))
  | .unlockDecrements read =>
    some ({ rmutex with count := read - 1 }, caller.goto .unlockTestsCount)
  | .unlockTestsCount =>
    if rmutex.count = 0 then some (rmutex, caller.goto .unlockClearsOwner)
    else some (rmutex, caller.unlocked)
  | .unlockClearsOwner =>
    some ({ rmutex with owner := none }, caller.goto .unlockReleases)
  | .unlockReleases =>
    some ({ rmutex with mutex := pthreadMutexUnlock rmutex.mutex current }, caller.unlocked)

/-! ### The system -/

/-- The mutex and the threads using it. -/
structure MutexState (Thread : Type*) where
  rmutex : RecursiveMutex Thread
  callers : Thread → MutexCaller

/-- The steps of a thread: it calls one of the two functions, makes its next access, or has
`pthread_mutex_lock` fail with an error number. -/
inductive MutexLabel (Thread : Type*)
  | lock (thread : Thread)
  | unlock (thread : Thread)
  | access (thread : Thread)
  | fail (thread : Thread) (ret : ℕ)
  deriving DecidableEq

/-- The state after a thread's access to the record. -/
def MutexState.after (state : MutexState Thread) (thread : Thread)
    (result : RecursiveMutex Thread × MutexCaller) : MutexState Thread :=
  { rmutex := result.1, callers := Function.update state.callers thread result.2 }

/-- One step of threads using the mutex. -/
def mutexNext (state : MutexState Thread) : MutexLabel Thread → Option (MutexState Thread)
  | .lock thread =>
    if (state.callers thread).phase = .outside then
      some (state.after thread (state.rmutex, (state.callers thread).goto .lockReadsOwner))
    else none
  | .unlock thread =>
    if (state.callers thread).phase = .outside then
      some (state.after thread (state.rmutex, (state.callers thread).goto .unlockReadsOwner))
    else none
  | .access thread =>
    (recursiveMutexAccess thread state.rmutex (state.callers thread)).map (state.after thread)
  | .fail thread ret =>
    if (state.callers thread).phase = .lockAcquires ∧ ret ≠ 0 then
      some (state.after thread (state.rmutex, (state.callers thread).refused ret))
    else none

/-- Threads using an initialised recursive mutex. -/
def mutexSystem (Thread : Type*) [DecidableEq Thread] :
    TransitionSystem (MutexState Thread) (MutexLabel Thread) where
  initial state :=
    recursiveMutexInit true = .ok state.rmutex ∧ state.callers = fun _ ↦ .fresh
  next := mutexNext

/-- No call of `recursive_mutex_lock` is one too many for the count: the depth it asks for is below
2147483648. -/
def NestsBelow (state : MutexState Thread) : MutexLabel Thread → Prop
  | .lock thread => (state.callers thread).depth + 1 < 2147483648
  | _ => True

instance (state : MutexState Thread) : DecidablePred (NestsBelow state)
  | .lock thread =>
    inferInstanceAs (Decidable ((state.callers thread).depth + 1 < 2147483648))
  | .unlock _ => inferInstanceAs (Decidable True)
  | .access _ => inferInstanceAs (Decidable True)
  | .fail _ _ => inferInstanceAs (Decidable True)

/-! ### What a thread knows about the record -/

namespace MutexCaller

/-- The thread holds the underlying mutex. -/
def Holding (caller : MutexCaller) : Prop :=
  0 < caller.depth ∨ caller.phase = .lockWritesOwner ∨ caller.phase = .lockWritesCount

/-- The thread is the owner: the owner is written after the mutex is acquired and cleared before it
is released. -/
def Owning (caller : MutexCaller) : Prop :=
  (0 < caller.depth ∧ caller.phase ≠ .unlockReleases) ∨ caller.phase = .lockWritesCount

/-- The depth at each point of the code, and the count where the thread holds the mutex. -/
def PhaseFits (caller : MutexCaller) (count : ℤ) : Prop :=
  match caller.phase with
  | .outside | .unlockReadsOwner =>
    0 ≤ caller.depth ∧ caller.depth < 2147483648 ∧ (0 < caller.depth → count = caller.depth)
  | .lockReadsOwner =>
    0 ≤ caller.depth ∧ caller.depth + 1 < 2147483648 ∧ (0 < caller.depth → count = caller.depth)
  | .lockReadsCount =>
    0 < caller.depth ∧ caller.depth + 1 < 2147483648 ∧ count = caller.depth
  | .lockIncrements read =>
    0 < caller.depth ∧ caller.depth + 1 < 2147483648 ∧ read.toInt = caller.depth
  | .lockAcquires | .lockWritesOwner | .lockWritesCount => caller.depth = 0
  | .unlockReadsCount =>
    0 < caller.depth ∧ caller.depth < 2147483648 ∧ count = caller.depth
  | .unlockDecrements read =>
    0 < caller.depth ∧ caller.depth < 2147483648 ∧ read.toInt = caller.depth
  | .unlockTestsCount =>
    0 < caller.depth ∧ caller.depth < 2147483648 ∧ count = caller.depth - 1
  | .unlockClearsOwner | .unlockReleases => caller.depth = 1

/-- The owner holds the mutex. -/
theorem Owning.holding {caller : MutexCaller} (howning : caller.Owning) : caller.Holding := by
  rcases howning with ⟨hdepth, -⟩ | hphase
  · exact .inl hdepth
  · exact .inr (.inr hphase)

/-- What a thread that does not hold the mutex knows does not depend on the count. -/
theorem PhaseFits.of_not_holding {caller : MutexCaller} {count : ℤ} (other : ℤ)
    (hnot : ¬ caller.Holding) (hfits : caller.PhaseFits count) : caller.PhaseFits other := by
  have hdepth : ¬ 0 < caller.depth := fun hdepth ↦ hnot (.inl hdepth)
  unfold PhaseFits at hfits ⊢
  split at hfits <;> simp_all

end MutexCaller

/-- What a thread's depth and place in the code mean for the record. The thread never holds the
underlying mutex more than once. -/
structure CallerFits (rmutex : RecursiveMutex Thread) (thread : Thread) (caller : MutexCaller) :
    Prop where
  mutex : ∀ level, rmutex.mutex = some (thread, level) ↔ caller.Holding ∧ level = 1
  owner : rmutex.owner = some thread ↔ caller.Owning
  phase : caller.PhaseFits rmutex.count.toInt

/-- The phase is none of those between acquiring the mutex and counting it, or between clearing the
owner and releasing it. -/
def MutexPhase.Ordinary (phase : MutexPhase) : Prop :=
  phase ≠ .lockWritesOwner ∧ phase ≠ .lockWritesCount ∧ phase ≠ .unlockReleases

omit [DecidableEq Thread] in
/-- At an ordinary phase a thread holds the mutex and is the owner where its depth is positive. -/
theorem CallerFits.of_ordinary {rmutex : RecursiveMutex Thread} {thread : Thread}
    {caller : MutexCaller} (hfits : CallerFits rmutex thread caller)
    (hordinary : caller.phase.Ordinary) :
    (∀ level, rmutex.mutex = some (thread, level) ↔ 0 < caller.depth ∧ level = 1) ∧
      (rmutex.owner = some thread ↔ 0 < caller.depth) := by
  obtain ⟨hwritesOwner, hwritesCount, hreleases⟩ := hordinary
  constructor
  · intro level
    rw [hfits.mutex, MutexCaller.Holding]
    simp only [hwritesOwner, hwritesCount, or_false]
  · rw [hfits.owner, MutexCaller.Owning]
    simp only [hwritesCount, ne_eq, hreleases, not_false_eq_true, and_true, or_false]

/-- The count after an increment of a depth below the largest count. -/
theorem toInt_increment {read : Int32} {depth : ℤ} (hread : read.toInt = depth)
    (hdepth : 0 < depth) (hbelow : depth + 1 < 2147483648) : (read + 1).toInt = depth + 1 := by
  rw [Int32.toInt_add, hread]
  exact bmod_of_range32 (by simp; omega) (by simp; omega)

/-- The count after a decrement of a positive depth. -/
theorem toInt_decrement {read : Int32} {depth : ℤ} (hread : read.toInt = depth)
    (hdepth : 0 < depth) (hbelow : depth < 2147483648) : (read - 1).toInt = depth - 1 := by
  rw [Int32.toInt_sub, hread]
  exact bmod_of_range32 (by simp; omega) (by simp; omega)

omit [DecidableEq Thread] in
/-- A thread at an ordinary phase fits the record where it holds the mutex and is the owner just
when its depth is positive. -/
theorem CallerFits.of_depth {rmutex : RecursiveMutex Thread} {thread : Thread}
    {caller : MutexCaller} (hordinary : caller.phase.Ordinary)
    (hmutex : ∀ level, rmutex.mutex = some (thread, level) ↔ 0 < caller.depth ∧ level = 1)
    (howner : rmutex.owner = some thread ↔ 0 < caller.depth)
    (hphase : caller.PhaseFits rmutex.count.toInt) : CallerFits rmutex thread caller := by
  obtain ⟨hwritesOwner, hwritesCount, hreleases⟩ := hordinary
  refine ⟨fun level ↦ ?_, ?_, hphase⟩
  · rw [hmutex, MutexCaller.Holding]
    simp only [hwritesOwner, hwritesCount, or_false]
  · rw [howner, MutexCaller.Owning]
    simp only [hwritesCount, ne_eq, hreleases, not_false_eq_true, and_true, or_false]

/-- The accesses of a thread that leave the record as it is keep what its depth means for it. -/
theorem CallerFits.access_reads {rmutex rmutex' : RecursiveMutex Thread} {thread : Thread}
    {caller caller' : MutexCaller} (hfits : CallerFits rmutex thread caller)
    (hreads : caller.phase = .lockReadsOwner ∨ caller.phase = .lockReadsCount ∨
      caller.phase = .unlockReadsOwner ∨ caller.phase = .unlockReadsCount ∨
      caller.phase = .unlockTestsCount)
    (haccess : recursiveMutexAccess thread rmutex caller = some (rmutex', caller')) :
    CallerFits rmutex' thread caller' := by
  have hordinary : caller.phase.Ordinary := by
    rcases hreads with hpoint | hpoint | hpoint | hpoint | hpoint <;>
      simp [MutexPhase.Ordinary, hpoint]
  obtain ⟨hmutex, howner⟩ := hfits.of_ordinary hordinary
  have hphase := hfits.phase
  unfold recursiveMutexAccess at haccess
  unfold MutexCaller.PhaseFits at hphase
  rcases hreads with hpoint | hpoint | hpoint | hpoint | hpoint <;>
    simp only [hpoint] at haccess hphase
  · -- the owner goes on to the count, any other thread to the mutex
    split_ifs at haccess with howns
    · obtain ⟨rfl, rfl⟩ := Prod.mk.inj (Option.some.inj haccess)
      have hdepth : 0 < caller.depth := howner.mp howns
      exact .of_depth (by simp [MutexPhase.Ordinary]) hmutex howner
        (by simp [MutexCaller.PhaseFits, hphase, hdepth])
    · obtain ⟨rfl, rfl⟩ := Prod.mk.inj (Option.some.inj haccess)
      have hnot : ¬ 0 < caller.depth := fun hpositive ↦ howns (howner.mpr hpositive)
      have hdepth : caller.depth = 0 := by omega
      exact .of_depth (by simp [MutexPhase.Ordinary]) hmutex howner
        (by simp [MutexCaller.PhaseFits, hdepth])
  · obtain ⟨rfl, rfl⟩ := Prod.mk.inj (Option.some.inj haccess)
    exact .of_depth (by simp [MutexPhase.Ordinary]) hmutex howner
      (by simp [MutexCaller.PhaseFits, hphase])
  · split_ifs at haccess with howns
    · obtain ⟨rfl, rfl⟩ := Prod.mk.inj (Option.some.inj haccess)
      exact .of_depth (by simp [MutexPhase.Ordinary]) hmutex howner
        (by simpa [MutexCaller.PhaseFits] using hphase)
    · obtain ⟨rfl, rfl⟩ := Prod.mk.inj (Option.some.inj haccess)
      have hdepth : 0 < caller.depth := howner.mp (not_not.mp howns)
      exact .of_depth (by simp [MutexPhase.Ordinary]) hmutex howner
        (by simp [MutexCaller.PhaseFits, hphase, hdepth])
  · obtain ⟨rfl, rfl⟩ := Prod.mk.inj (Option.some.inj haccess)
    exact .of_depth (by simp [MutexPhase.Ordinary]) hmutex howner
      (by simp [MutexCaller.PhaseFits, hphase])
  · -- a count of zero is a depth of one, and any other count means that the thread stays the owner
    obtain ⟨hdepth, hbelow, hcount⟩ := hphase
    split_ifs at haccess with hzero
    · obtain ⟨rfl, rfl⟩ := Prod.mk.inj (Option.some.inj haccess)
      have hone : caller.depth = 1 := by
        rw [hzero, Int32.toInt_zero] at hcount
        omega
      exact .of_depth (by simp [MutexPhase.Ordinary]) hmutex howner
        (by simp [MutexCaller.PhaseFits, hone])
    · obtain ⟨rfl, rfl⟩ := Prod.mk.inj (Option.some.inj haccess)
      have hnonzero : rmutex.count.toInt ≠ 0 := fun hcountZero ↦
        hzero (Int32.toInt_inj.mp (hcountZero.trans Int32.toInt_zero.symm))
      have hmore : 1 < caller.depth := by omega
      have hlt : caller.depth - 1 < 2147483648 := by omega
      refine .of_depth (by simp [MutexPhase.Ordinary]) (fun level ↦ ?_) ?_ ?_
      · simp [hmutex, hdepth, hmore]
      · simp [howner, hdepth, hmore]
      · simp [MutexCaller.PhaseFits, hmore.le, hlt, hcount]

/-- A thread's own access keeps what its depth means for the record. -/
theorem CallerFits.access {rmutex rmutex' : RecursiveMutex Thread} {thread : Thread}
    {caller caller' : MutexCaller} (hfits : CallerFits rmutex thread caller)
    (haccess : recursiveMutexAccess thread rmutex caller = some (rmutex', caller')) :
    CallerFits rmutex' thread caller' := by
  have hreading := fun hreads ↦ hfits.access_reads hreads haccess
  have hmutex := hfits.mutex
  have howner := hfits.owner
  have hphase := hfits.phase
  unfold recursiveMutexAccess at haccess
  unfold MutexCaller.PhaseFits at hphase
  cases hpoint : caller.phase with
  | outside =>
    simp [hpoint] at haccess
  | lockReadsOwner | lockReadsCount | unlockReadsOwner | unlockReadsCount | unlockTestsCount =>
    exact hreading (by simp [hpoint])
  | lockIncrements read =>
    simp only [hpoint] at haccess hphase
    obtain ⟨hmutex, howner⟩ := hfits.of_ordinary (by simp [MutexPhase.Ordinary, hpoint])
    obtain ⟨rfl, rfl⟩ := Prod.mk.inj (Option.some.inj haccess)
    obtain ⟨hdepth, hbelow, hread⟩ := hphase
    have hcount := toInt_increment hread hdepth hbelow
    have hmore : 0 < caller.depth + 1 := by omega
    refine .of_depth (by simp [MutexPhase.Ordinary]) (fun level ↦ ?_) ?_ ?_
    · simp [hmutex, hdepth, hmore]
    · simp [howner, hdepth, hmore]
    · simp [MutexCaller.PhaseFits, hmore.le, hbelow, hcount]
  | unlockDecrements read =>
    simp only [hpoint] at haccess hphase
    obtain ⟨hmutex, howner⟩ := hfits.of_ordinary (by simp [MutexPhase.Ordinary, hpoint])
    obtain ⟨rfl, rfl⟩ := Prod.mk.inj (Option.some.inj haccess)
    obtain ⟨hdepth, hbelow, hread⟩ := hphase
    have hcount := toInt_decrement hread hdepth hbelow
    exact .of_depth (by simp [MutexPhase.Ordinary]) hmutex howner
      (by simp [MutexCaller.PhaseFits, hdepth, hbelow, hcount])
  | lockAcquires =>
    simp only [hpoint] at haccess hphase
    simp only [MutexCaller.Holding, MutexCaller.Owning, hpoint, hphase, lt_self_iff_false,
      reduceCtorEq, or_false, false_and, iff_false] at hmutex howner
    cases hmutexIs : rmutex.mutex with
    | none =>
      simp only [hmutexIs, pthreadMutexLock] at haccess
      obtain ⟨rfl, rfl⟩ := Prod.mk.inj (Option.some.inj haccess)
      constructor <;>
        simp [MutexCaller.Holding, MutexCaller.Owning, MutexCaller.PhaseFits, howner, hphase,
          eq_comm]
    | some held =>
      obtain ⟨holder, level⟩ := held
      have hother : holder ≠ thread := by
        rintro rfl
        exact hmutex level hmutexIs
      simp [hmutexIs, pthreadMutexLock, hother] at haccess
  | lockWritesOwner =>
    simp only [hpoint] at haccess hphase
    simp only [MutexCaller.Holding, hpoint, true_or, or_true, true_and] at hmutex
    obtain ⟨rfl, rfl⟩ := Prod.mk.inj (Option.some.inj haccess)
    constructor <;>
      simp [MutexCaller.Holding, MutexCaller.Owning, MutexCaller.PhaseFits, hmutex, hphase]
  | lockWritesCount =>
    simp only [hpoint] at haccess hphase
    simp only [MutexCaller.Holding, MutexCaller.Owning, hpoint, or_true, true_and, iff_true]
      at hmutex howner
    obtain ⟨rfl, rfl⟩ := Prod.mk.inj (Option.some.inj haccess)
    constructor <;>
      simp [MutexCaller.Holding, MutexCaller.Owning, MutexCaller.PhaseFits, hmutex, howner, hphase]
  | unlockClearsOwner =>
    simp only [hpoint] at haccess hphase
    simp only [MutexCaller.Holding, hpoint, hphase, true_or, zero_lt_one,
      true_and] at hmutex
    obtain ⟨rfl, rfl⟩ := Prod.mk.inj (Option.some.inj haccess)
    constructor <;>
      simp [MutexCaller.Holding, MutexCaller.Owning, MutexCaller.PhaseFits, hmutex, hphase]
  | unlockReleases =>
    simp only [hpoint] at haccess hphase
    simp only [MutexCaller.Holding, MutexCaller.Owning, hpoint, hphase, zero_lt_one,
      ne_eq, not_true_eq_false, and_false, reduceCtorEq, or_false, true_and, iff_false]
      at hmutex howner
    have hheld : rmutex.mutex = some (thread, 1) := (hmutex 1).mpr rfl
    obtain ⟨rfl, rfl⟩ := Prod.mk.inj (Option.some.inj haccess)
    constructor <;>
      simp [MutexCaller.Holding, MutexCaller.Owning, MutexCaller.PhaseFits, pthreadMutexUnlock,
        hheld, howner, hphase]

/-- What an access can do to the record: nothing, acquire the free mutex, or, in the thread that
holds it, release it and write the owner and the count. -/
theorem CallerFits.access_effect {rmutex rmutex' : RecursiveMutex Thread} {thread : Thread}
    {caller caller' : MutexCaller} (hfits : CallerFits rmutex thread caller)
    (haccess : recursiveMutexAccess thread rmutex caller = some (rmutex', caller')) :
    rmutex' = rmutex ∨
      (rmutex.mutex = none ∧ rmutex' = { rmutex with mutex := some (thread, 1) }) ∨
      (rmutex.mutex = some (thread, 1) ∧
        (rmutex'.mutex = some (thread, 1) ∨ rmutex'.mutex = none) ∧
        (rmutex'.owner = rmutex.owner ∨ rmutex'.owner = some thread ∨ rmutex'.owner = none)) := by
  have hphase := hfits.phase
  have hheld : caller.Holding → rmutex.mutex = some (thread, 1) :=
    fun hholding ↦ (hfits.mutex 1).mpr ⟨hholding, rfl⟩
  unfold recursiveMutexAccess at haccess
  unfold MutexCaller.PhaseFits at hphase
  cases hpoint : caller.phase with
  | outside => simp [hpoint] at haccess
  | lockReadsOwner | lockReadsCount | unlockReadsOwner | unlockReadsCount | unlockTestsCount =>
    refine .inl ?_
    simp only [hpoint] at haccess
    grind
  | lockAcquires =>
    simp only [hpoint] at haccess hphase
    refine .inr (.inl ?_)
    cases hmutex : rmutex.mutex with
    | none =>
      simp only [hmutex, pthreadMutexLock] at haccess
      obtain ⟨rfl, rfl⟩ := Prod.mk.inj (Option.some.inj haccess)
      exact ⟨rfl, rfl⟩
    | some held =>
      obtain ⟨holder, level⟩ := held
      have hother : holder ≠ thread := by
        rintro rfl
        simpa [MutexCaller.Holding, hpoint, hphase] using (hfits.mutex level).mp hmutex
      simp [hmutex, pthreadMutexLock, hother] at haccess
  | lockWritesOwner | lockWritesCount =>
    have hmutex := hheld (by simp [MutexCaller.Holding, hpoint])
    simp only [hpoint] at haccess
    obtain ⟨rfl, rfl⟩ := Prod.mk.inj (Option.some.inj haccess)
    exact .inr (.inr ⟨hmutex, by simp [hmutex]⟩)
  | lockIncrements read | unlockDecrements read =>
    simp only [hpoint] at haccess hphase
    have hmutex := hheld (.inl hphase.1)
    obtain ⟨rfl, rfl⟩ := Prod.mk.inj (Option.some.inj haccess)
    exact .inr (.inr ⟨hmutex, by simp [hmutex]⟩)
  | unlockClearsOwner | unlockReleases =>
    simp only [hpoint] at haccess hphase
    have hmutex := hheld (.inl (by omega))
    obtain ⟨rfl, rfl⟩ := Prod.mk.inj (Option.some.inj haccess)
    exact .inr (.inr ⟨hmutex, by simp [hmutex, pthreadMutexUnlock]⟩)

/-- Another thread's access keeps what a thread's depth means for the record: whichever value of
the owner the other thread has read, it writes only where it holds the mutex. -/
theorem CallerFits.access_other {rmutex rmutex' : RecursiveMutex Thread} {thread other : Thread}
    {caller caller' otherCaller : MutexCaller} (hne : other ≠ thread)
    (hfits : CallerFits rmutex thread caller) (hother : CallerFits rmutex other otherCaller)
    (haccess : recursiveMutexAccess thread rmutex caller = some (rmutex', caller')) :
    CallerFits rmutex' other otherCaller := by
  rcases hfits.access_effect haccess with rfl | ⟨hfree, rfl⟩ | ⟨hheld, hmutex, howner⟩
  · exact hother
  · refine ⟨fun level ↦ ?_, hother.owner, hother.phase⟩
    have hbefore := hother.mutex level
    simp only [hfree, reduceCtorEq, false_iff] at hbefore
    simp [hne.symm, hbefore]
  · have hnot : ¬ otherCaller.Holding := by
      intro hholding
      have hsame := hheld.symm.trans ((hother.mutex 1).mpr ⟨hholding, rfl⟩)
      simp only [Option.some.injEq, Prod.mk.injEq, and_true] at hsame
      exact hne hsame.symm
    have hnotOwning : ¬ otherCaller.Owning := fun howning ↦ hnot howning.holding
    have hnotOwner : rmutex.owner ≠ some other := fun howns ↦ hnotOwning (hother.owner.mp howns)
    refine ⟨fun level ↦ ?_, ?_, hother.phase.of_not_holding _ hnot⟩
    · rcases hmutex with hmutex | hmutex <;> simp [hmutex, hnot, hne.symm]
    · rcases howner with howner | howner | howner <;>
        simp [howner, hnotOwning, hnotOwner, hne.symm]

omit [DecidableEq Thread] in
/-- The depth of a thread is not negative. -/
theorem CallerFits.depth_nonneg {rmutex : RecursiveMutex Thread} {thread : Thread}
    {caller : MutexCaller} (hfits : CallerFits rmutex thread caller) : 0 ≤ caller.depth := by
  have hphase := hfits.phase
  unfold MutexCaller.PhaseFits at hphase
  cases hpoint : caller.phase <;> simp only [hpoint] at hphase <;> omega

/-- Only a thread at depth zero comes to write itself into the record as its owner. -/
theorem CallerFits.depth_of_writes {rmutex rmutex' : RecursiveMutex Thread} {thread : Thread}
    {caller caller' : MutexCaller} (hfits : CallerFits rmutex thread caller)
    (haccess : recursiveMutexAccess thread rmutex caller = some (rmutex', caller'))
    (hwrites : caller'.phase = .lockWritesOwner ∨ caller'.phase = .lockWritesCount) :
    caller.depth = 0 := by
  have hphase := hfits.phase
  unfold MutexCaller.PhaseFits at hphase
  unfold recursiveMutexAccess at haccess
  cases hpoint : caller.phase with
  | lockAcquires | lockWritesOwner | lockWritesCount =>
    simpa only [hpoint] using hphase
  | _ =>
    simp only [hpoint] at haccess
    grind [MutexCaller.phase_goto, MutexCaller.phase_locked, MutexCaller.phase_unlocked,
      MutexCaller.phase_refused]

/-- The accesses that release the underlying mutex are those that take the depth to zero. -/
theorem CallerFits.access_release {rmutex rmutex' : RecursiveMutex Thread} {thread : Thread}
    {caller caller' : MutexCaller} (hfits : CallerFits rmutex thread caller)
    (haccess : recursiveMutexAccess thread rmutex caller = some (rmutex', caller')) :
    ((∃ level, rmutex.mutex = some (thread, level)) ∧ rmutex'.mutex = none) ↔
      (0 < caller.depth ∧ caller'.depth = 0) := by
  have hafter := hfits.access haccess
  constructor
  · rintro ⟨⟨level, hheld⟩, hfree⟩
    have hnot : ¬ caller'.Holding := by
      intro hholding
      cases hfree.symm.trans ((hafter.mutex 1).mpr ⟨hholding, rfl⟩)
    have hzero : ¬ 0 < caller'.depth := fun hdepth ↦ hnot (.inl hdepth)
    have hnonneg := hafter.depth_nonneg
    refine ⟨?_, by omega⟩
    rcases ((hfits.mutex level).mp hheld).1 with hdepth | hwrites
    · exact hdepth
    · -- the mutex is still held after the owner or the count is written
      rcases hwrites with hpoint | hpoint <;>
        simp only [recursiveMutexAccess, hpoint] at haccess <;>
        obtain ⟨rfl, -⟩ := Prod.mk.inj (Option.some.inj haccess) <;>
        cases hfree.symm.trans hheld
  · rintro ⟨hdepth, hzero⟩
    have hheld := (hfits.mutex 1).mpr ⟨.inl hdepth, rfl⟩
    refine ⟨⟨1, hheld⟩, ?_⟩
    have hnot : rmutex'.mutex ≠ some (thread, 1) := by
      intro hstill
      rcases ((hafter.mutex 1).mp hstill).1 with hdeep | hwrites
      · omega
      · have := hfits.depth_of_writes haccess hwrites
        omega
    rcases hfits.access_effect haccess with rfl | ⟨hfree, -⟩ | ⟨-, hmutex, -⟩
    · exact absurd hheld hnot
    · cases hfree.symm.trans hheld
    · exact hmutex.resolve_left hnot

/-- An access of another thread does not release a mutex that a thread holds. -/
theorem CallerFits.access_keeps {rmutex rmutex' : RecursiveMutex Thread} {thread other : Thread}
    {caller caller' : MutexCaller} {level : ℕ} (hne : other ≠ thread)
    (hfits : CallerFits rmutex thread caller)
    (haccess : recursiveMutexAccess thread rmutex caller = some (rmutex', caller'))
    (hheld : rmutex.mutex = some (other, level)) : rmutex'.mutex = some (other, level) := by
  rcases hfits.access_effect haccess with rfl | ⟨hfree, -⟩ | ⟨hown, -⟩
  · exact hheld
  · cases hfree.symm.trans hheld
  · obtain ⟨hsame, -⟩ := Prod.mk.inj (Option.some.inj (hheld.symm.trans hown))
    exact absurd hsame hne

/-! ### Every run -/

/-- What holds of every thread. -/
def MutexInvariant (state : MutexState Thread) : Prop :=
  ∀ thread, CallerFits state.rmutex thread (state.callers thread)

omit [DecidableEq Thread] in
/-- A thread that starts a call, or leaves a lock call that failed, does not touch the record. -/
theorem CallerFits.of_same {rmutex : RecursiveMutex Thread} {thread : Thread}
    {caller caller' : MutexCaller} (hfits : CallerFits rmutex thread caller)
    (hholding : caller'.Holding ↔ caller.Holding) (howning : caller'.Owning ↔ caller.Owning)
    (hphase : caller'.PhaseFits rmutex.count.toInt) : CallerFits rmutex thread caller' :=
  ⟨fun level ↦ (hfits.mutex level).trans (and_congr_left' hholding.symm),
    hfits.owner.trans howning.symm, hphase⟩

/-- A step of one thread keeps the invariant if it keeps that thread's part and the others'. -/
theorem MutexInvariant.after {state : MutexState Thread} {thread : Thread}
    {rmutex : RecursiveMutex Thread} {caller : MutexCaller}
    (hown : CallerFits rmutex thread caller)
    (hothers : ∀ other, other ≠ thread → CallerFits rmutex other (state.callers other)) :
    MutexInvariant (state.after thread (rmutex, caller)) := by
  intro other
  by_cases hother : other = thread
  · subst hother
    simpa [MutexState.after] using hown
  · simpa [MutexState.after, hother] using hothers other hother

/-- Every step below the largest depth keeps the invariant. -/
theorem MutexInvariant.next {state successor : MutexState Thread} {label : MutexLabel Thread}
    (hinv : MutexInvariant state) (hallowed : NestsBelow state label)
    (hnext : mutexNext state label = some successor) : MutexInvariant successor := by
  cases label with
  | lock thread =>
    simp only [mutexNext] at hnext
    split_ifs at hnext with hidle
    obtain rfl := Option.some.inj hnext
    have hfits := hinv thread
    have hphase := hfits.phase
    simp only [MutexCaller.PhaseFits, hidle] at hphase
    refine .after (hfits.of_same ?_ ?_ ?_) fun other _ ↦ hinv other
    · simp [MutexCaller.Holding, hidle]
    · simp [MutexCaller.Owning, hidle]
    · exact ⟨hphase.1, hallowed, hphase.2.2⟩
  | unlock thread =>
    simp only [mutexNext] at hnext
    split_ifs at hnext with hidle
    obtain rfl := Option.some.inj hnext
    have hfits := hinv thread
    have hphase := hfits.phase
    simp only [MutexCaller.PhaseFits, hidle] at hphase
    refine .after (hfits.of_same ?_ ?_ ?_) fun other _ ↦ hinv other
    · simp [MutexCaller.Holding, hidle]
    · simp [MutexCaller.Owning, hidle]
    · exact hphase
  | access thread =>
    obtain ⟨⟨rmutex, caller⟩, haccess, rfl⟩ := Option.map_eq_some_iff.mp hnext
    refine .after ((hinv thread).access haccess) fun other hother ↦ ?_
    exact (hinv thread).access_other hother (hinv other) haccess
  | fail thread ret =>
    simp only [mutexNext] at hnext
    split_ifs at hnext with hacquires
    obtain rfl := Option.some.inj hnext
    have hfits := hinv thread
    have hdepth := hfits.phase
    simp only [MutexCaller.PhaseFits, hacquires.1] at hdepth
    refine .after (hfits.of_same ?_ ?_ ?_) fun other _ ↦ hinv other
    · simp [MutexCaller.Holding, hacquires.1]
    · simp [MutexCaller.Owning, hacquires.1, hdepth]
    · simp [MutexCaller.PhaseFits, hdepth]

/-- The invariant holds in every run that nests below the largest depth. -/
theorem mutexInvariant_reachable {state : MutexState Thread}
    (hreach : (mutexSystem Thread).ReachableUnder NestsBelow state) : MutexInvariant state := by
  refine hreach.invariant ?_ fun _ _ _ hinv hallowed hnext ↦ hinv.next hallowed hnext
  rintro start ⟨hinit, hcallers⟩ thread
  obtain hrmutex := Except.ok.inj hinit
  rw [hcallers, ← hrmutex]
  constructor <;>
    simp [MutexCaller.fresh, MutexCaller.Holding, MutexCaller.Owning, MutexCaller.PhaseFits,
      MutexCaller.depth]

/-- The steps that release the underlying mutex are those that take a depth to zero. -/
theorem mutexNext_release {state successor : MutexState Thread} {label : MutexLabel Thread}
    (hinv : MutexInvariant state) (hnext : mutexNext state label = some successor)
    (thread : Thread) :
    ((∃ level, state.rmutex.mutex = some (thread, level)) ∧ successor.rmutex.mutex = none) ↔
      (0 < (state.callers thread).depth ∧ (successor.callers thread).depth = 0) := by
  have hsame : ∀ (mover : Thread) (caller : MutexCaller),
      caller.depth = (state.callers mover).depth →
      successor = state.after mover (state.rmutex, caller) →
      (((∃ level, state.rmutex.mutex = some (thread, level)) ∧ successor.rmutex.mutex = none) ↔
        (0 < (state.callers thread).depth ∧ (successor.callers thread).depth = 0)) := by
    rintro mover caller hdepth rfl
    have hunchanged : ((state.after mover (state.rmutex, caller)).callers thread).depth =
        (state.callers thread).depth := by
      by_cases hmover : thread = mover
      · subst hmover
        simpa [MutexState.after] using hdepth
      · simp [MutexState.after, hmover]
    rw [hunchanged]
    constructor
    · rintro ⟨⟨level, hheld⟩, hfree⟩
      cases hfree.symm.trans hheld
    · rintro ⟨hpositive, hzero⟩
      omega
  cases label with
  | lock mover =>
    simp only [mutexNext] at hnext
    split_ifs at hnext
    exact hsame mover _ (MutexCaller.depth_goto _ _) (Option.some.inj hnext).symm
  | unlock mover =>
    simp only [mutexNext] at hnext
    split_ifs at hnext
    exact hsame mover _ (MutexCaller.depth_goto _ _) (Option.some.inj hnext).symm
  | fail mover ret =>
    simp only [mutexNext] at hnext
    split_ifs at hnext
    exact hsame mover _ (MutexCaller.depth_refused _ _) (Option.some.inj hnext).symm
  | access mover =>
    obtain ⟨⟨rmutex, caller⟩, haccess, rfl⟩ := Option.map_eq_some_iff.mp hnext
    by_cases hmover : thread = mover
    · subst hmover
      simpa [MutexState.after] using (hinv thread).access_release haccess
    · simp only [MutexState.after, ne_eq, hmover, not_false_eq_true, Function.update_of_ne]
      constructor
      · rintro ⟨⟨level, hheld⟩, hfree⟩
        cases hfree.symm.trans ((hinv mover).access_keeps hmover haccess hheld)
      · rintro ⟨hpositive, hzero⟩
        omega

/-- What a recursive mutex promises in a state: its owner, and every thread at positive depth, holds
the underlying mutex; at most one thread is at positive depth, and outside both functions its depth
is the count; the underlying mutex is released by exactly the steps that take a depth to zero; and
an unlock by a thread that is not at positive depth returns `-EPERM` and leaves everything else. -/
structure RecursiveMutexSound (state : MutexState Thread) : Prop where
  owner_holds : ∀ thread, state.rmutex.owner = some thread →
    ∃ level, state.rmutex.mutex = some (thread, level)
  deep_holds : ∀ thread, 0 < (state.callers thread).depth →
    ∃ level, state.rmutex.mutex = some (thread, level)
  deep_unique : ∀ thread other, 0 < (state.callers thread).depth →
    0 < (state.callers other).depth → other = thread
  deep_count : ∀ thread, 0 < (state.callers thread).depth →
    (state.callers thread).phase = .outside →
    state.rmutex.count.toInt = (state.callers thread).depth
  released_iff : ∀ label successor, mutexNext state label = some successor → ∀ thread,
    ((∃ level, state.rmutex.mutex = some (thread, level)) ∧ successor.rmutex.mutex = none) ↔
      (0 < (state.callers thread).depth ∧ (successor.callers thread).depth = 0)
  others_refused : ∀ thread, ¬ 0 < (state.callers thread).depth →
    (state.callers thread).phase = .unlockReadsOwner →
    mutexNext state (.access thread) =
      some (state.after thread (state.rmutex, (state.callers thread).refused (-EPERM)))

/-- The recursive mutex is sound in every state that any number of threads reach, in every
interleaving of their accesses. -/
theorem recursive_mutex_sound {state : MutexState Thread}
    (hreach : (mutexSystem Thread).ReachableUnder NestsBelow state) :
    RecursiveMutexSound state := by
  have hinv := mutexInvariant_reachable hreach
  have hholds : ∀ thread, (state.callers thread).Holding →
      state.rmutex.mutex = some (thread, 1) :=
    fun thread hholding ↦ ((hinv thread).mutex 1).mpr ⟨hholding, rfl⟩
  constructor
  case owner_holds =>
    intro thread howner
    exact ⟨1, hholds thread ((hinv thread).owner.mp howner).holding⟩
  case deep_holds =>
    intro thread hdepth
    exact ⟨1, hholds thread (.inl hdepth)⟩
  case deep_unique =>
    intro thread other hdepth hother
    have hsame := (hholds other (.inl hother)).symm.trans (hholds thread (.inl hdepth))
    exact (Prod.mk.inj (Option.some.inj hsame)).1
  case deep_count =>
    intro thread hdepth houtside
    have hphase := (hinv thread).phase
    simp only [MutexCaller.PhaseFits, houtside] at hphase
    exact hphase.2.2 hdepth
  case released_iff =>
    intro label successor hnext thread
    exact mutexNext_release hinv hnext thread
  case others_refused =>
    intro thread hdepth hpoint
    have hnotOwner : state.rmutex.owner ≠ some thread := by
      intro howner
      rcases (hinv thread).owner.mp howner with ⟨hdeep, -⟩ | hwrites
      · exact hdepth hdeep
      · cases hpoint.symm.trans hwrites
    simp [mutexNext, recursiveMutexAccess, hpoint, hnotOwner]

/-- One thread locks twice and unlocks once, and the other one waits for the mutex. -/
theorem recursive_mutex_sound_nested :
    ∃ state, (mutexSystem Bool).ReachableUnder NestsBelow state ∧
      (state.callers true).depth = 1 ∧ (state.callers false).phase = .lockAcquires ∧
      RecursiveMutexSound state := by
  obtain ⟨final, hrun, hdepth, hphase⟩ : ∃ final,
      (mutexSystem Bool).runUnder NestsBelow
        { rmutex := { mutex := none, owner := none, count := 0 }, callers := fun _ ↦ .fresh }
        [.lock true, .access true, .lock false, .access true, .access false, .access true,
          .access true, .lock true, .access true, .access true, .access true, .unlock true,
          .access true, .access true, .access true, .access true] = some final ∧
        (final.callers true).depth = 1 ∧ (final.callers false).phase = .lockAcquires :=
    ⟨_, rfl, rfl, rfl⟩
  have hreach : (mutexSystem Bool).ReachableUnder NestsBelow final :=
    .runUnder _ (.initial ⟨rfl, rfl⟩) hrun
  exact ⟨final, hreach, hdepth, hphase, recursive_mutex_sound hreach⟩

end Bme680.Mutex
