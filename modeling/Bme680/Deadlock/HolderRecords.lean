import Bme680.Concurrency.TransitionSystem
import Bme680.Deadlock.DeadlockDetector
import Mathlib.Tactic.Common

/-!
# Reports and records of the deadlock detector

A thread that is granted a lock call takes itself to be the recorded owner until its unlock call.
`detectedSystem` is any number of threads calling `deadlock_detector_lock` and
`deadlock_detector_unlock` in any interleaving, each call one step, together with the note which
numbers each thread was granted and has not given back. `holder_records_exact` says when the table
is true to that note: as long as no lock call is granted for a number that another thread has. The
first such call rewrites the other thread's entry, and its unlock call is then refused.

The report of a potential deadlock names the mutex the calling thread wants, but the two loops look
for an inversion anywhere in the table. `report_iff_requested` says for which tables the report is
about the requested mutex.
-/

set_option autoImplicit false
set_option relaxedAutoImplicit false

namespace Bme680.Deadlock

open Concurrency

/-! ### The table after one call -/

section Calls

variable {Thread : Type*} {m : ℕ}

/-- The entry of a mutex is the one recorded last. -/
theorem DeadlockDetector.locks_record_self (dd : DeadlockDetector Thread m) (mutex : Fin m)
    (info : LockInfo Thread) : (dd.record mutex info).locks mutex = info :=
  Function.update_self _ _ _

/-- Recording leaves the entries of other mutexes. -/
theorem DeadlockDetector.locks_record_of_ne (dd : DeadlockDetector Thread m)
    {mutex other : Fin m} (hother : other ≠ mutex) (info : LockInfo Thread) :
    (dd.record mutex info).locks other = dd.locks other :=
  Function.update_of_ne hother _ _

variable [DecidableEq Thread]

/-- A lock call for a number that is not one of a mutex, or without the detector's mutex, or with a
potential deadlock in the table, is refused and leaves the table; any other one is granted and
rewrites one entry. -/
theorem deadlockDetectorLock_cases (dd : DeadlockDetector Thread m) (current : Thread)
    (mutexId : ℤ) (obtained : Bool) :
    (∃ code, code ≠ 0 ∧ deadlockDetectorLock dd current mutexId obtained = (dd, code) ∧
        ((mutexIndex mutexId : Option (Fin m)) = none ∨ obtained = false ∨
          dd.PotentialDeadlock current)) ∨
      ∃ mutex, mutexIndex mutexId = some mutex ∧ obtained = true ∧
        ¬ dd.PotentialDeadlock current ∧
        deadlockDetectorLock dd current mutexId obtained =
          (dd.record mutex { owner := some current, locked := true }, 0) := by
  unfold deadlockDetectorLock
  cases hindex : (mutexIndex mutexId : Option (Fin m)) with
  | none => exact .inl ⟨-EINVAL, by decide, rfl, .inl rfl⟩
  | some mutex =>
    dsimp only
    split_ifs with hobtained hdeadlock
    · exact .inl ⟨-EDEADLK, by decide, rfl, .inr (.inr hdeadlock)⟩
    · exact .inr ⟨mutex, rfl, hobtained, hdeadlock, rfl⟩
    · exact .inl ⟨-ETIMEDOUT, by decide, rfl, .inr (.inl (Bool.eq_false_iff.mpr hobtained))⟩

/-- An unlock call is refused and leaves the table, or clears an entry of the calling thread. -/
theorem deadlockDetectorUnlock_cases (dd : DeadlockDetector Thread m) (current : Thread)
    (mutexId : ℤ) :
    (∃ code, code ≠ 0 ∧ deadlockDetectorUnlock dd current mutexId = (dd, code) ∧
        ∀ mutex, mutexIndex mutexId = some mutex → ¬ dd.LockedBy current mutex) ∨
      ∃ mutex, mutexIndex mutexId = some mutex ∧ dd.LockedBy current mutex ∧
        deadlockDetectorUnlock dd current mutexId =
          (dd.record mutex { owner := none, locked := false }, 0) := by
  unfold deadlockDetectorUnlock
  cases hindex : (mutexIndex mutexId : Option (Fin m)) with
  | none => exact .inl ⟨-EINVAL, by decide, rfl, nofun⟩
  | some mutex =>
    dsimp only
    split_ifs with hrefused
    · refine .inl ⟨-EPERM, by decide, rfl, ?_⟩
      rintro other hother ⟨hlocked, howner⟩
      obtain rfl := Option.some.inj hother
      rcases hrefused with hunlocked | hforeign
      · exact Bool.false_ne_true (hunlocked.symm.trans hlocked)
      · exact hforeign howner
    · rw [not_or, Bool.not_eq_false, not_not] at hrefused
      exact .inr ⟨mutex, rfl, hrefused, rfl⟩

end Calls

/-! ### Reports -/

section Reports

variable {Thread : Type*} {m : ℕ}

/-- The table shows a mutex locked by another thread, and one of a greater number locked by the
calling one: the calling thread would wait for the mutex against the order of the numbers. -/
def DeadlockDetector.Inverted (dd : DeadlockDetector Thread m) (current : Thread)
    (mutex : Fin m) : Prop :=
  dd.LockedByOther current mutex ∧ ∃ j, dd.LockedBy current j ∧ j > mutex

/-- No mutex locked by another thread has a smaller number than one locked by the calling one. -/
def DeadlockDetector.OthersAbove (dd : DeadlockDetector Thread m) (current : Thread) : Prop :=
  ∀ i j, dd.LockedByOther current i → dd.LockedBy current j → j ≤ i

/-- The table shows no inversion exactly when what others have locked lies above what the calling
thread has. -/
theorem DeadlockDetector.not_potentialDeadlock_iff {dd : DeadlockDetector Thread m}
    {current : Thread} : ¬ dd.PotentialDeadlock current ↔ dd.OthersAbove current := by
  constructor
  · intro hnone i j hother hown
    by_contra hbelow
    exact hnone ⟨i, hother, j, hown, not_le.mp hbelow⟩
  · rintro habove ⟨i, hother, j, hown, hbelow⟩
    exact absurd (habove i j hother hown) (not_le.mpr hbelow)

variable [DecidableEq Thread]

/-- A call that obtains the detector's mutex reports a deadlock exactly when the table shows some
inversion. -/
theorem deadlockDetectorLock_eq_edeadlk {dd : DeadlockDetector Thread m} {current : Thread}
    {mutex : Fin m} :
    (deadlockDetectorLock dd current (mutex : ℕ) true).2 = -EDEADLK ↔
      dd.PotentialDeadlock current := by
  by_cases hdeadlock : dd.PotentialDeadlock current
  · simp [deadlockDetectorLock, hdeadlock]
  · simp [deadlockDetectorLock, hdeadlock, EDEADLK]

/-- A lock call that is refused leaves the table, and it reports a deadlock exactly when the
requested mutex is locked by another thread below one the calling thread has locked: this holds
exactly of the tables in which the requested mutex is so locked, or none is. -/
theorem report_iff_requested (dd : DeadlockDetector Thread m) (current : Thread)
    (mutex : Fin m) :
    (((deadlockDetectorLock dd current (mutex : ℕ) true).2 = -EDEADLK ↔
        dd.Inverted current mutex) ∧
      ((deadlockDetectorLock dd current (mutex : ℕ) true).2 ≠ 0 →
        (deadlockDetectorLock dd current (mutex : ℕ) true).1 = dd)) ↔
      dd.Inverted current mutex ∨ dd.OthersAbove current := by
  have hunchanged : (deadlockDetectorLock dd current (mutex : ℕ) true).2 ≠ 0 →
      (deadlockDetectorLock dd current (mutex : ℕ) true).1 = dd := by
    intro hcode
    rcases deadlockDetectorLock_cases dd current (mutex : ℕ) true with
      ⟨code, -, hrefused, -⟩ | ⟨other, -, -, -, hgranted⟩
    · rw [hrefused]
    · rw [hgranted] at hcode
      exact absurd rfl hcode
  have hreported : dd.Inverted current mutex → dd.PotentialDeadlock current :=
    fun hinverted ↦ ⟨mutex, hinverted⟩
  rw [deadlockDetectorLock_eq_edeadlk, and_iff_left hunchanged,
    ← DeadlockDetector.not_potentialDeadlock_iff]
  tauto

/-- One thread has mutex 0, another one mutex 1, and mutex 2 is free. -/
def crossedTable : DeadlockDetector Bool 3 where
  locks
    | 0 => { owner := some true, locked := true }
    | 1 => { owner := some false, locked := true }
    | 2 => { owner := none, locked := false }

/-- A thread is refused a free mutex because of another one that it has not asked for. -/
theorem free_mutex_refused :
    ¬ ∀ (dd : DeadlockDetector Bool 3) (current : Bool) (mutex : Fin 3),
      ((deadlockDetectorLock dd current (mutex : ℕ) true).2 = -EDEADLK ↔
        dd.Inverted current mutex) ∧
      ((deadlockDetectorLock dd current (mutex : ℕ) true).2 ≠ 0 →
        (deadlockDetectorLock dd current (mutex : ℕ) true).1 = dd) := by
  intro hall
  obtain ⟨⟨hlocked, -⟩, -⟩ := (hall crossedTable false 2).1.mp (by decide)
  exact Bool.false_ne_true hlocked

end Reports

/-! ### Calls in any interleaving -/

/-- The table of the detector, and which numbers each thread was granted and has not called unlock
for since. -/
structure DetectedState (Thread : Type*) (m : ℕ) where
  dd : DeadlockDetector Thread m
  granted : Thread → Fin m → Bool

/-- The calls of the detector. -/
inductive DetectedLabel (Thread : Type*)
  | lock (thread : Thread) (mutexId : ℤ) (obtained : Bool)
  | unlock (thread : Thread) (mutexId : ℤ)

section System

variable {Thread : Type*} [DecidableEq Thread] {m : ℕ}

namespace DetectedState

/-- The note with one entry of a thread set. -/
def note (state : DetectedState Thread m) (thread : Thread) (mutex : Fin m) (has : Bool) :
    Thread → Fin m → Bool :=
  Function.update state.granted thread (Function.update (state.granted thread) mutex has)

variable {state : DetectedState Thread m} {thread other : Thread} {mutex index : Fin m}

theorem note_self (has : Bool) : state.note thread mutex has thread mutex = has := by
  simp [note]

theorem note_of_ne_thread (hother : other ≠ thread) (has : Bool) :
    state.note thread mutex has other index = state.granted other index := by
  simp [note, hother]

theorem note_of_ne_mutex (hindex : index ≠ mutex) (has : Bool) :
    state.note thread mutex has other index = state.granted other index := by
  by_cases hother : other = thread
  · simp [note, hother, hindex]
  · exact note_of_ne_thread hother has

end DetectedState

/-- The state after a call. A thread does not ask for a number it has. -/
def detectedNext (state : DetectedState Thread m) :
    DetectedLabel Thread → Option (DetectedState Thread m)
  | .lock thread mutexId obtained =>
    let result := deadlockDetectorLock state.dd thread mutexId obtained
    match mutexIndex mutexId with
    | none => some { state with dd := result.1 }
    | some mutex =>
      if state.granted thread mutex then none
      else if result.2 = 0 then
        some { dd := result.1, granted := state.note thread mutex true }
      else some { state with dd := result.1 }
  | .unlock thread mutexId =>
    let result := deadlockDetectorUnlock state.dd thread mutexId
    match mutexIndex mutexId with
    | none => some { state with dd := result.1 }
    | some mutex => some { dd := result.1, granted := state.note thread mutex false }

/-- Threads that share an initialized detector and have nothing of it at first. -/
def detectedSystem (Thread : Type*) [DecidableEq Thread] (m : ℕ) :
    TransitionSystem (DetectedState Thread m) (DetectedLabel Thread) where
  initial := fun state ↦
    deadlockDetectorInit Thread m true true = .ok state.dd ∧
      ∀ thread mutex, state.granted thread mutex = false
  next := detectedNext

/-- What a thread was granted and has not given back is recorded as locked by it, and its unlock
call returns zero. -/
structure RecordsFaithful (state : DetectedState Thread m) : Prop where
  recorded : ∀ thread mutex, state.granted thread mutex = true →
    state.dd.locks mutex = { owner := some thread, locked := true }
  unlocks : ∀ (thread : Thread) (mutex : Fin m), state.granted thread mutex = true →
    (deadlockDetectorUnlock state.dd thread (mutex : ℕ)).2 = 0

/-- No lock call is granted for a number that another thread has. -/
def GrantsFree (state : DetectedState Thread m) : DetectedLabel Thread → Prop
  | .lock thread mutexId obtained => obtained = true → ¬ state.dd.PotentialDeadlock thread →
    ∀ mutex, mutexIndex mutexId = some mutex →
      ∀ other, other ≠ thread → state.granted other mutex = false
  | .unlock _ _ => True

/-- Where the owners are recorded, their unlock calls return zero. -/
theorem RecordsFaithful.of_recorded {state : DetectedState Thread m}
    (hrecorded : ∀ thread mutex, state.granted thread mutex = true →
      state.dd.locks mutex = { owner := some thread, locked := true }) :
    RecordsFaithful state := by
  refine ⟨hrecorded, fun thread mutex hgranted ↦ ?_⟩
  have hentry := hrecorded thread mutex hgranted
  simp [deadlockDetectorUnlock, hentry]

/-- From a faithful table, a granted lock call leaves a faithful one exactly when no other thread
has its number. -/
theorem RecordsFaithful.grant_iff {state : DetectedState Thread m}
    (hfaithful : RecordsFaithful state) (thread : Thread) (mutex : Fin m) :
    RecordsFaithful
        { dd := state.dd.record mutex { owner := some thread, locked := true }
          granted := state.note thread mutex true } ↔
      ∀ other, other ≠ thread → state.granted other mutex = false := by
  constructor
  · intro hafter other hother
    by_contra hgranted
    have hentry := hafter.recorded other mutex
      ((DetectedState.note_of_ne_thread hother true).trans (Bool.not_eq_false _ ▸ hgranted))
    rw [DeadlockDetector.locks_record_self] at hentry
    exact hother (Option.some.inj (congrArg LockInfo.owner hentry)).symm
  · intro hfree
    refine .of_recorded fun owner index hgranted ↦ ?_
    dsimp only at hgranted
    by_cases hindex : index = mutex
    · subst hindex
      have howner : owner = thread := by
        by_contra hother
        rw [DetectedState.note_of_ne_thread hother, hfree owner hother] at hgranted
        exact Bool.false_ne_true hgranted
      rw [howner]
      exact DeadlockDetector.locks_record_self _ _ _
    · rw [DetectedState.note_of_ne_mutex hindex] at hgranted
      exact (DeadlockDetector.locks_record_of_ne _ hindex _).trans
        (hfaithful.recorded owner index hgranted)

/-- An unlock call leaves a faithful table. -/
theorem RecordsFaithful.unlock {state : DetectedState Thread m} (hfaithful : RecordsFaithful state)
    (thread : Thread) (mutex : Fin m) :
    RecordsFaithful
      { dd := (deadlockDetectorUnlock state.dd thread (mutex : ℕ)).1
        granted := state.note thread mutex false } := by
  have hkept : ∀ owner index, state.note thread mutex false owner index = true →
      state.granted owner index = true ∧ (owner ≠ thread ∨ index ≠ mutex) := by
    intro owner index hgranted
    by_cases howner : owner = thread
    · by_cases hindex : index = mutex
      · rw [howner, hindex, DetectedState.note_self] at hgranted
        exact absurd hgranted Bool.false_ne_true
      · rw [DetectedState.note_of_ne_mutex hindex] at hgranted
        exact ⟨hgranted, .inr hindex⟩
    · rw [DetectedState.note_of_ne_thread howner] at hgranted
      exact ⟨hgranted, .inl howner⟩
  refine .of_recorded fun owner index hgranted ↦ ?_
  obtain ⟨hbefore, hother⟩ := hkept owner index hgranted
  have hentry := hfaithful.recorded owner index hbefore
  rcases deadlockDetectorUnlock_cases state.dd thread (mutex : ℕ) with
    ⟨code, -, hrefused, -⟩ | ⟨cleared, hcleared, hown, hunlocked⟩
  · rw [hrefused]
    exact hentry
  · rw [hunlocked]
    obtain rfl : mutex = cleared := Option.some.inj ((mutexIndex_natCast mutex).symm.trans hcleared)
    have hindex : index ≠ mutex := by
      rintro rfl
      -- the entry cleared is one of the calling thread, and this one is another thread's
      refine hother.elim (fun hne ↦ hne ?_) fun hne ↦ hne rfl
      exact Option.some.inj ((congrArg LockInfo.owner hentry).symm.trans hown.2)
    exact (DeadlockDetector.locks_record_of_ne _ hindex _).trans hentry

/-- A lock call is refused and changes nothing, or is granted and recorded. -/
theorem detectedNext_lock {state successor : DetectedState Thread m} {thread : Thread} {mutexId : ℤ}
    {obtained : Bool}
    (hnext : detectedNext state (.lock thread mutexId obtained) = some successor) :
    (successor = state ∧ ((mutexIndex mutexId : Option (Fin m)) = none ∨ obtained = false ∨
        state.dd.PotentialDeadlock thread)) ∨
      ∃ mutex, mutexIndex mutexId = some mutex ∧ obtained = true ∧
        ¬ state.dd.PotentialDeadlock thread ∧
        successor =
          { dd := state.dd.record mutex { owner := some thread, locked := true }
            granted := state.note thread mutex true } := by
  rcases deadlockDetectorLock_cases state.dd thread mutexId obtained with
    ⟨code, hcode, hlock, hrefused⟩ | ⟨mutex, hindex, hobtained, hnone, hlock⟩
  · refine .inl ⟨?_, hrefused⟩
    simp only [detectedNext, hlock, hcode, if_false] at hnext
    split at hnext
    · exact (Option.some.inj hnext).symm
    · split_ifs at hnext
      exact (Option.some.inj hnext).symm
  · refine .inr ⟨mutex, hindex, hobtained, hnone, ?_⟩
    simp only [detectedNext, hlock, hindex, if_true] at hnext
    split_ifs at hnext
    exact (Option.some.inj hnext).symm

/-- From a faithful table, a call leaves a faithful one exactly when it is not a lock call that is
granted for a number that another thread has. -/
theorem RecordsFaithful.next_iff {state successor : DetectedState Thread m}
    {label : DetectedLabel Thread} (hfaithful : RecordsFaithful state)
    (hnext : detectedNext state label = some successor) :
    RecordsFaithful successor ↔ GrantsFree state label := by
  cases label with
  | lock thread mutexId obtained =>
    rcases detectedNext_lock hnext with
      ⟨rfl, hrefused⟩ | ⟨mutex, hindex, hobtained, hnone, rfl⟩
    · refine iff_of_true hfaithful fun hobtained hnone mutex hmutex ↦ ?_
      rcases hrefused with hinvalid | hmissed | hdeadlock
      · exact absurd (hinvalid.symm.trans hmutex) nofun
      · exact absurd (hobtained.symm.trans hmissed) nofun
      · exact absurd hdeadlock hnone
    · rw [hfaithful.grant_iff thread mutex]
      constructor
      · intro hfree _ _ index hsame
        obtain rfl := Option.some.inj (hindex.symm.trans hsame)
        exact hfree
      · intro hgrants
        exact hgrants hobtained hnone mutex hindex
  | unlock thread mutexId =>
    refine iff_of_true ?_ trivial
    simp only [detectedNext] at hnext
    cases hindex : (mutexIndex mutexId : Option (Fin m)) with
    | none =>
      simp only [deadlockDetectorUnlock, hindex, Option.some.injEq] at hnext
      rw [← hnext]
      exact hfaithful
    | some mutex =>
      have hmutex : mutexId = (mutex : ℕ) := eq_of_mutexIndex hindex
      simp only [hindex, Option.some.injEq] at hnext
      rw [← hnext, hmutex]
      exact hfaithful.unlock thread mutex

/-- As long as no lock call is granted for a number that another thread has, every thread is the
recorded owner of what it was granted and can give it back; the first such call ends this. -/
theorem holder_records_exact :
    (detectedSystem Thread m).ExactFor GrantsFree RecordsFaithful := by
  refine .of_step_iff (fun state hstart ↦ ?_) fun state label successor hfaithful hnext ↦
    hfaithful.next_iff hnext
  refine .of_recorded fun thread mutex hgranted ↦ ?_
  rw [hstart.2] at hgranted
  exact absurd hgranted Bool.false_ne_true

end System

/-- Two threads ask for the same number, and are both granted it. The second one is then the
recorded owner, and the first one's unlock call is refused. -/
theorem granted_record_overwritten :
    ¬ ∀ state, (detectedSystem (Fin 2) 1).Reachable state → RecordsFaithful state := by
  intro hall
  obtain ⟨final, hrun, hgranted, hrefused⟩ : ∃ final,
      (detectedSystem (Fin 2) 1).run
        { dd := { locks := fun _ ↦ { owner := none, locked := false } },
          granted := fun _ _ ↦ false }
        [.lock 0 0 true, .lock 1 0 true] = some final ∧ final.granted 0 0 = true ∧
        (deadlockDetectorUnlock final.dd 0 ((0 : Fin 1) : ℕ)).2 = -EPERM :=
    ⟨_, rfl, rfl, rfl⟩
  have hfaithful := hall final
    (TransitionSystem.reachable_of_run ⟨rfl, fun _ _ ↦ rfl⟩ _ hrun)
  have hunlocks := hfaithful.unlocks 0 0 hgranted
  rw [hrefused] at hunlocks
  exact absurd hunlocks (by decide)

end Bme680.Deadlock
