import Bme680.Deadlock.DeadlockDetector
import Bme680.Concurrency.TransitionSystem
import Bme680.Concurrency.WaitForOrder

/-!
# Mutexes guarded by the deadlock detector

Every thread asks the detector before it locks a mutex, goes on to lock it only on the code zero,
and reports a mutex to the detector after unlocking it. The detector refuses a thread that its
table shows owning a mutex of a greater number than one locked by another thread, so that threads
wait for mutexes in the order of their numbers.

The table does not show which thread holds a mutex. A granted request names its thread as the owner
at once, before that thread holds the mutex and while another one may hold it
(`guarded_threads_deadlock`). `InOrder` is the condition on a step under which no thread comes to
wait, holding a mutex, for one of smaller number; runs of such steps reach no cyclic wait,
`guarded_waits_acyclic_of_inOrder`.
-/

set_option autoImplicit false
set_option relaxedAutoImplicit false

namespace Bme680.Deadlock

open Concurrency

/-! ### The threads and their mutexes -/

/-- Where a thread is: running, at the lock of a mutex the detector let it have, or between
unlocking a mutex and reporting it to the detector. -/
inductive GuardedPhase (m : ℕ)
  | running
  | acquiring (mutex : Fin m)
  | unrecording (mutex : Fin m)
  deriving DecidableEq, Repr

/-- The detector, how often each thread has locked each mutex, and where the threads are. -/
structure GuardedState (Thread : Type*) (m : ℕ) where
  dd : DeadlockDetector Thread m
  holds : Thread → Fin m → ℕ
  phases : Thread → GuardedPhase m

/-- The steps of a thread: the detector's lock call, the lock of the mutex, its unlock, and the
detector's unlock call. -/
inductive GuardedLabel (Thread : Type*) (m : ℕ)
  | request (thread : Thread) (mutex : Fin m) (obtained : Bool)
  | acquire (thread : Thread)
  | release (thread : Thread) (mutex : Fin m)
  | unrecord (thread : Thread)

variable {Thread : Type*} [DecidableEq Thread] {m : ℕ}

namespace GuardedState

/-- A mutex is held by a thread other than the given one. -/
def HeldByOther (state : GuardedState Thread m) (thread : Thread) (mutex : Fin m) : Prop :=
  ∃ other, other ≠ thread ∧ 0 < state.holds other mutex

instance [Fintype Thread] (state : GuardedState Thread m) (thread : Thread) (mutex : Fin m) :
    Decidable (state.HeldByOther thread mutex) :=
  inferInstanceAs (Decidable (∃ _, _))

/-- The state with a thread moved to a phase. -/
def moveTo (state : GuardedState Thread m) (thread : Thread) (phase : GuardedPhase m) :
    GuardedState Thread m :=
  { state with phases := Function.update state.phases thread phase }

/-- The state with the number of times a thread has locked a mutex set. -/
def setHolds (state : GuardedState Thread m) (thread : Thread) (mutex : Fin m) (times : ℕ) :
    GuardedState Thread m :=
  { state with
    holds := Function.update state.holds thread
      (Function.update (state.holds thread) mutex times) }

end GuardedState

/-- The state after a step, where the step is possible. A thread that is not granted its request
gives the attempt up, and a mutex can be locked while no other thread holds it. -/
def guardedNext [Fintype Thread] (state : GuardedState Thread m) :
    GuardedLabel Thread m → Option (GuardedState Thread m)
  | .request thread mutex obtained =>
    if state.phases thread = .running then
      let result := deadlockDetectorLock state.dd thread (mutex : ℕ) obtained
      some (GuardedState.moveTo { state with dd := result.1 } thread
        (if result.2 = 0 then .acquiring mutex else .running))
    else none
  | .acquire thread =>
    match state.phases thread with
    | .acquiring mutex =>
      if state.HeldByOther thread mutex then none
      else some ((state.setHolds thread mutex (state.holds thread mutex + 1)).moveTo thread
        .running)
    | _ => none
  | .release thread mutex =>
    if state.phases thread = .running ∧ 0 < state.holds thread mutex then
      some ((state.setHolds thread mutex (state.holds thread mutex - 1)).moveTo thread
        (.unrecording mutex))
    else none
  | .unrecord thread =>
    match state.phases thread with
    | .unrecording mutex =>
      some (GuardedState.moveTo
        { state with dd := (deadlockDetectorUnlock state.dd thread (mutex : ℕ)).1 } thread .running)
    | _ => none

/-- Threads that share an initialized detector and hold no mutex at first. -/
def guardedSystem (Thread : Type*) [DecidableEq Thread] [Fintype Thread] (m : ℕ) :
    TransitionSystem (GuardedState Thread m) (GuardedLabel Thread m) where
  initial := fun state ↦
    deadlockDetectorInit Thread m true true = .ok state.dd ∧
      (∀ thread mutex, state.holds thread mutex = 0) ∧ ∀ thread, state.phases thread = .running
  next := guardedNext

/-! ### Holding and waiting -/

/-- A thread holds a mutex. -/
def Holds (state : GuardedState Thread m) (thread : Thread) (mutex : Fin m) : Prop :=
  0 < state.holds thread mutex

/-- A thread is blocked on a mutex that another thread holds. -/
def BlockedOn (state : GuardedState Thread m) (thread : Thread) (mutex : Fin m) : Prop :=
  state.phases thread = .acquiring mutex ∧ state.HeldByOther thread mutex

/-- What the detector is to enforce, of a step. A request that the table grants is for a mutex that
is free or has the greatest number among those the thread holds, and a thread that gets a mutex
leaves nobody waiting for it that holds a mutex of greater number. -/
def InOrder (state : GuardedState Thread m) : GuardedLabel Thread m → Prop
  | .request thread mutex obtained =>
    obtained = true → ¬ state.dd.PotentialDeadlock thread → state.HeldByOther thread mutex →
      ∀ held, 0 < state.holds thread held → held ≤ mutex
  | .acquire thread =>
    ∀ mutex, state.phases thread = .acquiring mutex →
      ∀ waiter, waiter ≠ thread → state.phases waiter = .acquiring mutex →
        ∀ held, 0 < state.holds waiter held → held ≤ mutex
  | .release _ _ | .unrecord _ => True

instance [Fintype Thread] (state : GuardedState Thread m) :
    DecidablePred (InOrder state)
  | .request _ _ _ => inferInstanceAs (Decidable (_ → _))
  | .acquire _ => inferInstanceAs (Decidable (∀ _, _))
  | .release _ _ | .unrecord _ => inferInstanceAs (Decidable True)

/-! ### The order of the waiting threads -/

/-- No two threads hold a mutex, and a blocked thread waits for a mutex of greater number than all
it holds. -/
structure Ordered (state : GuardedState Thread m) : Prop where
  exclusive : ∀ first second mutex, Holds state first mutex → Holds state second mutex →
    first = second
  ordered : OrderedWaits (fun mutex : Fin m ↦ mutex) (Holds state) (BlockedOn state)

/-- After a mutex is locked once more, a thread holds what it held before and, if it is the thread
that locked it, that mutex. -/
theorem holds_setHolds_succ {state : GuardedState Thread m} {thread other : Thread}
    {mutex held : Fin m} :
    Holds (state.setHolds thread mutex (state.holds thread mutex + 1)) other held ↔
      Holds state other held ∨ other = thread ∧ held = mutex := by
  unfold Holds GuardedState.setHolds
  by_cases hthread : other = thread
  · subst hthread
    simp only [Function.update_self, true_and]
    by_cases hmutex : held = mutex
    · subst hmutex
      simp
    · simp [hmutex]
  · simp [hthread]

/-- After a mutex is unlocked once, a thread holds nothing it did not hold before. -/
theorem holds_of_setHolds_pred {state : GuardedState Thread m} {thread other : Thread}
    {mutex held : Fin m}
    (hholds : Holds (state.setHolds thread mutex (state.holds thread mutex - 1)) other held) :
    Holds state other held := by
  simp only [Holds, GuardedState.setHolds] at hholds
  by_cases hthread : other = thread
  · subst hthread
    simp only [Function.update_self] at hholds
    by_cases hmutex : held = mutex
    · subst hmutex
      rw [Function.update_self] at hholds
      exact hholds.trans_le (Nat.sub_le _ _)
    · rwa [Function.update_of_ne hmutex] at hholds
  · rwa [Function.update_of_ne hthread] at hholds

namespace Ordered

variable {state : GuardedState Thread m} {thread : Thread} {mutex : Fin m}

omit [DecidableEq Thread] in
/-- The invariant does not depend on the detector's table. -/
theorem setDetector (hordered : Ordered state) (dd : DeadlockDetector Thread m) :
    Ordered { state with dd := dd } :=
  ⟨hordered.exclusive, hordered.ordered⟩

/-- A thread that holds no mutex of greater number than the one it comes to wait for keeps the
invariant. -/
theorem moveTo (hordered : Ordered state) {phase : GuardedPhase m}
    (hphase : ∀ wanted, phase = .acquiring wanted → state.HeldByOther thread wanted →
      ∀ held, Holds state thread held → held ≤ wanted) :
    Ordered (state.moveTo thread phase) := by
  refine ⟨hordered.exclusive, ?_⟩
  rintro waiter held wanted hholds ⟨hacquiring, hother⟩
  by_cases hwaiter : waiter = thread
  · subst hwaiter
    have hsame : phase = .acquiring wanted := by
      simpa [GuardedState.moveTo] using hacquiring
    have hle : held ≤ wanted := hphase wanted hsame hother held hholds
    refine lt_of_le_of_ne hle ?_
    rintro rfl
    obtain ⟨other, hne, hotherHolds⟩ := hother
    exact hne (hordered.exclusive _ _ _ hotherHolds hholds)
  · have hbefore : state.phases waiter = .acquiring wanted := by
      simpa [GuardedState.moveTo, hwaiter] using hacquiring
    exact hordered.ordered waiter held wanted hholds ⟨hbefore, hother⟩

/-- Unlocking a mutex keeps the invariant. -/
theorem unlock (hordered : Ordered state) :
    Ordered (state.setHolds thread mutex (state.holds thread mutex - 1)) := by
  refine ⟨fun first second held hfirst hsecond ↦ hordered.exclusive _ _ _
    (holds_of_setHolds_pred hfirst) (holds_of_setHolds_pred hsecond), ?_⟩
  rintro waiter held wanted hholds ⟨hacquiring, other, hne, hother⟩
  exact hordered.ordered waiter held wanted (holds_of_setHolds_pred hholds)
    ⟨hacquiring, other, hne, holds_of_setHolds_pred hother⟩

/-- Locking a mutex no other thread holds keeps the invariant, if nobody that holds a mutex of
greater number waits for it. -/
theorem acquire (hordered : Ordered state) (hfree : ¬ state.HeldByOther thread mutex)
    (hwaiters : ∀ waiter, waiter ≠ thread → state.phases waiter = .acquiring mutex →
      ∀ held, Holds state waiter held → held ≤ mutex) :
    Ordered ((state.setHolds thread mutex (state.holds thread mutex + 1)).moveTo thread
      .running) := by
  refine ⟨fun first second held hfirst hsecond ↦ ?_, ?_⟩
  · rcases holds_setHolds_succ.mp hfirst with hfirstHeld | ⟨rfl, rfl⟩
    · rcases holds_setHolds_succ.mp hsecond with hsecondHeld | ⟨rfl, rfl⟩
      · exact hordered.exclusive _ _ _ hfirstHeld hsecondHeld
      · exact by_contra fun hne ↦ hfree ⟨first, hne, hfirstHeld⟩
    · rcases holds_setHolds_succ.mp hsecond with hsecondHeld | ⟨rfl, -⟩
      · exact by_contra fun hne ↦ hfree ⟨second, Ne.symm hne, hsecondHeld⟩
      · rfl
  · rintro waiter held wanted hholds ⟨hacquiring, other, hne, hother⟩
    have hwaiter : waiter ≠ thread := by
      rintro rfl
      simp [GuardedState.moveTo] at hacquiring
    have hbefore : state.phases waiter = .acquiring wanted := by
      simpa [GuardedState.moveTo, GuardedState.setHolds, hwaiter] using hacquiring
    have hheld : Holds state waiter held :=
      (holds_setHolds_succ.mp hholds).resolve_right fun hlocked ↦ hwaiter hlocked.1
    rcases holds_setHolds_succ.mp hother with hother | ⟨-, rfl⟩
    · exact hordered.ordered waiter held wanted hheld ⟨hbefore, other, hne, hother⟩
    · -- the thread waits, from this step on, for the mutex that was just locked
      refine lt_of_le_of_ne (hwaiters waiter hwaiter hbefore held hheld) ?_
      rintro rfl
      exact hfree ⟨waiter, hwaiter, hheld⟩

/-- Every step in order keeps the invariant. -/
theorem step [Fintype Thread] (hordered : Ordered state) {label : GuardedLabel Thread m}
    {successor : GuardedState Thread m} (hinOrder : InOrder state label)
    (hnext : guardedNext state label = some successor) : Ordered successor := by
  cases label with
  | request thread mutex obtained =>
    simp only [guardedNext, Option.ite_none_right_eq_some, Option.some.injEq] at hnext
    obtain ⟨-, rfl⟩ := hnext
    refine (hordered.setDetector _).moveTo fun wanted hwanted hother ↦ ?_
    split_ifs at hwanted with hgranted
    · obtain ⟨hobtained, hnoDeadlock⟩ := deadlockDetectorLock_eq_zero.mp hgranted
      obtain rfl := GuardedPhase.acquiring.inj hwanted
      exact hinOrder hobtained hnoDeadlock hother
  | acquire thread =>
    unfold guardedNext at hnext
    cases hphase : state.phases thread with
    | acquiring mutex =>
      simp only [hphase, Option.ite_none_left_eq_some, Option.some.injEq] at hnext
      obtain ⟨hfree, rfl⟩ := hnext
      exact hordered.acquire hfree (hinOrder mutex hphase)
    | running => simp [hphase] at hnext
    | unrecording mutex => simp [hphase] at hnext
  | release thread mutex =>
    simp only [guardedNext, Option.ite_none_right_eq_some, Option.some.injEq] at hnext
    obtain ⟨-, rfl⟩ := hnext
    exact hordered.unlock.moveTo nofun
  | unrecord thread =>
    unfold guardedNext at hnext
    cases hphase : state.phases thread with
    | unrecording mutex =>
      simp only [hphase, Option.some.injEq] at hnext
      subst hnext
      exact (hordered.setDetector _).moveTo nofun
    | running => simp [hphase] at hnext
    | acquiring mutex => simp [hphase] at hnext

end Ordered

/-- Every state that steps in order reach satisfies the invariant. -/
theorem ordered_of_inOrder [Fintype Thread] {state : GuardedState Thread m}
    (hreach : (guardedSystem Thread m).ReachableUnder InOrder state) : Ordered state := by
  refine hreach.invariant (fun start hstart ↦ ?_) fun _ _ _ hordered hinOrder hnext ↦
    hordered.step hinOrder hnext
  obtain ⟨-, hnothing, hrunning⟩ := hstart
  have hnone (thread : Thread) (mutex : Fin m) : ¬ Holds start thread mutex := by
    rw [Holds, hnothing thread mutex]
    exact lt_irrefl 0
  exact ⟨fun first _ mutex hfirst ↦ absurd hfirst (hnone first mutex),
    fun thread held _ hheld ↦ absurd hheld (hnone thread held)⟩

/-! ### Cyclic waits -/

/-- In every state that steps in order reach, no thread waits, through others, for itself. -/
theorem guarded_waits_acyclic_of_inOrder [Fintype Thread] {state : GuardedState Thread m}
    (hreach : (guardedSystem Thread m).ReachableUnder InOrder state) (thread : Thread) :
    ¬ Relation.TransGen (WaitsFor (Holds state) (BlockedOn state)) thread thread :=
  (ordered_of_inOrder hreach).ordered.acyclic thread

/-- Two threads that share two mutexes, holding none. -/
def twoThreads : GuardedState (Fin 2) 2 where
  dd := { locks := fun _ ↦ { owner := none, locked := false } }
  holds := fun _ _ ↦ 0
  phases := fun _ ↦ .running

/-- One thread holds mutex 0 and waits for mutex 1, which the other one holds. -/
theorem guarded_waits_acyclic_of_inOrder_two :
    ∃ state, (guardedSystem (Fin 2) 2).ReachableUnder InOrder state ∧
      BlockedOn state 0 1 ∧ Holds state 0 0 ∧
      ¬ Relation.TransGen (WaitsFor (Holds state) (BlockedOn state)) 0 0 := by
  obtain ⟨final, hrun, hblocked, hholds⟩ : ∃ final,
      (guardedSystem (Fin 2) 2).runUnder InOrder twoThreads
        [.request 1 1 true, .acquire 1, .request 0 0 true, .acquire 0, .request 0 1 true] =
          some final ∧ BlockedOn final 0 1 ∧ Holds final 0 0 :=
    ⟨_, rfl, ⟨rfl, 1, by decide, Nat.one_pos⟩, Nat.one_pos⟩
  have hreach : (guardedSystem (Fin 2) 2).ReachableUnder InOrder final :=
    .runUnder _ (.initial ⟨rfl, fun _ _ ↦ rfl, fun _ ↦ rfl⟩) hrun
  exact ⟨final, hreach, hblocked, hholds, guarded_waits_acyclic_of_inOrder hreach 0⟩

/-- Each of two threads holds a mutex. The first one asks for the other's, is named as its owner,
and waits; the second one then no longer owns a mutex in the table, asks for the first one's, and
waits too. -/
theorem guarded_threads_deadlock :
    ∃ state, (guardedSystem (Fin 2) 2).Reachable state ∧
      Relation.TransGen (WaitsFor (Holds state) (BlockedOn state)) 0 0 := by
  obtain ⟨final, hrun, hfirst, hsecond⟩ : ∃ final,
      (guardedSystem (Fin 2) 2).run twoThreads
        [.request 0 0 true, .acquire 0, .request 1 1 true, .acquire 1, .request 0 1 true,
          .request 1 0 true] = some final ∧
        WaitsFor (Holds final) (BlockedOn final) 0 1 ∧
        WaitsFor (Holds final) (BlockedOn final) 1 0 :=
    ⟨_, rfl, ⟨1, ⟨rfl, 1, by decide, Nat.one_pos⟩, Nat.one_pos⟩,
      ⟨0, ⟨rfl, 0, by decide, Nat.one_pos⟩, Nat.one_pos⟩⟩
  exact ⟨final, TransitionSystem.reachable_of_run ⟨rfl, fun _ _ ↦ rfl, fun _ ↦ rfl⟩ _ hrun,
    .head hfirst (.single hsecond)⟩

end Bme680.Deadlock
