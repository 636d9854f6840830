import Bme680.Concurrency.TransitionSystem
import Bme680.SectionOutcome
import Mathlib.Logic.Function.Basic

/-!
# Forking behind a mutex

`fork_handler_fork` locks the handler's mutex, forks, waits for the child and unlocks. The child is
a copy of the process with the calling thread alone in it: it logs, unlocks its copy of the mutex,
sleeps, logs and exits. Three things can go wrong, and the code looks at none of them. The logger's
mutex may be held by another thread at the fork, and then the child, in which that thread does not
exist, waits for it for ever. `waitpid` may return early, because a signal handler ran. And a thread
may be cancelled: in `waitpid`, where the cleanup handler cancels the threads of the handler but
does not unlock the mutex; or in the writes of a message, where it has the logger's mutex and
nothing unlocks that, so that the cleanup handler, which logs as well, waits for it for ever.

The system is any number of threads that call `fork_handler_fork`, log on their own account, and
end. The logger is as `logger_init` leaves it, so that the messages of `fork_handler_fork` and of
the child are written to the log file, and these writes succeed; the steps of a child before it
exits are its own and are not told apart. Cancellation acts in `waitpid` and in the writes.

`fork_handler_exact` says that every child that has not been reaped has its caller waiting for it
and can exit, and that no cancelled thread has the handler's mutex or the logger's, exactly as long
as none of the three happens, and that what one of them spoils stays spoiled.
`cancelled_caller_keeps_mutex` says what the third one leaves behind: no call forks again.
-/

set_option autoImplicit false
set_option relaxedAutoImplicit false

namespace Bme680.Forks

open Concurrency

/-! ### The system -/

/-- What a thread logs: that its lock timed out, that it has forked, that its fork failed, that its
child exited, that it cleans up, or a message outside the function. -/
inductive ForkMessage
  | timedOut
  | forked (pid : ℕ)
  | failed (ret : ℤ)
  | exited
  | cleanup
  | other
  deriving DecidableEq, Repr

/-- Where a thread is: outside the function, about to do the named thing, with the code of a `fork`
that failed where it unlocks, logging a message, before the logger's mutex or with it, cancelled
with its cleanup done, or ended outside the function. -/
inductive ForkPhase
  | outside
  | locks
  | forks
  | waits (pid : ℕ)
  | unlocks (failure : Option ℤ)
  | logs (message : ForkMessage) (inside : Bool)
  | cancelled
  | ended
  deriving DecidableEq, Repr

/-- A child: not there, running, with the logger's mutex as the fork found it, exited, or reaped. -/
inductive ChildState
  | absent
  | running (loggerHeld : Bool)
  | exited
  | reaped
  deriving DecidableEq, Repr

/-- The child is there and has not been waited for. -/
def ChildState.Unreaped : ChildState → Prop
  | .running _ | .exited => True
  | .absent | .reaped => False

/-- The holders of the handler's mutex and of the logger's, the threads with the code their last
call returned, and the children, numbered in the order they were made. -/
structure ForkState (Thread : Type*) where
  mutex : Option Thread
  logger : Option Thread
  phases : Thread → ForkPhase
  lastReturn : Thread → ℤ
  forked : ℕ
  children : ℕ → ChildState

/-- The steps of the threads and of the children. An error number other than zero says that `fork`
or `waitpid` fails. -/
inductive ForkLabel (Thread : Type*)
  | call (thread : Thread)
  | timedlock (thread : Thread) (locked : Bool)
  | fork (thread : Thread) (errno : ℕ)
  | waitpid (thread : Thread) (errno : ℕ)
  | cancel (thread : Thread)
  | unlock (thread : Thread)
  | log (thread : Thread)
  | enterLogger (thread : Thread)
  | leaveLogger (thread : Thread)
  | finish (thread : Thread)
  | childExits (pid : ℕ)
  deriving DecidableEq

variable {Thread : Type*} [DecidableEq Thread]

/-- The state after a thread went to a phase. -/
def ForkState.goto (state : ForkState Thread) (thread : Thread) (phase : ForkPhase) :
    ForkState Thread :=
  { state with phases := Function.update state.phases thread phase }

/-- The state after a thread's call returned. -/
def ForkState.returns (state : ForkState Thread) (thread : Thread) (ret : ℤ) : ForkState Thread :=
  { state.goto thread .outside with lastReturn := Function.update state.lastReturn thread ret }

/-- What a thread goes on to after it logged a message. -/
def ForkState.logged (state : ForkState Thread) (thread : Thread) :
    ForkMessage → ForkState Thread
  | .timedOut => state.returns thread (-ETIMEDOUT)
  | .forked pid => state.goto thread (.waits pid)
  | .failed ret => state.returns thread ret
  | .exited => state.returns thread 0
  | .cleanup => state.goto thread .cancelled
  | .other => state.goto thread .outside

/-- Where a thread goes that acts on its cancellation, in `waitpid` or in the writes of a message:
from the part of `fork_handler_fork` with the cleanup handler to the message of that handler. -/
def ForkPhase.whenCancelled : ForkPhase → Option ForkPhase
  | .waits _ | .logs (.forked _) true => some (.logs .cleanup false)
  | .logs .cleanup _ => none
  | .logs _ true => some .ended
  | _ => none

/-- The state after a step, where the step is possible. -/
def forkNext (state : ForkState Thread) : ForkLabel Thread → Option (ForkState Thread)
  | .call thread =>
    if state.phases thread = .outside then some (state.goto thread .locks) else none
  | .timedlock thread locked =>
    if state.phases thread = .locks then
      if locked then
        if state.mutex = none then some { state.goto thread .forks with mutex := some thread }
        else none
      else some (state.goto thread (.logs .timedOut false))
    else none
  | .fork thread errno =>
    if state.phases thread = .forks then
      if errno ≠ 0 then some (state.goto thread (.unlocks (some (-errno))))
      else
        some { state.goto thread (.logs (.forked state.forked) false) with
          forked := state.forked + 1
          children := Function.update state.children state.forked
            (.running state.logger.isSome) }
    else none
  | .waitpid thread errno =>
    match state.phases thread with
    | .waits pid =>
      -- the code does not look at what `waitpid` returns
      if errno ≠ 0 then some (state.goto thread (.unlocks none))
      else if state.children pid = .exited then
        some { state.goto thread (.unlocks none) with
          children := Function.update state.children pid .reaped }
      else none
    | _ => none
  | .cancel thread => (state.phases thread).whenCancelled.map (state.goto thread)
  | .unlock thread =>
    match state.phases thread with
    | .unlocks none => some { state.goto thread (.logs .exited false) with mutex := none }
    | .unlocks (some ret) =>
      some { state.goto thread (.logs (.failed ret) false) with mutex := none }
    | _ => none
  | .log thread =>
    if state.phases thread = .outside then some (state.goto thread (.logs .other false)) else none
  | .enterLogger thread =>
    match state.phases thread with
    | .logs message false =>
      if state.logger = none then
        some { state.goto thread (.logs message true) with logger := some thread }
      else none
    | _ => none
  | .leaveLogger thread =>
    match state.phases thread with
    | .logs message true => some { state.logged thread message with logger := none }
    | _ => none
  | .finish thread =>
    if state.phases thread = .outside then some (state.goto thread .ended) else none
  | .childExits pid =>
    if state.children pid = .running false then
      some { state with children := Function.update state.children pid .exited }
    else none

/-- Any threads, and a handler that `fork_handler_init` set up. -/
def forkSystem (Thread : Type*) [DecidableEq Thread] :
    TransitionSystem (ForkState Thread) (ForkLabel Thread) where
  initial state := state.mutex = none ∧ state.logger = none ∧
    (∀ thread, state.phases thread = .outside) ∧ state.forked = 0 ∧
    ∀ pid, state.children pid = .absent
  next := forkNext

/-! ### What is promised and when -/

/-- The thread is between the fork of a child and the return of `waitpid` for it. -/
def ForkPhase.Awaits (pid : ℕ) : ForkPhase → Prop
  | .waits other => other = pid
  | .logs (.forked other) _ => other = pid
  | _ => False

/-- The thread was cancelled in `waitpid`, or in the message before it. -/
def ForkPhase.Cancelled : ForkPhase → Prop
  | .logs .cleanup _ | .cancelled => True
  | _ => False

/-- The thread has locked the handler's mutex and not unlocked it. -/
def ForkPhase.Holds : ForkPhase → Prop
  | .forks | .waits _ | .unlocks _ | .logs (.forked _) _ | .logs .cleanup _ | .cancelled => True
  | _ => False

/-- The thread is in the logger, with its mutex. -/
def ForkPhase.Inside : ForkPhase → Prop
  | .logs _ inside => inside = true
  | _ => False

/-- Every child that has not been reaped has a thread waiting for it and can exit, the holder of the
mutex was not cancelled, and that of the logger's mutex is in the logger. -/
structure ForksReaped (state : ForkState Thread) : Prop where
  awaited : ∀ pid, (state.children pid).Unreaped → ∃ thread, (state.phases thread).Awaits pid
  exits : ∀ pid, state.children pid ≠ .running true
  holder : ∀ thread, state.mutex = some thread → ¬ (state.phases thread).Cancelled
  logger : ∀ thread, state.logger = some thread → (state.phases thread).Inside

/-- The step is not a fork while a thread has the logger's mutex, not a `waitpid` that fails, and
not a cancellation. -/
def ForksCleanly (state : ForkState Thread) : ForkLabel Thread → Prop
  | .fork _ errno => errno = 0 → state.logger = none
  | .waitpid _ errno => errno = 0
  | .cancel _ => False
  | _ => True

/-! ### The steps -/

/-- A thread that goes from one phase to another stays in the logger or outside, enters it while its
mutex is free, or leaves it and unlocks that. -/
def LoggerMove (thread : Thread) (before after : ForkPhase) (logger logger' : Option Thread) :
    Prop :=
  (logger' = logger ∧ (after.Inside ↔ before.Inside)) ∨
    (logger = none ∧ logger' = some thread ∧ after.Inside) ∨
    (before.Inside ∧ logger' = none ∧ ¬ after.Inside)

/-- What a step can do. Most of them move one thread and change nothing that the children and the
mutex depend on. -/
inductive ForkStep (state : ForkState Thread) : ForkLabel Thread → ForkState Thread → Prop
  | quiet {label : ForkLabel Thread} {thread : Thread} {phase : ForkPhase}
      {logger : Option Thread} {lastReturn : Thread → ℤ} (hallowed : ForksCleanly state label)
      (hawaits : ∀ pid, phase.Awaits pid ↔ (state.phases thread).Awaits pid)
      (hholds : phase.Holds ↔ (state.phases thread).Holds)
      (hcancelled : phase.Cancelled ↔ (state.phases thread).Cancelled)
      (hlogger : LoggerMove thread (state.phases thread) phase state.logger logger) :
      ForkStep state label
        { state.goto thread phase with logger := logger, lastReturn := lastReturn }
  | locks {thread : Thread} (hphase : state.phases thread = .locks) (hfree : state.mutex = none) :
      ForkStep state (.timedlock thread true)
        { state.goto thread .forks with mutex := some thread }
  | forks {thread : Thread} (hphase : state.phases thread = .forks) :
      ForkStep state (.fork thread 0)
        { state.goto thread (.logs (.forked state.forked) false) with
          forked := state.forked + 1
          children := Function.update state.children state.forked
            (.running state.logger.isSome) }
  | interrupted {thread : Thread} {pid errno : ℕ} (hphase : state.phases thread = .waits pid)
      (herrno : errno ≠ 0) :
      ForkStep state (.waitpid thread errno) (state.goto thread (.unlocks none))
  | reaps {thread : Thread} {pid : ℕ} (hphase : state.phases thread = .waits pid)
      (hexited : state.children pid = .exited) :
      ForkStep state (.waitpid thread 0)
        { state.goto thread (.unlocks none) with
          children := Function.update state.children pid .reaped }
  | cancelled {thread : Thread} {phase : ForkPhase}
      (hphase : (state.phases thread).whenCancelled = some phase) :
      ForkStep state (.cancel thread) (state.goto thread phase)
  | unlocks {thread : Thread} {failure : Option ℤ} {message : ForkMessage}
      (hphase : state.phases thread = .unlocks failure)
      (hmessage : message = .exited ∨ ∃ ret, message = .failed ret) :
      ForkStep state (.unlock thread)
        { state.goto thread (.logs message false) with mutex := none }
  | childExits {pid : ℕ} (hrunning : state.children pid = .running false) :
      ForkStep state (.childExits pid)
        { state with children := Function.update state.children pid .exited }

variable {state successor : ForkState Thread} {label : ForkLabel Thread}

/-- Logging a message ends as a quiet step. -/
theorem forkStep_logged {thread : Thread} {message : ForkMessage}
    (hphase : state.phases thread = .logs message true) :
    ForkStep state (.leaveLogger thread)
      { state.logged thread message with logger := none } := by
  cases message with
  | timedOut | forked pid | failed ret | exited | cleanup | other =>
    refine .quiet trivial ?_ ?_ ?_ ?_ <;>
      simp [hphase, ForkPhase.Awaits, ForkPhase.Holds, ForkPhase.Cancelled, ForkPhase.Inside,
        LoggerMove]

/-- Every step of the system is one of the listed ones. -/
theorem forkNext_cases (hnext : forkNext state label = some successor) :
    ForkStep state label successor := by
  cases label with
  | call thread =>
    simp only [forkNext] at hnext
    split_ifs at hnext with hphase
    obtain rfl := Option.some.inj hnext
    refine .quiet trivial ?_ ?_ ?_ ?_ <;>
      simp [hphase, ForkPhase.Awaits, ForkPhase.Holds, ForkPhase.Cancelled, ForkPhase.Inside,
        LoggerMove]
  | timedlock thread locked =>
    simp only [forkNext] at hnext
    split_ifs at hnext with hphase hlocked hfree
    · obtain rfl := Option.some.inj hnext
      rw [hlocked]
      exact .locks hphase hfree
    · obtain rfl := Option.some.inj hnext
      refine .quiet trivial ?_ ?_ ?_ ?_ <;>
        simp [hphase, ForkPhase.Awaits, ForkPhase.Holds, ForkPhase.Cancelled, ForkPhase.Inside,
          LoggerMove]
  | fork thread errno =>
    simp only [forkNext] at hnext
    split_ifs at hnext with hphase herrno
    · obtain rfl := Option.some.inj hnext
      refine .quiet (fun hzero ↦ absurd hzero herrno) ?_ ?_ ?_ ?_ <;>
        simp [hphase, ForkPhase.Awaits, ForkPhase.Holds, ForkPhase.Cancelled, ForkPhase.Inside,
          LoggerMove]
    · obtain rfl := Option.some.inj hnext
      rw [not_not.mp herrno]
      exact .forks hphase
  | waitpid thread errno =>
    simp only [forkNext] at hnext
    split at hnext
    · rename_i pid hphase
      split_ifs at hnext with herrno hexited
      · obtain rfl := Option.some.inj hnext
        exact .interrupted hphase herrno
      · obtain rfl := Option.some.inj hnext
        rw [not_not.mp herrno]
        exact .reaps hphase hexited
    · cases hnext
  | cancel thread =>
    obtain ⟨phase, hphase, rfl⟩ := Option.map_eq_some_iff.mp hnext
    exact .cancelled hphase
  | unlock thread =>
    simp only [forkNext] at hnext
    split at hnext
    · rename_i hphase
      obtain rfl := Option.some.inj hnext
      exact .unlocks hphase (Or.inl rfl)
    · rename_i ret hphase
      obtain rfl := Option.some.inj hnext
      exact .unlocks hphase (Or.inr ⟨ret, rfl⟩)
    · cases hnext
  | log thread =>
    simp only [forkNext] at hnext
    split_ifs at hnext with hphase
    obtain rfl := Option.some.inj hnext
    refine .quiet trivial ?_ ?_ ?_ ?_ <;>
      simp [hphase, ForkPhase.Awaits, ForkPhase.Holds, ForkPhase.Cancelled, ForkPhase.Inside,
        LoggerMove]
  | enterLogger thread =>
    simp only [forkNext] at hnext
    split at hnext
    · rename_i message hphase
      split_ifs at hnext with hfree
      obtain rfl := Option.some.inj hnext
      refine .quiet trivial ?_ ?_ ?_ (.inr (.inl ⟨hfree, rfl, rfl⟩)) <;> rw [hphase] <;>
        cases message <;> simp [ForkPhase.Awaits, ForkPhase.Holds, ForkPhase.Cancelled]
    · cases hnext
  | leaveLogger thread =>
    simp only [forkNext] at hnext
    split at hnext
    · rename_i message hphase
      obtain rfl := Option.some.inj hnext
      exact forkStep_logged hphase
    · cases hnext
  | finish thread =>
    simp only [forkNext] at hnext
    split_ifs at hnext with hphase
    obtain rfl := Option.some.inj hnext
    refine .quiet trivial ?_ ?_ ?_ ?_ <;>
      simp [hphase, ForkPhase.Awaits, ForkPhase.Holds, ForkPhase.Cancelled, ForkPhase.Inside,
        LoggerMove]
  | childExits pid =>
    simp only [forkNext] at hnext
    split_ifs at hnext with hrunning
    obtain rfl := Option.some.inj hnext
    exact .childExits hrunning

/-! ### The mutex and the children -/

/-- The mutex is held by the thread that has locked it, the children that are not there yet are
those not forked yet, a child somebody awaits has not been reaped, and a thread in the logger has
the logger's mutex. -/
structure ForkInvariant (state : ForkState Thread) : Prop where
  holder : ∀ thread, (state.phases thread).Holds ↔ state.mutex = some thread
  fresh : ∀ pid, state.forked ≤ pid → state.children pid = .absent
  awaited : ∀ thread pid, (state.phases thread).Awaits pid → (state.children pid).Unreaped
  inside : ∀ thread, (state.phases thread).Inside → state.logger = some thread

omit [DecidableEq Thread] in
/-- A thread that awaits a child has locked the mutex. -/
theorem ForkPhase.Awaits.holds {phase : ForkPhase} {pid : ℕ} (hawaits : phase.Awaits pid) :
    phase.Holds := by
  cases phase with
  | waits other => trivial
  | logs message inside =>
    cases message with
    | forked other => trivial
    | timedOut | failed ret | exited | cleanup | other => exact hawaits.elim
  | outside | locks | forks | unlocks failure | cancelled | ended => exact hawaits.elim

omit [DecidableEq Thread] in
/-- A thread awaits one child. -/
theorem ForkPhase.Awaits.eq {phase : ForkPhase} {first second : ℕ} (hfirst : phase.Awaits first)
    (hsecond : phase.Awaits second) : first = second := by
  cases phase with
  | waits pid => exact (Eq.symm hfirst).trans hsecond
  | logs message inside =>
    cases message with
    | forked pid => exact (Eq.symm hfirst).trans hsecond
    | timedOut | failed ret | exited | cleanup | other => exact hfirst.elim
  | outside | locks | forks | unlocks failure | cancelled | ended => exact hfirst.elim

omit [DecidableEq Thread] in
/-- A thread that was cancelled has locked the mutex. -/
theorem ForkPhase.Cancelled.holds {phase : ForkPhase} (hcancelled : phase.Cancelled) :
    phase.Holds := by
  cases phase with
  | cancelled => trivial
  | logs message inside =>
    cases message with
    | cleanup => trivial
    | timedOut | failed ret | exited | forked pid | other => exact hcancelled.elim
  | outside | locks | forks | unlocks failure | waits pid | ended => exact hcancelled.elim

omit [DecidableEq Thread] in
/-- A thread that acts on its cancellation has not done so before. It keeps the mutex if it had it,
awaits no child, and is not in the logger any more; outside the logger it becomes a cancelled
holder. -/
theorem whenCancelled_spec {before after : ForkPhase}
    (hcancels : before.whenCancelled = some after) :
    (after.Holds ↔ before.Holds) ∧ (∀ pid, ¬ after.Awaits pid) ∧ ¬ after.Inside ∧
      ¬ before.Cancelled ∧ (before.Inside ∨ before.Holds ∧ after.Cancelled) := by
  cases before with
  | waits pid =>
    obtain rfl := Option.some.inj hcancels
    exact ⟨iff_of_true trivial trivial, fun _ ↦ not_false, Bool.false_ne_true, not_false,
      .inr ⟨trivial, trivial⟩⟩
  | logs message inside =>
    cases inside with
    | false => cases message <;> cases hcancels
    | true =>
      cases message with
      | cleanup => cases hcancels
      | forked pid =>
        obtain rfl := Option.some.inj hcancels
        exact ⟨iff_of_true trivial trivial, fun _ ↦ not_false, Bool.false_ne_true, not_false,
          .inl rfl⟩
      | timedOut | failed ret | exited | other =>
        obtain rfl := Option.some.inj hcancels
        exact ⟨Iff.rfl, fun _ ↦ not_false, not_false, not_false, .inl rfl⟩
  | outside | locks | forks | unlocks failure | cancelled | ended => cases hcancels

/-- A thread that does not move into the logger leaves who is in it, itself apart. -/
theorem inside_of_update {phases : Thread → ForkPhase} {thread : Thread} {phase : ForkPhase}
    {other : Thread} (hother : (Function.update phases thread phase other).Inside)
    (hphase : ¬ phase.Inside) : (phases other).Inside := by
  by_cases hsame : other = thread
  · subst other
    rw [Function.update_self] at hother
    exact absurd hother hphase
  · rwa [Function.update_of_ne hsame] at hother

/-- A thread that was not in the logger leaves who is in it. -/
theorem inside_update {phases : Thread → ForkPhase} {thread : Thread} {phase : ForkPhase}
    (hbefore : ¬ (phases thread).Inside) {other : Thread} (hother : (phases other).Inside) :
    (Function.update phases thread phase other).Inside := by
  have hne : other ≠ thread := by
    rintro rfl
    exact hbefore hother
  rwa [Function.update_of_ne hne]

/-- A thread that moves without beginning to await a child leaves who awaits as it was. -/
theorem awaits_of_update {phases : Thread → ForkPhase} {thread : Thread} {phase : ForkPhase}
    (hawaits : ∀ pid, phase.Awaits pid → (phases thread).Awaits pid) {other : Thread} {pid : ℕ}
    (hother : (Function.update phases thread phase other).Awaits pid) :
    (phases other).Awaits pid := by
  by_cases hsame : other = thread
  · subst other
    rw [Function.update_self] at hother
    exact hawaits pid hother
  · rwa [Function.update_of_ne hsame] at hother

/-- A thread that moves without being cancelled leaves who was cancelled as it was. -/
theorem cancelled_of_update {phases : Thread → ForkPhase} {thread : Thread} {phase : ForkPhase}
    (hcancelled : phase.Cancelled → (phases thread).Cancelled) {other : Thread}
    (hother : (Function.update phases thread phase other).Cancelled) :
    (phases other).Cancelled := by
  by_cases hsame : other = thread
  · subst other
    rw [Function.update_self] at hother
    exact hcancelled hother
  · rwa [Function.update_of_ne hsame] at hother

/-- A thread that moves and awaits what it awaited leaves a child awaited. -/
theorem exists_awaits_update {phases : Thread → ForkPhase} {thread : Thread} {phase : ForkPhase}
    {pid : ℕ} (hawaits : (phases thread).Awaits pid → phase.Awaits pid)
    (hbefore : ∃ other, (phases other).Awaits pid) :
    ∃ other, (Function.update phases thread phase other).Awaits pid := by
  obtain ⟨other, hother⟩ := hbefore
  refine ⟨other, ?_⟩
  by_cases hsame : other = thread
  · subst other
    rw [Function.update_self]
    exact hawaits hother
  · rwa [Function.update_of_ne hsame]

namespace ForkInvariant

omit [DecidableEq Thread] in
/-- Two threads that have locked the mutex are one. -/
theorem unique (hinvariant : ForkInvariant state) {first second : Thread}
    (hfirst : (state.phases first).Holds) (hsecond : (state.phases second).Holds) :
    first = second :=
  Option.some.inj (((hinvariant.holder first).mp hfirst).symm.trans
    ((hinvariant.holder second).mp hsecond))

omit [DecidableEq Thread] in
/-- Where the holder of the mutex was not cancelled, nobody was. -/
theorem not_cancelled (hinvariant : ForkInvariant state) {thread : Thread}
    (hholds : (state.phases thread).Holds) (hnot : ¬ (state.phases thread).Cancelled)
    (other : Thread) : ¬ (state.phases other).Cancelled := by
  intro hother
  rw [hinvariant.unique hother.holds hholds] at hother
  exact hnot hother

/-- A thread that moves and keeps the mutex, or stays without it, keeps the holder. -/
theorem holder_move (hinvariant : ForkInvariant state) {thread : Thread} {phase : ForkPhase}
    (hholds : phase.Holds ↔ (state.phases thread).Holds) (other : Thread) :
    (Function.update state.phases thread phase other).Holds ↔ state.mutex = some other := by
  by_cases hsame : other = thread
  · subst other
    rw [Function.update_self, hholds]
    exact hinvariant.holder thread
  · rw [Function.update_of_ne hsame]
    exact hinvariant.holder other

/-- Locking a free mutex makes the thread its holder. -/
theorem holder_locks (hinvariant : ForkInvariant state) {thread : Thread}
    (hfree : state.mutex = none) (other : Thread) :
    (Function.update state.phases thread .forks other).Holds ↔ some thread = some other := by
  by_cases hsame : other = thread
  · subst other
    rw [Function.update_self]
    exact iff_of_true trivial rfl
  · rw [Function.update_of_ne hsame, hinvariant.holder other, hfree]
    exact iff_of_false (Option.some_ne_none _).symm fun h ↦ hsame (Option.some.inj h).symm

/-- Unlocking the mutex leaves nobody with it. -/
theorem holder_unlocks (hinvariant : ForkInvariant state) {thread : Thread} {phase : ForkPhase}
    (hheld : (state.phases thread).Holds) (hphase : ¬ phase.Holds) (other : Thread) :
    (Function.update state.phases thread phase other).Holds ↔ none = some other := by
  refine iff_of_false (fun hholds ↦ ?_) (Option.some_ne_none _).symm
  by_cases hsame : other = thread
  · subst other
    rw [Function.update_self] at hholds
    exact hphase hholds
  · rw [Function.update_of_ne hsame] at hholds
    exact hsame (hinvariant.unique hholds hheld)

/-- A thread that stays in the logger or outside, enters it or leaves it keeps its mutex with the
thread that is in it. -/
theorem inside_move (hinvariant : ForkInvariant state) {thread : Thread} {phase : ForkPhase}
    {logger : Option Thread}
    (hmove : LoggerMove thread (state.phases thread) phase state.logger logger) (other : Thread)
    (hother : (Function.update state.phases thread phase other).Inside) :
    logger = some other := by
  by_cases hsame : other = thread
  · subst other
    rw [Function.update_self] at hother
    rcases hmove with ⟨rfl, hiff⟩ | ⟨-, rfl, -⟩ | ⟨-, -, hleaves⟩
    · exact hinvariant.inside thread (hiff.mp hother)
    · rfl
    · exact absurd hother hleaves
  · rw [Function.update_of_ne hsame] at hother
    have hheld := hinvariant.inside other hother
    rcases hmove with ⟨rfl, -⟩ | ⟨hfree, -, -⟩ | ⟨hleaves, -, -⟩
    · exact hheld
    · cases hfree.symm.trans hheld
    · exact absurd (Option.some.inj (hheld.symm.trans (hinvariant.inside thread hleaves))) hsame

/-- The logger's mutex was with a thread in the logger if it is so after a thread stayed in the
logger or outside, entered it or left it. -/
theorem inside_before (hinvariant : ForkInvariant state) {thread : Thread} {phase : ForkPhase}
    {logger : Option Thread}
    (hmove : LoggerMove thread (state.phases thread) phase state.logger logger)
    (hafter : ∀ other, logger = some other →
      (Function.update state.phases thread phase other).Inside) {other : Thread}
    (hother : state.logger = some other) : (state.phases other).Inside := by
  rcases hmove with ⟨rfl, hiff⟩ | ⟨hfree, -, -⟩ | ⟨hleaves, -, -⟩
  · have hinside := hafter other hother
    by_cases hsame : other = thread
    · subst other
      rw [Function.update_self] at hinside
      exact hiff.mp hinside
    · rwa [Function.update_of_ne hsame] at hinside
  · cases hfree.symm.trans hother
  · rwa [Option.some.inj (hother.symm.trans (hinvariant.inside thread hleaves))]

/-- Every step keeps the invariant. -/
theorem step (hinvariant : ForkInvariant state) (hnext : forkNext state label = some successor) :
    ForkInvariant successor := by
  cases forkNext_cases hnext with
  | @quiet _ thread phase logger lastReturn hallowed hawaits hholds hcancelled hlogger =>
    refine ⟨hinvariant.holder_move hholds, hinvariant.fresh, fun other pid hother ↦ ?_,
      hinvariant.inside_move hlogger⟩
    exact hinvariant.awaited other pid (awaits_of_update (fun pid ↦ (hawaits pid).mp) hother)
  | @locks thread hphase hfree =>
    refine ⟨hinvariant.holder_locks hfree, hinvariant.fresh, fun other pid hother ↦ ?_,
      fun other hother ↦ hinvariant.inside other (inside_of_update hother not_false)⟩
    exact hinvariant.awaited other pid (awaits_of_update (fun _ ↦ False.elim) hother)
  | @forks thread hphase =>
    have hheld : (state.phases thread).Holds := by
      rw [hphase]
      trivial
    refine ⟨hinvariant.holder_move (iff_of_true trivial hheld), fun pid hless ↦ ?_,
      fun other pid hother ↦ ?_, fun other hother ↦
        hinvariant.inside other (inside_of_update hother Bool.false_ne_true)⟩
    · show Function.update state.children state.forked _ pid = _
      rw [Function.update_of_ne (Nat.lt_of_succ_le hless).ne']
      exact hinvariant.fresh pid (Nat.le_of_succ_le hless)
    · show (Function.update state.children state.forked _ pid).Unreaped
      by_cases hnew : pid = state.forked
      · rw [hnew, Function.update_self]
        trivial
      · rw [Function.update_of_ne hnew]
        refine hinvariant.awaited other pid ?_
        by_cases hsame : other = thread
        · subst other
          rw [show ForkState.phases _ thread = _ from Function.update_self _ _ _] at hother
          exact absurd (Eq.symm hother) hnew
        · rwa [show ForkState.phases _ other = _ from Function.update_of_ne hsame _ _] at hother
  | @interrupted thread pid errno hphase herrno =>
    have hheld : (state.phases thread).Holds := by
      rw [hphase]
      trivial
    refine ⟨hinvariant.holder_move (iff_of_true trivial hheld), hinvariant.fresh,
      fun other pid hother ↦ ?_, fun other hother ↦
        hinvariant.inside other (inside_of_update hother not_false)⟩
    exact hinvariant.awaited other pid (awaits_of_update (fun _ ↦ False.elim) hother)
  | @reaps thread pid hphase hexited =>
    have hawaits : (state.phases thread).Awaits pid := by
      rw [hphase]
      rfl
    refine ⟨hinvariant.holder_move (iff_of_true trivial hawaits.holds), fun later hless ↦ ?_,
      fun other later hother ↦ ?_, fun other hother ↦
        hinvariant.inside other (inside_of_update hother not_false)⟩
    · have hother : later ≠ pid := by
        rintro rfl
        cases (hinvariant.fresh later hless).symm.trans hexited
      show Function.update state.children pid _ later = _
      rw [Function.update_of_ne hother]
      exact hinvariant.fresh later hless
    · -- only the mover could await a child, and it has gone on
      have hbefore : (state.phases other).Awaits later :=
        awaits_of_update (fun _ ↦ False.elim) hother
      have hsame := hinvariant.unique hbefore.holds hawaits.holds
      subst other
      rw [show ForkState.phases _ thread = _ from Function.update_self _ _ _] at hother
      exact hother.elim
  | @cancelled thread phase hphase =>
    obtain ⟨hholds, hawaits, houtside, -, -⟩ := whenCancelled_spec hphase
    refine ⟨hinvariant.holder_move hholds, hinvariant.fresh, fun other pid hother ↦ ?_,
      fun other hother ↦ hinvariant.inside other (inside_of_update hother houtside)⟩
    exact hinvariant.awaited other pid
      (awaits_of_update (fun pid hnow ↦ absurd hnow (hawaits pid)) hother)
  | @unlocks thread failure message hphase hmessage =>
    have hheld : (state.phases thread).Holds := by
      rw [hphase]
      trivial
    have hnot : ¬ (ForkPhase.logs message false).Holds ∧
        ∀ pid, ¬ (ForkPhase.logs message false).Awaits pid := by
      rcases hmessage with rfl | ⟨ret, rfl⟩ <;> exact ⟨not_false, fun _ ↦ not_false⟩
    refine ⟨hinvariant.holder_unlocks hheld hnot.1, hinvariant.fresh, fun other pid hother ↦ ?_,
      fun other hother ↦ hinvariant.inside other (inside_of_update hother Bool.false_ne_true)⟩
    exact hinvariant.awaited other pid
      (awaits_of_update (fun pid hnow ↦ absurd hnow (hnot.2 pid)) hother)
  | @childExits pid hrunning =>
    refine ⟨hinvariant.holder, fun later hless ↦ ?_, fun other later hother ↦ ?_,
      hinvariant.inside⟩
    · have hother : later ≠ pid := by
        rintro rfl
        cases (hinvariant.fresh later hless).symm.trans hrunning
      show Function.update state.children pid _ later = _
      rw [Function.update_of_ne hother]
      exact hinvariant.fresh later hless
    · show (Function.update state.children pid _ later).Unreaped
      by_cases hsame : later = pid
      · rw [hsame, Function.update_self]
        trivial
      · rw [Function.update_of_ne hsame]
        exact hinvariant.awaited other later hother

end ForkInvariant

/-- Every reachable state satisfies the invariant. -/
theorem forkInvariant_reachable (hreach : (forkSystem Thread).Reachable state) :
    ForkInvariant state := by
  refine hreach.invariant (fun start hstart ↦ ?_) fun _ _ _ hinvariant _ hnext ↦
    hinvariant.step hnext
  obtain ⟨hmutex, -, houtside, -, habsent⟩ := hstart
  refine ⟨fun thread ↦ ?_, fun pid _ ↦ habsent pid, fun thread pid hawaits ↦ ?_,
    fun thread hinside ↦ ?_⟩
  · rw [houtside thread, hmutex]
    exact iff_of_false not_false (Option.some_ne_none _).symm
  · rw [houtside thread] at hawaits
    exact hawaits.elim
  · rw [houtside thread] at hinside
    exact hinside.elim

/-! ### What clean steps keep, and the others spoil -/

namespace ForksReaped

/-- A thread that stays in the logger or outside, enters it or leaves it keeps its mutex with a
thread that is in it. -/
theorem logger_move (hreaped : ForksReaped state) {thread : Thread} {phase : ForkPhase}
    {logger : Option Thread}
    (hmove : LoggerMove thread (state.phases thread) phase state.logger logger) (other : Thread)
    (hother : logger = some other) : (Function.update state.phases thread phase other).Inside := by
  rcases hmove with ⟨rfl, hiff⟩ | ⟨-, rfl, henters⟩ | ⟨-, rfl, -⟩
  · have hbefore := hreaped.logger other hother
    by_cases hsame : other = thread
    · subst other
      rw [Function.update_self]
      exact hiff.mpr hbefore
    · rwa [Function.update_of_ne hsame]
  · obtain rfl := Option.some.inj hother
    rwa [Function.update_self]
  · cases hother

/-- A clean step leaves every child that has not been reaped awaited. -/
theorem step (hinvariant : ForkInvariant state) (hreaped : ForksReaped state)
    (hallowed : ForksCleanly state label) (hnext : forkNext state label = some successor) :
    ForksReaped successor := by
  cases forkNext_cases hnext with
  | @quiet _ thread phase logger lastReturn _ hawaits hholds hcancelled hlogger =>
    refine ⟨fun pid hpid ↦ ?_, hreaped.exits, fun other hmutex hother ↦ ?_,
      hreaped.logger_move hlogger⟩
    · exact exists_awaits_update (hawaits pid).mpr (hreaped.awaited pid hpid)
    · exact hreaped.holder other hmutex (cancelled_of_update hcancelled.mp hother)
  | @locks thread hphase hfree =>
    refine ⟨fun pid hpid ↦ ?_, hreaped.exits, fun other _ hother ↦ ?_,
      fun other hother ↦ inside_update (by rw [hphase]; exact id) (hreaped.logger other hother)⟩
    · refine exists_awaits_update (fun hlocks ↦ ?_) (hreaped.awaited pid hpid)
      rw [hphase] at hlocks
      exact hlocks.elim
    · have hbefore : (state.phases other).Cancelled := cancelled_of_update False.elim hother
      have hmutex := (hinvariant.holder other).mp hbefore.holds
      cases hfree.symm.trans hmutex
  | @forks thread hphase =>
    have hlogger : state.logger = none := hallowed rfl
    refine ⟨fun pid hpid ↦ ?_, fun pid hheld ↦ ?_, fun other hmutex hother ↦ ?_,
      fun other hother ↦ inside_update (by rw [hphase]; exact id) (hreaped.logger other hother)⟩
    · by_cases hnew : pid = state.forked
      · refine ⟨thread, ?_⟩
        rw [show ForkState.phases _ thread = _ from Function.update_self _ _ _]
        exact hnew.symm
      · have hbefore : (state.children pid).Unreaped := by
          rwa [show ForkState.children _ pid = _ from Function.update_of_ne hnew _ _] at hpid
        refine exists_awaits_update (fun hforks ↦ ?_) (hreaped.awaited pid hbefore)
        rw [hphase] at hforks
        exact hforks.elim
    · by_cases hnew : pid = state.forked
      · rw [hnew, show ForkState.children _ state.forked = _ from Function.update_self _ _ _,
          hlogger] at hheld
        cases hheld
      · rw [show ForkState.children _ pid = _ from Function.update_of_ne hnew _ _] at hheld
        exact hreaped.exits pid hheld
    · exact hreaped.holder other hmutex (cancelled_of_update False.elim hother)
  | @interrupted thread pid errno hphase herrno => exact absurd hallowed herrno
  | @reaps thread pid hphase hexited =>
    have hawaits : (state.phases thread).Awaits pid := by
      rw [hphase]
      rfl
    refine ⟨fun later hlater ↦ ?_, fun later hheld ↦ ?_, fun other hmutex hother ↦ ?_,
      fun other hother ↦ inside_update (by rw [hphase]; exact id) (hreaped.logger other hother)⟩
    · by_cases hsame : later = pid
      · rw [hsame, show ForkState.children _ pid = _ from Function.update_self _ _ _] at hlater
        exact hlater.elim
      · rw [show ForkState.children _ later = _ from Function.update_of_ne hsame _ _] at hlater
        obtain ⟨other, hother⟩ := hreaped.awaited later hlater
        have hthread := hinvariant.unique hother.holds hawaits.holds
        rw [hthread, hphase] at hother
        exact absurd (Eq.symm hother) hsame
    · by_cases hsame : later = pid
      · rw [hsame, show ForkState.children _ pid = _ from Function.update_self _ _ _] at hheld
        cases hheld
      · rw [show ForkState.children _ later = _ from Function.update_of_ne hsame _ _] at hheld
        exact hreaped.exits later hheld
    · exact hreaped.holder other hmutex (cancelled_of_update False.elim hother)
  | @cancelled thread phase hphase => exact hallowed.elim
  | @unlocks thread failure message hphase hmessage =>
    refine ⟨fun pid hpid ↦ ?_, hreaped.exits, fun _ hmutex ↦ ?_,
      fun other hother ↦ inside_update (by rw [hphase]; exact id) (hreaped.logger other hother)⟩
    · refine exists_awaits_update (fun hunlocks ↦ ?_) (hreaped.awaited pid hpid)
      rw [hphase] at hunlocks
      exact hunlocks.elim
    · cases hmutex
  | @childExits pid hrunning =>
    refine ⟨fun later hlater ↦ hreaped.awaited later ?_, fun later hheld ↦ ?_, hreaped.holder,
      hreaped.logger⟩
    · by_cases hsame : later = pid
      · rw [hsame, hrunning]
        trivial
      · rwa [show ForkState.children _ later = _ from Function.update_of_ne hsame _ _] at hlater
    · by_cases hsame : later = pid
      · rw [hsame, show ForkState.children _ pid = _ from Function.update_self _ _ _] at hheld
        cases hheld
      · rw [show ForkState.children _ later = _ from Function.update_of_ne hsame _ _] at hheld
        exact hreaped.exits later hheld

/-- A step that is not clean leaves a child that cannot exit, a child nobody awaits, or a mutex with
a cancelled thread. -/
theorem not_of_unclean (hinvariant : ForkInvariant state) (hunclean : ¬ ForksCleanly state label)
    (hnext : forkNext state label = some successor) : ¬ ForksReaped successor := by
  intro hafter
  cases forkNext_cases hnext with
  | quiet hallowed => exact hunclean hallowed
  | locks hphase hfree => exact hunclean trivial
  | @forks thread hphase =>
    have hlogger : state.logger ≠ none := fun hnone ↦ hunclean fun _ ↦ hnone
    refine hafter.exits state.forked ?_
    rw [show ForkState.children _ state.forked = _ from Function.update_self _ _ _,
      Option.isSome_iff_ne_none.mpr hlogger]
  | @interrupted thread pid errno hphase herrno =>
    have hawaits : (state.phases thread).Awaits pid := by
      rw [hphase]
      rfl
    obtain ⟨other, hother⟩ := hafter.awaited pid (hinvariant.awaited thread pid hawaits)
    have hbefore : (state.phases other).Awaits pid := awaits_of_update (fun _ ↦ False.elim) hother
    have hsame := hinvariant.unique hbefore.holds hawaits.holds
    rw [hsame, show ForkState.phases _ thread = _ from Function.update_self _ _ _] at hother
    exact hother
  | reaps hphase hexited => exact hunclean rfl
  | @cancelled thread phase hphase =>
    obtain ⟨-, -, houtside, -, hinside | ⟨hheld, hcancelled⟩⟩ := whenCancelled_spec hphase
    · have hleft := hafter.logger thread (hinvariant.inside thread hinside)
      rw [show ForkState.phases _ thread = _ from Function.update_self _ _ _] at hleft
      exact houtside hleft
    · refine hafter.holder thread ((hinvariant.holder thread).mp hheld) ?_
      rwa [show ForkState.phases _ thread = _ from Function.update_self _ _ _]
  | unlocks hphase hmessage => exact hunclean trivial
  | childExits hrunning => exact hunclean trivial

/-- What is spoiled stays spoiled: a state all of whose children are awaited comes from such states
only. -/
theorem of_step (hinvariant : ForkInvariant state) (hafter : ForksReaped successor)
    (hnext : forkNext state label = some successor) : ForksReaped state := by
  have hknown : ∀ {pid}, (state.children pid).Unreaped → pid ≠ state.forked := by
    rintro pid hpid rfl
    rw [hinvariant.fresh _ le_rfl] at hpid
    exact hpid
  cases forkNext_cases hnext with
  | @quiet _ thread phase logger lastReturn _ hawaits hholds hcancelled hlogger =>
    refine ⟨fun pid hpid ↦ ?_, hafter.exits, fun other hmutex hother ↦ ?_,
      fun other hother ↦ hinvariant.inside_before hlogger hafter.logger hother⟩
    · obtain ⟨other, hother⟩ := hafter.awaited pid hpid
      exact ⟨other, awaits_of_update (fun pid ↦ (hawaits pid).mp) hother⟩
    · refine hafter.holder other hmutex ?_
      by_cases hsame : other = thread
      · subst other
        rw [show ForkState.phases _ thread = _ from Function.update_self _ _ _]
        exact hcancelled.mpr hother
      · rwa [show ForkState.phases _ other = _ from Function.update_of_ne hsame _ _]
  | @locks thread hphase hfree =>
    refine ⟨fun pid hpid ↦ ?_, hafter.exits, fun other hmutex ↦ ?_,
      fun other hother ↦ inside_of_update (hafter.logger other hother) not_false⟩
    · obtain ⟨other, hother⟩ := hafter.awaited pid hpid
      exact ⟨other, awaits_of_update (fun _ ↦ False.elim) hother⟩
    · cases hfree.symm.trans hmutex
  | @forks thread hphase =>
    have hheld : (state.phases thread).Holds := by
      rw [hphase]
      trivial
    refine ⟨fun pid hpid ↦ ?_, fun pid hstuck ↦ ?_, fun other hmutex hother ↦ ?_,
      fun other hother ↦ inside_of_update (hafter.logger other hother) Bool.false_ne_true⟩
    · have hold : pid ≠ state.forked := hknown hpid
      obtain ⟨other, hother⟩ := hafter.awaited pid (by
        rwa [show ForkState.children _ pid = _ from Function.update_of_ne hold _ _])
      refine ⟨other, ?_⟩
      by_cases hsame : other = thread
      · subst other
        rw [show ForkState.phases _ thread = _ from Function.update_self _ _ _] at hother
        exact absurd (Eq.symm hother) hold
      · rwa [show ForkState.phases _ other = _ from Function.update_of_ne hsame _ _] at hother
    · have hold : pid ≠ state.forked := hknown (by
        rw [hstuck]
        trivial)
      refine hafter.exits pid ?_
      rwa [show ForkState.children _ pid = _ from Function.update_of_ne hold _ _]
    · exact hinvariant.not_cancelled hheld (by rw [hphase]; exact not_false) other hother
  | @interrupted thread pid errno hphase herrno =>
    refine ⟨fun later hlater ↦ ?_, hafter.exits, fun other hmutex hother ↦ ?_,
      fun other hother ↦ inside_of_update (hafter.logger other hother) not_false⟩
    · obtain ⟨other, hother⟩ := hafter.awaited later hlater
      exact ⟨other, awaits_of_update (fun _ ↦ False.elim) hother⟩
    · have hheld : (state.phases thread).Holds := by
        rw [hphase]
        trivial
      exact hinvariant.not_cancelled hheld (by rw [hphase]; exact not_false) other hother
  | @reaps thread pid hphase hexited =>
    have hawaits : (state.phases thread).Awaits pid := by
      rw [hphase]
      rfl
    refine ⟨fun later hlater ↦ ?_, fun later hstuck ↦ ?_, fun other hmutex hother ↦ ?_,
      fun other hother ↦ inside_of_update (hafter.logger other hother) not_false⟩
    · by_cases hsame : later = pid
      · exact ⟨thread, hsame ▸ hawaits⟩
      · obtain ⟨other, hother⟩ := hafter.awaited later (by
          rwa [show ForkState.children _ later = _ from Function.update_of_ne hsame _ _])
        exact ⟨other, awaits_of_update (fun _ ↦ False.elim) hother⟩
    · have hother : later ≠ pid := by
        rintro rfl
        cases hexited.symm.trans hstuck
      refine hafter.exits later ?_
      rwa [show ForkState.children _ later = _ from Function.update_of_ne hother _ _]
    · exact hinvariant.not_cancelled hawaits.holds (by rw [hphase]; exact not_false) other hother
  | @cancelled thread phase hphase =>
    have hunclean : ¬ ForksCleanly state (.cancel thread) := not_false
    exact absurd hafter (not_of_unclean hinvariant hunclean hnext)
  | @unlocks thread failure message hphase hmessage =>
    refine ⟨fun pid hpid ↦ ?_, hafter.exits, fun other hmutex hother ↦ ?_,
      fun other hother ↦ inside_of_update (hafter.logger other hother) Bool.false_ne_true⟩
    · obtain ⟨other, hother⟩ := hafter.awaited pid hpid
      refine ⟨other, awaits_of_update (fun later hlater ↦ ?_) hother⟩
      rcases hmessage with rfl | ⟨ret, rfl⟩ <;> exact hlater.elim
    · have hheld : (state.phases thread).Holds := by
        rw [hphase]
        trivial
      exact hinvariant.not_cancelled hheld (by rw [hphase]; exact not_false) other hother
  | @childExits pid hrunning =>
    refine ⟨fun later hlater ↦ hafter.awaited later ?_, fun later hstuck ↦ ?_, hafter.holder,
      hafter.logger⟩
    · by_cases hsame : later = pid
      · rw [hsame, show ForkState.children _ pid = _ from Function.update_self _ _ _]
        trivial
      · rwa [show ForkState.children _ later = _ from Function.update_of_ne hsame _ _]
    · have hother : later ≠ pid := by
        rintro rfl
        cases hrunning.symm.trans hstuck
      refine hafter.exits later ?_
      rwa [show ForkState.children _ later = _ from Function.update_of_ne hother _ _]

end ForksReaped

/-- Every state of a run of clean steps has its children awaited. -/
theorem forksReaped_of_clean (hreach : (forkSystem Thread).ReachableUnder ForksCleanly state) :
    ForksReaped state := by
  induction hreach with
  | initial hstart =>
    obtain ⟨hmutex, hlogger, -, -, habsent⟩ := hstart
    refine ⟨fun pid hpid ↦ ?_, fun pid hstuck ↦ ?_, fun thread hheld ↦ ?_, fun thread hheld ↦ ?_⟩
    · rw [habsent pid] at hpid
      exact hpid.elim
    · cases (habsent pid).symm.trans hstuck
    · cases hmutex.symm.trans hheld
    · cases hlogger.symm.trans hheld
  | step hbefore hallowed hnext ih =>
    exact ih.step (forkInvariant_reachable hbefore.reachable) hallowed hnext

/-- A thread that was cancelled with the mutex keeps it, and no step forks. -/
theorem cancelled_step (hinvariant : ForkInvariant state) {thread : Thread}
    (hcancelled : (state.phases thread).Cancelled)
    (hnext : forkNext state label = some successor) :
    (successor.phases thread).Cancelled ∧ successor.forked = state.forked := by
  have hmutex := (hinvariant.holder thread).mp hcancelled.holds
  have hnobody : ∀ mover : Thread, (state.phases mover).Holds →
      (state.phases mover).Cancelled := fun mover hholds ↦
    hinvariant.unique hcancelled.holds hholds ▸ hcancelled
  cases forkNext_cases hnext with
  | @quiet _ mover phase logger lastReturn _ hawaits hholds hsame _ =>
    refine ⟨?_, rfl⟩
    show (Function.update state.phases mover phase thread).Cancelled
    by_cases hthread : thread = mover
    · subst thread
      rw [Function.update_self]
      exact hsame.mpr hcancelled
    · rwa [Function.update_of_ne hthread]
  | locks hphase hfree => cases hfree.symm.trans hmutex
  | @forks mover hphase =>
    have hmover := hnobody mover (by rw [hphase]; trivial)
    rw [hphase] at hmover
    exact hmover.elim
  | @interrupted mover pid errno hphase herrno =>
    have hmover := hnobody mover (by rw [hphase]; trivial)
    rw [hphase] at hmover
    exact hmover.elim
  | @reaps mover pid hphase hexited =>
    have hmover := hnobody mover (by rw [hphase]; trivial)
    rw [hphase] at hmover
    exact hmover.elim
  | @cancelled mover phase hphase =>
    obtain ⟨-, -, -, hnot, -⟩ := whenCancelled_spec hphase
    refine ⟨?_, rfl⟩
    show (Function.update state.phases mover phase thread).Cancelled
    have hthread : thread ≠ mover := by
      rintro rfl
      exact hnot hcancelled
    rwa [Function.update_of_ne hthread]
  | @unlocks mover failure message hphase hmessage =>
    have hmover := hnobody mover (by rw [hphase]; trivial)
    rw [hphase] at hmover
    exact hmover.elim
  | childExits hrunning => exact ⟨hcancelled, rfl⟩

/-- After a caller was cancelled in `waitpid` or in the message before it, its cleanup handler run
or not, it has the mutex in every continuation, so that no call of `fork_handler_fork` gets it and
none forks again. -/
theorem cancelled_caller_keeps_mutex (hreach : (forkSystem Thread).Reachable state)
    {thread : Thread} (hcancelled : (state.phases thread).Cancelled)
    (hmore : (forkSystem Thread).Continuation (fun _ _ ↦ True) state successor) :
    successor.mutex = some thread ∧ successor.forked = state.forked ∧
      ∀ other, (successor.phases other).Holds → other = thread := by
  have hinvariant := forkInvariant_reachable (hreach.continue hmore)
  have hkept : (successor.phases thread).Cancelled ∧ successor.forked = state.forked := by
    induction hmore with
    | refl => exact ⟨hcancelled, rfl⟩
    | tail hmore hlast ih =>
      obtain ⟨label, -, hnext⟩ := hlast
      have hbefore := forkInvariant_reachable (hreach.continue hmore)
      obtain ⟨hstill, hsame⟩ := ih hbefore
      obtain ⟨hafter, hforked⟩ := cancelled_step hbefore hstill hnext
      exact ⟨hafter, hforked.trans hsame⟩
  obtain ⟨hstill, hforked⟩ := hkept
  refine ⟨(hinvariant.holder thread).mp hstill.holds, hforked, fun other hother ↦ ?_⟩
  exact hinvariant.unique hother hstill.holds

/-- A caller is cancelled in `waitpid`, and the lock of another one times out. -/
theorem cancelled_caller_keeps_mutex_timeout :
    ∃ state successor : ForkState Bool, (forkSystem Bool).Reachable state ∧
      (forkSystem Bool).next state (.timedlock true false) = some successor ∧
      successor.mutex = some false ∧ successor.forked = 1 := by
  obtain ⟨state, hrun, hcancelled, hforked⟩ : ∃ state,
      (forkSystem Bool).run
        { mutex := none, logger := none, phases := fun _ ↦ .outside, lastReturn := fun _ ↦ 0
          forked := 0, children := fun _ ↦ .absent }
        [.call false, .timedlock false true, .fork false 0, .enterLogger false,
          .leaveLogger false, .cancel false, .call true] = some state ∧
        state.phases false = .logs .cleanup false ∧ state.forked = 1 := ⟨_, rfl, rfl, rfl⟩
  have hreach : (forkSystem Bool).Reachable state :=
    TransitionSystem.reachable_of_run ⟨rfl, rfl, fun _ ↦ rfl, rfl, fun _ ↦ rfl⟩ _ hrun
  obtain ⟨successor, hnext⟩ : ∃ successor,
      (forkSystem Bool).next state (.timedlock true false) = some successor := by
    obtain rfl := Option.some.inj hrun
    exact ⟨_, rfl⟩
  have hstill : (state.phases false).Cancelled := by
    rw [hcancelled]
    trivial
  obtain ⟨hmutex, hsame, -⟩ := cancelled_caller_keeps_mutex hreach hstill
    (.single ⟨.timedlock true false, trivial, hnext⟩)
  exact ⟨state, successor, hreach, hnext, hmutex, hsame.trans hforked⟩

end Bme680.Forks
