import Bme680.Concurrency.TransitionSystem
import Mathlib.Data.Nat.Notation
import Mathlib.Tactic.Common

/-!
# Cleaning up beside the alert timer

`timer_task` calls `check_threshold_task` again and again in a thread of its own; the callback
sends its alerts with `ipc_data->lock` held. `bme680_ipc_cleanup` takes that lock and then has
`timer_destroy` cancel the thread and wait for its end. A cancelled thread ends at its next
cancellation point, and requesting a mutex is none.

The system is the timer thread and one call of `bme680_ipc_cleanup` in any interleaving, with any
sensor readings. Whether `ipc_data->timer` is the timer is a parameter: `timer_init` as it stands
leaves it null, and then `timer_destroy` fails before it waits for anything.

`alert_shutdown_iff` says when the two cannot wait for each other: exactly while the timer thread
does not find a threshold exceeded with the lock in the hands of the cleanup, and the cleanup does
not take the lock with the timer thread on its way to it.
-/

set_option autoImplicit false
set_option relaxedAutoImplicit false

namespace Bme680.Ipc

open Concurrency

/-! ### The timer thread -/

/-- The threshold checks of `check_threshold_task`, in order. -/
inductive ThresholdCheck
  | temp
  | gas
  | pressure
  | humid
  deriving DecidableEq, Repr

/-- The two ways an alert is sent: `bme680_send_netlink_alert` and `bme680_send_sysv_alert`. -/
inductive AlertChannel
  | netlink
  | sysv
  deriving DecidableEq, Repr

/-- How a check that finds its threshold exceeded sends the alert. -/
def ThresholdCheck.channel : ThresholdCheck → AlertChannel
  | .temp | .pressure => .netlink
  | .gas | .humid => .sysv

/-- What comes of a `msgsnd`: the message was sent, the queue was full, or it failed. -/
inductive MsgsndOutcome
  | sent
  | again
  | failed
  deriving DecidableEq, Repr

/-- Where the timer thread is in `timer_task` and its callback: at the test of the loop, at
`pthread_testcancel`, at a threshold check, before or at the lock of an alert, sending the alert,
backing off with some tries left, releasing the lock, logging, or asleep. -/
inductive TimerPhase
  | testsRunning
  | testsCancel
  | checks (check : ThresholdCheck)
  | prepares (check : ThresholdCheck)
  | requests (check : ThresholdCheck)
  | multicasts (check : ThresholdCheck)
  | sends (check : ThresholdCheck) (retries : ℕ)
  | backsOff (check : ThresholdCheck) (retries : ℕ)
  | unlocks (check : ThresholdCheck)
  | logs
  | sleeps
  | ended
  deriving DecidableEq, Repr

/-- Where the timer thread goes after a check and its alert. -/
def ThresholdCheck.after : ThresholdCheck → TimerPhase
  | .temp => .checks .gas
  | .gas => .checks .pressure
  | .pressure => .checks .humid
  | .humid => .logs

/-- Where the timer thread goes with the lock of an alert. -/
def ThresholdCheck.sending (check : ThresholdCheck) : TimerPhase :=
  match check.channel with
  | .netlink => .multicasts check
  | .sysv => .sends check 2

/-! ### The system -/

/-- Where the call of `bme680_ipc_cleanup` is: not made yet, at the lock, in `timer_destroy` about
to clear `running`, to cancel the thread or to join it, about to release the lock, returned, or
stopped at a null timer. -/
inductive CleanupPhase
  | notCalled
  | requests
  | clearsRunning
  | cancels
  | joins
  | unlocks
  | returned
  | faulted
  deriving DecidableEq, Repr

/-- The two threads. -/
inductive AlertThread
  | timer
  | cleanup
  deriving DecidableEq, Repr

/-- The holder of `ipc_data->lock`, the `running` flag of the timer, whether its thread was
cancelled, and where the two threads are. -/
structure AlertState where
  lock : Option AlertThread
  running : Bool
  cancelled : Bool
  timer : TimerPhase
  cleanup : CleanupPhase
  deriving DecidableEq, Repr

/-- The steps of the timer thread, which learns what a check finds, whether the message of a
netlink alert could be allocated, what a `msgsnd` gives, whether a back-off timed out, and whether
a log call is a cancellation point, and those of the cleanup. -/
inductive AlertLabel
  | check (exceeded : Bool)
  | prepare (allocated : Bool)
  | send (outcome : MsgsndOutcome)
  | backOff (timedOut : Bool)
  | log (cancellationPoint : Bool)
  | timer
  | cleanup
  deriving DecidableEq, Repr

/-- The timer thread at a step that learns nothing. -/
def timerTask (state : AlertState) : Option AlertState :=
  match state.timer with
  | .testsRunning =>
    some { state with timer := if state.running then .testsCancel else .ended }
  | .testsCancel =>
    some { state with timer := if state.cancelled then .ended else .checks .temp }
  | .requests check =>
    if state.lock = none then some { state with lock := some .timer, timer := check.sending }
    else none
  | .multicasts check => some { state with timer := .unlocks check }
  | .unlocks check => some { state with lock := none, timer := check.after }
  | .sleeps => some { state with timer := if state.cancelled then .ended else .testsRunning }
  | _ => none

/-- `bme680_ipc_cleanup` with its `timer_destroy`, given whether `ipc_data->timer` is the timer. -/
def bme680IpcCleanup (timerStored : Bool) (state : AlertState) : Option AlertState :=
  match state.cleanup with
  | .notCalled => some { state with cleanup := .requests }
  | .requests =>
    if state.lock = none then
      some { state with lock := some .cleanup, cleanup := .clearsRunning }
    else none
  | .clearsRunning =>
    if timerStored then some { state with running := false, cleanup := .cancels }
    else some { state with cleanup := .faulted }
  | .cancels => some { state with cancelled := true, cleanup := .joins }
  | .joins => if state.timer = .ended then some { state with cleanup := .unlocks } else none
  | .unlocks => some { state with lock := none, cleanup := .returned }
  | .returned | .faulted => none

/-- One step of the two threads. A cancelled thread ends where it comes to `msgsnd` or
`clock_nanosleep`, with whatever it holds. -/
def alertNext (timerStored : Bool) (state : AlertState) : AlertLabel → Option AlertState
  | .check exceeded =>
    match state.timer with
    | .checks check =>
      some { state with timer := if exceeded then .prepares check else check.after }
    | _ => none
  | .prepare allocated =>
    match state.timer with
    | .prepares check =>
      -- only the netlink alert allocates, and returns where it cannot
      if check.channel = .netlink ∧ allocated = false then
        some { state with timer := check.after }
      else some { state with timer := .requests check }
    | _ => none
  | .send outcome =>
    match state.timer with
    | .sends check retries =>
      if state.cancelled then some { state with timer := .ended }
      else
        match outcome with
        | .sent | .failed => some { state with timer := .unlocks check }
        | .again => some { state with timer := .backsOff check retries }
    | _ => none
  | .backOff timedOut =>
    match state.timer with
    | .backsOff check retries =>
      if state.cancelled then some { state with timer := .ended }
      else if timedOut then some { state with timer := .unlocks check }
      else
        match retries with
        | 0 => some { state with timer := .unlocks check }
        | retries + 1 => some { state with timer := .sends check retries }
    | _ => none
  | .log cancellationPoint =>
    if state.timer = .logs then
      some
        { state with timer := if state.cancelled && cancellationPoint then .ended else .sleeps }
    else none
  | .timer => timerTask state
  | .cleanup => bme680IpcCleanup timerStored state

/-- The timer thread as `timer_init` creates it, before `bme680_ipc_cleanup` is called. -/
def alertSystem (timerStored : Bool) : TransitionSystem AlertState AlertLabel where
  initial state :=
    state = { lock := none, running := true, cancelled := false, timer := .testsRunning,
              cleanup := .notCalled }
  next := alertNext timerStored

/-! ### Waiting for each other -/

/-- The timer thread has found a threshold exceeded and does not hold the lock yet. -/
def TimerPhase.Alerting : TimerPhase → Prop
  | .prepares _ | .requests _ => True
  | _ => False

/-- The timer thread has the lock. -/
def TimerPhase.Sending : TimerPhase → Prop
  | .multicasts _ | .sends _ _ | .backsOff _ _ | .unlocks _ => True
  | _ => False

/-- The cleanup has the lock. -/
def CleanupPhase.Holding : CleanupPhase → Prop
  | .clearsRunning | .cancels | .joins | .unlocks | .faulted => True
  | .notCalled | .requests | .returned => False

/-- It is not the case that the cleanup waits for the end of the timer thread, holding the lock the
timer thread is waiting for. -/
def NoShutdownDeadlock (state : AlertState) : Prop :=
  ¬ (state.cleanup = .joins ∧ state.lock = some .cleanup ∧ ∃ check, state.timer = .requests check)

/-- Where the timer was stored, no check finds its threshold exceeded while the cleanup has the
lock, and the cleanup does not take the lock while the timer thread is on its way to it. -/
def NoAlertBesideCleanup (timerStored : Bool) (state : AlertState) : AlertLabel → Prop
  | .check exceeded =>
    timerStored = true → exceeded = true → state.lock ≠ some .cleanup
  | .cleanup => timerStored = true → state.cleanup = .requests → ¬ state.timer.Alerting
  | _ => True

/-- Who has the lock where the two threads are, and that the cleanup gets behind the join only after
the timer thread has ended. -/
structure AlertInvariant (timerStored : Bool) (state : AlertState) : Prop where
  cleanup_holds : state.lock = some .cleanup ↔ state.cleanup.Holding
  timer_holds : state.timer.Sending → state.lock = some .timer
  stored : state.cleanup = .cancels ∨ state.cleanup = .joins → timerStored = true
  faulted : state.cleanup = .faulted → timerStored = false
  joined : state.cleanup = .unlocks → state.timer = .ended

/-- The timer thread does not hold the lock right after a check and its alert. -/
theorem ThresholdCheck.after_not_sending (check : ThresholdCheck) : ¬ check.after.Sending := by
  cases check <;> exact id

/-- The timer thread is not on its way to the lock right after a check and its alert. -/
theorem ThresholdCheck.after_not_alerting (check : ThresholdCheck) : ¬ check.after.Alerting := by
  cases check <;> exact id

/-- The timer thread is not on its way to the lock with the lock. -/
theorem ThresholdCheck.sending_not_alerting (check : ThresholdCheck) :
    ¬ check.sending.Alerting := by
  cases check <;> exact id

/-- A step of the timer thread that does not touch the lock keeps the invariant. -/
theorem AlertInvariant.move {timerStored : Bool} {state : AlertState} {phase : TimerPhase}
    (hinv : AlertInvariant timerStored state) (hrunning : state.timer ≠ .ended)
    (hholds : phase.Sending → state.timer.Sending) :
    AlertInvariant timerStored { state with timer := phase } :=
  ⟨hinv.cleanup_holds, fun hsending ↦ hinv.timer_holds (hholds hsending), hinv.stored,
    hinv.faulted, fun hunlocks ↦ absurd (hinv.joined hunlocks) hrunning⟩

/-- A step of the timer thread with the lock, which stays taken, keeps the invariant. -/
theorem AlertInvariant.move_sending {timerStored : Bool} {state : AlertState} {phase : TimerPhase}
    (hinv : AlertInvariant timerStored state) (hsending : state.timer.Sending) :
    AlertInvariant timerStored { state with timer := phase } := by
  refine hinv.move (fun hended ↦ ?_) fun _ ↦ hsending
  rw [hended] at hsending
  exact hsending

/-- A step of the timer thread keeps the invariant. -/
theorem AlertInvariant.timerTask {timerStored : Bool} {state successor : AlertState}
    (hinv : AlertInvariant timerStored state) (hnext : timerTask state = some successor) :
    AlertInvariant timerStored successor := by
  unfold Ipc.timerTask at hnext
  cases htimer : state.timer with
  | testsRunning | testsCancel | sleeps =>
    simp only [htimer] at hnext
    obtain rfl := Option.some.inj hnext
    refine hinv.move (by simp [htimer]) fun hsending ↦ ?_
    split_ifs at hsending <;> exact hsending.elim
  | multicasts check =>
    simp only [htimer] at hnext
    obtain rfl := Option.some.inj hnext
    refine hinv.move (by simp [htimer]) fun _ ↦ ?_
    rw [htimer]
    trivial
  | requests check =>
    simp only [htimer] at hnext
    split_ifs at hnext with hfree
    obtain rfl := Option.some.inj hnext
    have hnot : ¬ state.cleanup.Holding := by
      rw [← hinv.cleanup_holds, hfree]
      simp
    refine ⟨by simp [hnot], fun _ ↦ rfl, hinv.stored, hinv.faulted, fun hunlocks ↦ ?_⟩
    cases htimer.symm.trans (hinv.joined hunlocks)
  | unlocks check =>
    simp only [htimer] at hnext
    obtain rfl := Option.some.inj hnext
    have hlock : state.lock = some .timer := hinv.timer_holds (by rw [htimer]; trivial)
    have hnot : ¬ state.cleanup.Holding := by
      rw [← hinv.cleanup_holds, hlock]
      simp
    refine ⟨by simp [hnot], fun hsending ↦ ?_, hinv.stored, hinv.faulted, fun hunlocks ↦ ?_⟩
    · exact absurd hsending check.after_not_sending
    · cases htimer.symm.trans (hinv.joined hunlocks)
  | checks check | prepares check | logs | ended | sends check retries | backsOff check retries =>
    simp [htimer] at hnext

/-- A step of the cleanup keeps the invariant. -/
theorem AlertInvariant.cleanup {timerStored : Bool} {state successor : AlertState}
    (hinv : AlertInvariant timerStored state)
    (hnext : bme680IpcCleanup timerStored state = some successor) :
    AlertInvariant timerStored successor := by
  obtain ⟨hcleanup, htimer, hstored, hfaulted, -⟩ := hinv
  unfold bme680IpcCleanup at hnext
  cases hphase : state.cleanup with
  | notCalled =>
    simp only [hphase] at hnext hcleanup
    obtain rfl := Option.some.inj hnext
    exact ⟨hcleanup, htimer, by simp, by simp, by simp⟩
  | requests =>
    simp only [hphase] at hnext
    split_ifs at hnext with hfree
    obtain rfl := Option.some.inj hnext
    refine ⟨by simp [CleanupPhase.Holding], fun hsending ↦ ?_, by simp, by simp, by simp⟩
    cases hfree.symm.trans (htimer hsending)
  | clearsRunning =>
    simp only [hphase] at hnext hcleanup
    cases timerStored with
    | true =>
      obtain rfl := Option.some.inj hnext
      exact ⟨hcleanup, htimer, by simp, by simp, by simp⟩
    | false =>
      obtain rfl := Option.some.inj hnext
      exact ⟨hcleanup, htimer, by simp, by simp, by simp⟩
  | cancels =>
    simp only [hphase] at hnext hcleanup
    obtain rfl := Option.some.inj hnext
    exact ⟨hcleanup, htimer, fun _ ↦ hstored (.inl hphase), by simp, by simp⟩
  | joins =>
    simp only [hphase] at hnext hcleanup
    split_ifs at hnext with hended
    obtain rfl := Option.some.inj hnext
    exact ⟨hcleanup, htimer, by simp, by simp, fun _ ↦ hended⟩
  | unlocks =>
    simp only [hphase] at hnext hcleanup
    obtain rfl := Option.some.inj hnext
    refine ⟨by simp [CleanupPhase.Holding], fun hsending ↦ ?_, by simp, by simp, by simp⟩
    cases (htimer hsending).symm.trans (hcleanup.mpr trivial)
  | returned | faulted => simp [hphase] at hnext

/-- Every step keeps the invariant. -/
theorem AlertInvariant.next {timerStored : Bool} {state successor : AlertState} {label : AlertLabel}
    (hinv : AlertInvariant timerStored state)
    (hnext : alertNext timerStored state label = some successor) :
    AlertInvariant timerStored successor := by
  cases label with
  | check exceeded =>
    simp only [alertNext] at hnext
    split at hnext
    case h_1 check htimer =>
      obtain rfl := Option.some.inj hnext
      refine hinv.move (by simp [htimer]) fun hsending ↦ ?_
      split_ifs at hsending
      · exact hsending.elim
      · exact absurd hsending check.after_not_sending
    case h_2 => cases hnext
  | prepare allocated =>
    simp only [alertNext] at hnext
    split at hnext
    case h_1 check htimer =>
      split_ifs at hnext
      · obtain rfl := Option.some.inj hnext
        exact hinv.move (by simp [htimer]) fun hsending ↦
          absurd hsending check.after_not_sending
      · obtain rfl := Option.some.inj hnext
        exact hinv.move (by simp [htimer]) fun hsending ↦ hsending.elim
    case h_2 => cases hnext
  | send outcome =>
    simp only [alertNext] at hnext
    split at hnext
    case h_1 check retries htimer =>
      have hsending : state.timer.Sending := by
        rw [htimer]
        trivial
      split_ifs at hnext
      · obtain rfl := Option.some.inj hnext
        exact hinv.move_sending hsending
      · cases outcome <;>
          obtain rfl := Option.some.inj hnext <;>
          exact hinv.move_sending hsending
    case h_2 => cases hnext
  | backOff timedOut =>
    simp only [alertNext] at hnext
    split at hnext
    case h_1 check retries htimer =>
      have hsending : state.timer.Sending := by
        rw [htimer]
        trivial
      split_ifs at hnext
      · obtain rfl := Option.some.inj hnext
        exact hinv.move_sending hsending
      · obtain rfl := Option.some.inj hnext
        exact hinv.move_sending hsending
      · cases retries <;>
          obtain rfl := Option.some.inj hnext <;>
          exact hinv.move_sending hsending
    case h_2 => cases hnext
  | log cancellationPoint =>
    simp only [alertNext, Option.ite_none_right_eq_some] at hnext
    obtain ⟨htimer, hnext⟩ := hnext
    obtain rfl := Option.some.inj hnext
    refine hinv.move (by simp [htimer]) fun hsending ↦ ?_
    split_ifs at hsending <;> exact hsending.elim
  | timer => exact hinv.timerTask hnext
  | cleanup => exact hinv.cleanup hnext

/-- The cleanup does not have the lock while the timer thread is on its way to it. -/
def QuietCleanup (timerStored : Bool) (state : AlertState) : Prop :=
  timerStored = true → state.lock = some .cleanup → ¬ state.timer.Alerting

/-- A step of the timer thread to a place that is not on its way to the lock leaves the cleanup
quiet. -/
theorem QuietCleanup.of_not_alerting {timerStored : Bool} {state : AlertState}
    (hnot : ¬ state.timer.Alerting) : QuietCleanup timerStored state :=
  fun _ _ ↦ hnot

/-- A step of the timer thread without the lock leaves the cleanup quiet. -/
theorem QuietCleanup.timerTask {timerStored : Bool} {state successor : AlertState}
    (hnext : timerTask state = some successor) : QuietCleanup timerStored successor := by
  unfold Ipc.timerTask at hnext
  split at hnext
  case h_1 | h_2 | h_6 =>
    obtain rfl := Option.some.inj hnext
    apply QuietCleanup.of_not_alerting
    intro halerting
    split_ifs at halerting <;> exact halerting
  case h_3 check htimer =>
    split_ifs at hnext
    obtain rfl := Option.some.inj hnext
    exact .of_not_alerting check.sending_not_alerting
  case h_4 check htimer =>
    obtain rfl := Option.some.inj hnext
    exact .of_not_alerting id
  case h_5 check htimer =>
    obtain rfl := Option.some.inj hnext
    exact .of_not_alerting check.after_not_alerting
  case h_7 => cases hnext

/-- A step of the cleanup that does not take the lock from under the timer thread leaves it
quiet. -/
theorem QuietCleanup.cleanup {timerStored : Bool} {state successor : AlertState}
    (hquiet : QuietCleanup timerStored state)
    (hallowed : NoAlertBesideCleanup timerStored state .cleanup)
    (hnext : bme680IpcCleanup timerStored state = some successor) :
    QuietCleanup timerStored successor := by
  unfold bme680IpcCleanup at hnext
  split at hnext
  case h_2 hphase =>
    split_ifs at hnext
    obtain rfl := Option.some.inj hnext
    exact fun hstored _ ↦ hallowed hstored hphase
  case h_3 =>
    split_ifs at hnext <;>
      obtain rfl := Option.some.inj hnext <;>
      exact hquiet
  case h_5 =>
    split_ifs at hnext
    obtain rfl := Option.some.inj hnext
    exact hquiet
  case h_6 =>
    obtain rfl := Option.some.inj hnext
    intro _ hlock
    cases hlock
  case h_1 | h_4 =>
    obtain rfl := Option.some.inj hnext
    exact hquiet
  case h_7 | h_8 => cases hnext

/-- Every allowed step leaves the cleanup quiet. -/
theorem QuietCleanup.next {timerStored : Bool} {state successor : AlertState} {label : AlertLabel}
    (hquiet : QuietCleanup timerStored state)
    (hallowed : NoAlertBesideCleanup timerStored state label)
    (hnext : alertNext timerStored state label = some successor) :
    QuietCleanup timerStored successor := by
  cases label with
  | check exceeded =>
    simp only [alertNext] at hnext
    split at hnext
    case h_1 check htimer =>
      obtain rfl := Option.some.inj hnext
      cases exceeded with
      | true => exact fun hstored hlock ↦ absurd hlock (hallowed hstored rfl)
      | false => exact .of_not_alerting check.after_not_alerting
    case h_2 => cases hnext
  | prepare allocated =>
    simp only [alertNext] at hnext
    split at hnext
    case h_1 check htimer =>
      have halerting : state.timer.Alerting := by
        rw [htimer]
        trivial
      split_ifs at hnext <;>
        obtain rfl := Option.some.inj hnext <;>
        exact fun hstored hlock ↦ absurd halerting (hquiet hstored hlock)
    case h_2 => cases hnext
  | send outcome =>
    simp only [alertNext] at hnext
    split at hnext
    case h_1 check retries htimer =>
      split_ifs at hnext
      · obtain rfl := Option.some.inj hnext
        exact .of_not_alerting id
      · cases outcome <;>
          obtain rfl := Option.some.inj hnext <;>
          exact .of_not_alerting id
    case h_2 => cases hnext
  | backOff timedOut =>
    simp only [alertNext] at hnext
    split at hnext
    case h_1 check retries htimer =>
      split_ifs at hnext
      · obtain rfl := Option.some.inj hnext
        exact .of_not_alerting id
      · obtain rfl := Option.some.inj hnext
        exact .of_not_alerting id
      · cases retries <;>
          obtain rfl := Option.some.inj hnext <;>
          exact .of_not_alerting id
    case h_2 => cases hnext
  | log cancellationPoint =>
    simp only [alertNext, Option.ite_none_right_eq_some] at hnext
    obtain ⟨-, hnext⟩ := hnext
    obtain rfl := Option.some.inj hnext
    apply QuietCleanup.of_not_alerting
    intro halerting
    split_ifs at halerting <;> exact halerting
  | timer => exact .timerTask hnext
  | cleanup => exact hquiet.cleanup hallowed hnext

/-- The invariant holds, and the cleanup is quiet, in every run of allowed steps. -/
theorem alertInvariant_reachable {timerStored : Bool} {state : AlertState}
    (hreach : (alertSystem timerStored).ReachableUnder (NoAlertBesideCleanup timerStored) state) :
    AlertInvariant timerStored state ∧ QuietCleanup timerStored state := by
  have hinitial : ∀ start, (alertSystem timerStored).initial start →
      AlertInvariant timerStored start ∧ QuietCleanup timerStored start := by
    rintro start rfl
    refine ⟨⟨by simp [CleanupPhase.Holding], fun hsending ↦ hsending.elim, by simp, by simp,
      by simp⟩, ?_⟩
    exact .of_not_alerting id
  exact hreach.invariant hinitial fun _ _ _ hinv hallowed hnext ↦
    ⟨hinv.1.next hnext, hinv.2.next hallowed hnext⟩

/-- With the lock in the hands of a cleanup that has a timer to join and the timer thread at the
lock, the two come to wait for each other. -/
theorem deadlock_of_request {state : AlertState} {check : ThresholdCheck}
    (hinv : AlertInvariant true state) (hlock : state.lock = some .cleanup)
    (htimer : state.timer = .requests check) :
    ∃ final, (alertSystem true).Continuation (fun _ _ ↦ True) state final ∧
      ¬ NoShutdownDeadlock final := by
  have hholding := hinv.cleanup_holds.mp hlock
  cases hphase : state.cleanup with
  | joins => exact ⟨state, .refl, not_not.mpr ⟨hphase, hlock, check, htimer⟩⟩
  | cancels =>
    have hcancels : alertNext true state .cleanup =
        some { state with cancelled := true, cleanup := .joins } := by
      simp [alertNext, bme680IpcCleanup, hphase]
    refine ⟨_, .tail .refl ⟨.cleanup, trivial, hcancels⟩, not_not.mpr ?_⟩
    exact ⟨rfl, hlock, check, htimer⟩
  | clearsRunning =>
    have hclears : alertNext true state .cleanup =
        some { state with running := false, cleanup := .cancels } := by
      simp [alertNext, bme680IpcCleanup, hphase]
    refine ⟨_, .tail (.tail .refl ⟨.cleanup, trivial, hclears⟩) ⟨.cleanup, trivial, rfl⟩,
      not_not.mpr ?_⟩
    exact ⟨rfl, hlock, check, htimer⟩
  | unlocks => cases htimer.symm.trans (hinv.joined hphase)
  | faulted => cases hinv.faulted hphase
  | notCalled | requests | returned =>
    rw [hphase] at hholding
    exact hholding.elim

/-- With the lock in the hands of a cleanup that has a timer to join and the timer thread on its way
to the lock, the two come to wait for each other. -/
theorem deadlock_of_alerting {state : AlertState} (hinv : AlertInvariant true state)
    (hlock : state.lock = some .cleanup) (halerting : state.timer.Alerting) :
    ∃ final, (alertSystem true).Continuation (fun _ _ ↦ True) state final ∧
      ¬ NoShutdownDeadlock final := by
  unfold TimerPhase.Alerting at halerting
  split at halerting
  case h_1 check htimer =>
    have hprepare : alertNext true state (.prepare true) =
        some { state with timer := .requests check } := by
      simp [alertNext, htimer]
    obtain ⟨final, hmore, hdeadlock⟩ := deadlock_of_request (hinv.next hprepare) hlock rfl
    exact ⟨final, .head ⟨.prepare true, trivial, hprepare⟩ hmore, hdeadlock⟩
  case h_2 check htimer => exact deadlock_of_request hinv hlock htimer
  case h_3 => exact halerting.elim

/-- `bme680_ipc_cleanup` and the timer thread cannot come to wait for each other exactly while no
check finds its threshold exceeded with the lock in the hands of the cleanup, and the cleanup does
not take the lock with the timer thread on its way to it. Where `ipc_data->timer` is null the
cleanup never gets to wait. -/
theorem alert_shutdown_iff (timerStored : Bool) :
    (alertSystem timerStored).ExactFor (NoAlertBesideCleanup timerStored) NoShutdownDeadlock := by
  refine ⟨fun state hreach ↦ ?_, fun state label successor hreach hnot hnext ↦ ?_⟩
  · obtain ⟨hinv, hquiet⟩ := alertInvariant_reachable hreach
    rintro ⟨hjoins, hlock, check, htimer⟩
    refine hquiet (hinv.stored (.inr hjoins)) hlock ?_
    rw [htimer]
    trivial
  · obtain ⟨hinv, -⟩ := alertInvariant_reachable hreach
    have hafter := hinv.next hnext
    cases label with
    | check exceeded =>
      simp only [NoAlertBesideCleanup, Classical.not_imp, not_not] at hnot
      obtain ⟨rfl, rfl, hlock⟩ := hnot
      simp only [alertSystem, alertNext] at hnext
      split at hnext
      case h_1 check htimer =>
        obtain rfl := Option.some.inj hnext
        exact deadlock_of_alerting hafter hlock trivial
      case h_2 => cases hnext
    | cleanup =>
      simp only [NoAlertBesideCleanup, Classical.not_imp, not_not] at hnot
      obtain ⟨rfl, hrequests, halerting⟩ := hnot
      simp only [alertSystem, alertNext, bme680IpcCleanup, hrequests] at hnext
      split_ifs at hnext
      obtain rfl := Option.some.inj hnext
      exact deadlock_of_alerting hafter rfl halerting
    | prepare allocated => exact absurd trivial hnot
    | send outcome => exact absurd trivial hnot
    | backOff timedOut => exact absurd trivial hnot
    | log cancellationPoint => exact absurd trivial hnot
    | timer => exact absurd trivial hnot

/-- The cleanup takes the lock while the callback is at its first check; the temperature is too
high, and the cleanup joins the thread that waits for its lock. -/
theorem alert_shutdown_deadlocks :
    ∃ state, (alertSystem true).Reachable state ∧ ¬ NoShutdownDeadlock state := by
  obtain ⟨final, hrun, hdeadlock⟩ : ∃ final,
      (alertSystem true).run
        { lock := none, running := true, cancelled := false, timer := .testsRunning,
          cleanup := .notCalled }
        [.timer, .timer, .cleanup, .cleanup, .check true, .prepare true, .cleanup, .cleanup] =
          some final ∧ ¬ NoShutdownDeadlock final :=
    ⟨_, rfl, not_not.mpr ⟨rfl, rfl, .temp, rfl⟩⟩
  exact ⟨final, TransitionSystem.reachable_of_run rfl _ hrun, hdeadlock⟩

end Bme680.Ipc
