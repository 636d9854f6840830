import Bme680.SectionOutcome
import Bme680.Concurrency.TransitionSystem

/-!
# The poll thread and the threshold timer

`bme680_poll_thread` reads samples and puts them into `data_fifo`; the callback of
`threshold_timer`, `check_threshold_task`, takes them out, compares them with the thresholds, sends
an alert for each one exceeded, and arms the timer again. The repository has two versions of the
callback: the one of `bme680.c` tries once and arms the timer whatever it finds, the one of
`bme680_ipc.c` tries three times and returns without arming the timer where it finds nothing.

The system is the poll thread and one version of the callback in any interleaving. `data_fifo` is a
bounded queue whose `kfifo_put` stores nothing where it is full, `fifo_sem` a semaphore of one, and
the timer runs its callback when it is pending and the callback is not running. Nothing else here
takes `data->lock`, which the poll thread holds from the read to the completion. Two ghost lists
record the samples the poll thread completed and the samples the callback obtained.

`threshold_timer_kept_iff` says when threshold monitoring goes on for ever: in the version of
`bme680.c` always, in the one of `bme680_ipc.c` exactly while no run of the callback finds the
queue empty at its last try. The callback waits for the semaphore only while the poll thread is at
the queue, so that each of its runs can come to an end (`exists_end_of_callback`).
-/

set_option autoImplicit false
set_option relaxedAutoImplicit false

namespace Bme680.Driver

open Concurrency

/-! ### The samples and their alerts -/

/-- `struct bme680_fifo_data` of the driver. -/
structure FifoSample where
  temp : Int32
  pressure : UInt32
  humidity : UInt32
  gasRes : UInt32
  deriving DecidableEq, Repr

/-- The thresholds of `struct bme680_data`. -/
structure Thresholds where
  temp : UInt32
  press : UInt32
  hum : UInt32
  gas : UInt32
  deriving DecidableEq, Repr

/-- What an alert is about. -/
inductive ThresholdAlert
  | temperature
  | pressure
  | humidity
  | gas
  deriving DecidableEq, Repr

/-- The text of an alert. -/
def ThresholdAlert.message : ThresholdAlert → String
  | .temperature => "Temperature threshold exceeded"
  | .pressure => "Pressure threshold exceeded"
  | .humidity => "Humidity threshold exceeded"
  | .gas => "Gas threshold exceeded"

/-- The alerts can be told apart by their texts. -/
theorem ThresholdAlert.message_injective : Function.Injective ThresholdAlert.message := by
  intro first second hsame
  cases first <;> cases second <;> first | rfl | exact absurd hsame (by decide)

/-- The alerts of a sample, in the order they are sent. The comparison of the temperature, which is
signed, with its threshold converts it to an unsigned word. -/
def thresholdAlerts (thresholds : Thresholds) (sample : FifoSample) : List ThresholdAlert :=
  (if sample.temp.toUInt32 > thresholds.temp then [.temperature] else []) ++
    (if sample.pressure > thresholds.press then [.pressure] else []) ++
    (if sample.humidity > thresholds.hum then [.humidity] else []) ++
    (if sample.gasRes > thresholds.gas then [.gas] else [])

def EMSGSIZE : ℕ := 90

/-- `bme680_netlink_send`, given whether `nlmsg_new` and `nlmsg_put` succeed and what
`netlink_unicast` returns. -/
def bme680NetlinkSend (allocated placed : Bool) (unicast : ℤ) : ℤ :=
  if allocated then if placed then unicast else -EMSGSIZE else -ENOMEM

/-! ### The system -/

/-- The two versions of `check_threshold_task` for a `struct timer_list`: that of `bme680.c` and
that of `bme680_ipc.c`. -/
inductive CheckThresholdVersion
  | core
  | ipc
  deriving DecidableEq, Repr

/-- The tries a version has left after its first one. -/
def CheckThresholdVersion.retries : CheckThresholdVersion → ℕ
  | .core => 0
  | .ipc => 2

/-- Where the poll thread is: at the test of its loop, reading a sample, or about to make the named
call for the sample it has read. -/
inductive PollPhase
  | testsStop
  | reads
  | downs (sample : FifoSample)
  | puts (sample : FifoSample)
  | ups (sample : FifoSample)
  | completes (sample : FifoSample)
  | ended
  deriving DecidableEq, Repr

/-- Where the callback is: not running, about to make the named call with some tries left, sending
the alerts that remain of a sample, or about to arm the timer. -/
inductive TaskPhase
  | idle
  | downs (retries : ℕ)
  | gets (retries : ℕ)
  | ups (retries : ℕ) (found : Option FifoSample)
  | backsOff (retries : ℕ)
  | alerting (remaining : List ThresholdAlert)
  | arms
  deriving DecidableEq, Repr

/-- The fields of `struct bme680_data` that the two share, where the two are, the samples the poll
thread completed, the samples the callback obtained, and the alerts it sent with their return
codes. -/
structure ThresholdState where
  dataFifo : List FifoSample
  fifoSem : ℕ
  errorCount : ℕ
  thresholds : Thresholds
  timerPending : Bool
  poll : PollPhase
  task : TaskPhase
  completed : List FifoSample
  obtained : List FifoSample
  sent : List (ThresholdAlert × ℤ)
  deriving DecidableEq, Repr

/-- The number of samples `data_fifo` holds. -/
def dataFifoSize : ℕ := 1024

/-- `kfifo_put`: nothing is stored in a full queue. -/
def kfifoPut (fifo : List FifoSample) (sample : FifoSample) : List FifoSample :=
  if fifo.length < dataFifoSize then fifo ++ [sample] else fifo

/-- The steps of the poll thread, which learns whether it should stop and what a read gives, and of
the timer and its callback, which learns what a send returns. -/
inductive ThresholdLabel
  | stopTest (stop : Bool)
  | read (result : Option FifoSample)
  | poll
  | expire
  | task
  | send (allocated placed : Bool) (unicast : ℤ)
  deriving DecidableEq, Repr

/-- The next call of the poll thread for a sample. -/
def bme680PollThread (state : ThresholdState) : Option ThresholdState :=
  match state.poll with
  | .downs sample =>
    if 0 < state.fifoSem then
      some { state with fifoSem := state.fifoSem - 1, poll := .puts sample }
    else none
  | .puts sample =>
    some { state with dataFifo := kfifoPut state.dataFifo sample, poll := .ups sample }
  | .ups sample => some { state with fifoSem := state.fifoSem + 1, poll := .completes sample }
  | .completes sample =>
    some { state with completed := state.completed ++ [sample], poll := .testsStop }
  | .testsStop | .reads | .ended => none

/-- The next call of a version of `check_threshold_task`, sending alerts apart. -/
def checkThresholdTask (version : CheckThresholdVersion) (state : ThresholdState) :
    Option ThresholdState :=
  match state.task with
  | .idle => none
  | .downs retries =>
    if 0 < state.fifoSem then
      some { state with fifoSem := state.fifoSem - 1, task := .gets retries }
    else none
  | .gets retries =>
    match state.dataFifo with
    | [] => some { state with task := .ups retries none }
    | sample :: rest =>
      some
        { state with
          dataFifo := rest
          obtained := state.obtained ++ [sample]
          task := .ups retries (some sample) }
  | .ups _ (some sample) =>
    some
      { state with
        fifoSem := state.fifoSem + 1
        task := .alerting (thresholdAlerts state.thresholds sample) }
  | .ups retries none =>
    match version with
    | .core => some { state with fifoSem := state.fifoSem + 1, task := .arms }
    | .ipc => some { state with fifoSem := state.fifoSem + 1, task := .backsOff retries }
  -- the loop of the second version ends with its tries, and nothing was found in the last one
  | .backsOff 0 => some { state with task := .idle }
  | .backsOff (retries + 1) => some { state with task := .downs retries }
  | .alerting [] => some { state with task := .arms }
  | .alerting (_ :: _) => none
  | .arms => some { state with timerPending := true, task := .idle }

/-- One step of the poll thread, the timer and the callback. -/
def thresholdNext (version : CheckThresholdVersion) (state : ThresholdState) :
    ThresholdLabel → Option ThresholdState
  | .stopTest stop =>
    if state.poll = .testsStop then
      some { state with poll := if stop then .ended else .reads }
    else none
  | .read result =>
    if state.poll = .reads then
      match result with
      | some sample => some { state with poll := .downs sample }
      | none => some { state with errorCount := state.errorCount + 1, poll := .testsStop }
    else none
  | .poll => bme680PollThread state
  | .expire =>
    if state.timerPending ∧ state.task = .idle then
      some { state with timerPending := false, task := .downs version.retries }
    else none
  | .task => checkThresholdTask version state
  | .send allocated placed unicast =>
    match state.task with
    | .alerting (alert :: remaining) =>
      some
        { state with
          sent := state.sent ++ [(alert, bme680NetlinkSend allocated placed unicast)]
          task := .alerting remaining }
    | _ => none

/-- The poll thread and a version of the callback, with an empty queue and the timer pending. -/
def thresholdSystem (version : CheckThresholdVersion) :
    TransitionSystem ThresholdState ThresholdLabel where
  initial state :=
    state.dataFifo = [] ∧ state.fifoSem = 1 ∧ state.timerPending = true ∧
      state.poll = .testsStop ∧ state.task = .idle ∧ state.completed = [] ∧ state.obtained = []
  next := thresholdNext version

/-! ### Threshold monitoring goes on -/

/-- The timer is pending or its callback is running. -/
def MonitoringAlive (state : ThresholdState) : Prop :=
  state.timerPending = true ∨ state.task ≠ .idle

/-- A run of the second version does not find the queue empty at its last try. -/
def LastTryFinds : CheckThresholdVersion → ThresholdState → ThresholdLabel → Prop
  | .ipc, state, .task => ¬ (state.task = .gets 0 ∧ state.dataFifo = [])
  | _, _, _ => True

/-- The timer is pending exactly while its callback is not running, and a run that has found nothing
has tries left or is about to arm the timer. -/
structure MonitorInvariant (version : CheckThresholdVersion) (state : ThresholdState) : Prop where
  pending_iff : state.timerPending = true ↔ state.task = .idle
  backsOff : ∀ retries, state.task = .backsOff retries → retries ≠ 0
  missed : ∀ retries, state.task = .ups retries none → version = .ipc → retries ≠ 0

/-- A state of the same timer and callback keeps the invariant. -/
theorem MonitorInvariant.of_same {version : CheckThresholdVersion}
    {state successor : ThresholdState} (hinv : MonitorInvariant version state)
    (htimer : successor.timerPending = state.timerPending) (htask : successor.task = state.task) :
    MonitorInvariant version successor := by
  refine ⟨?_, ?_, ?_⟩
  · rw [htimer, htask]
    exact hinv.pending_iff
  · rw [htask]
    exact hinv.backsOff
  · rw [htask]
    exact hinv.missed

/-- The poll thread leaves the timer and its callback alone. -/
theorem bme680PollThread_frame {state successor : ThresholdState}
    (hnext : bme680PollThread state = some successor) :
    successor.timerPending = state.timerPending ∧ successor.task = state.task ∧
      successor.obtained = state.obtained := by
  unfold bme680PollThread at hnext
  split at hnext
  case h_1 =>
    split_ifs at hnext
    obtain rfl := Option.some.inj hnext
    exact ⟨rfl, rfl, rfl⟩
  all_goals
    first
    | obtain rfl := Option.some.inj hnext
      exact ⟨rfl, rfl, rfl⟩
    | cases hnext

/-- A call of the callback that finds something in its last try keeps the invariant. -/
theorem MonitorInvariant.task {version : CheckThresholdVersion} {state successor : ThresholdState}
    (hinv : MonitorInvariant version state) (hallowed : LastTryFinds version state .task)
    (hnext : checkThresholdTask version state = some successor) :
    MonitorInvariant version successor := by
  have hpending : state.task ≠ .idle → ¬ state.timerPending = true :=
    fun hrunning hpending ↦ hrunning (hinv.pending_iff.mp hpending)
  unfold checkThresholdTask at hnext
  cases htask : state.task with
  | idle => simp [htask] at hnext
  | downs retries =>
    simp only [htask] at hnext
    split_ifs at hnext
    obtain rfl := Option.some.inj hnext
    exact ⟨by simp [hpending, htask], by simp, by simp⟩
  | gets retries =>
    simp only [htask] at hnext
    cases hfifo : state.dataFifo with
    | nil =>
      simp only [hfifo] at hnext
      obtain rfl := Option.some.inj hnext
      refine ⟨by simp [hpending, htask], by simp, ?_⟩
      rintro - ⟨⟩ rfl rfl
      exact hallowed ⟨htask, hfifo⟩
    | cons sample rest =>
      simp only [hfifo] at hnext
      obtain rfl := Option.some.inj hnext
      exact ⟨by simp [hpending, htask], by simp, by simp⟩
  | ups retries found =>
    have hmissed := hinv.missed retries
    cases found with
    | some sample =>
      simp only [htask] at hnext
      obtain rfl := Option.some.inj hnext
      exact ⟨by simp [hpending, htask], by simp, by simp⟩
    | none =>
      cases version with
      | core =>
        simp only [htask] at hnext
        obtain rfl := Option.some.inj hnext
        exact ⟨by simp [hpending, htask], by simp, by simp⟩
      | ipc =>
        simp only [htask] at hnext
        obtain rfl := Option.some.inj hnext
        have htries := hmissed htask rfl
        exact ⟨by simp [hpending, htask], by simp [htries], by simp⟩
  | backsOff retries =>
    have htries := hinv.backsOff retries htask
    cases retries with
    | zero => exact absurd rfl htries
    | succ retries =>
      simp only [htask] at hnext
      obtain rfl := Option.some.inj hnext
      exact ⟨by simp [hpending, htask], by simp, by simp⟩
  | alerting remaining =>
    cases remaining with
    | nil =>
      simp only [htask] at hnext
      obtain rfl := Option.some.inj hnext
      exact ⟨by simp [hpending, htask], by simp, by simp⟩
    | cons alert remaining => simp [htask] at hnext
  | arms =>
    simp only [htask] at hnext
    obtain rfl := Option.some.inj hnext
    exact ⟨by simp, by simp, by simp⟩

/-- Every allowed step keeps the invariant. -/
theorem MonitorInvariant.next {version : CheckThresholdVersion} {state successor : ThresholdState}
    {label : ThresholdLabel} (hinv : MonitorInvariant version state)
    (hallowed : LastTryFinds version state label)
    (hnext : thresholdNext version state label = some successor) :
    MonitorInvariant version successor := by
  cases label with
  | stopTest stop =>
    simp only [thresholdNext, Option.ite_none_right_eq_some] at hnext
    obtain ⟨-, hnext⟩ := hnext
    obtain rfl := Option.some.inj hnext
    exact hinv.of_same rfl rfl
  | read result =>
    simp only [thresholdNext, Option.ite_none_right_eq_some] at hnext
    obtain ⟨-, hnext⟩ := hnext
    cases result with
    | none =>
      obtain rfl := Option.some.inj hnext
      exact hinv.of_same rfl rfl
    | some sample =>
      obtain rfl := Option.some.inj hnext
      exact hinv.of_same rfl rfl
  | poll =>
    obtain ⟨htimer, htask, -⟩ := bme680PollThread_frame hnext
    exact hinv.of_same htimer htask
  | expire =>
    simp only [thresholdNext, Option.ite_none_right_eq_some] at hnext
    obtain ⟨-, hnext⟩ := hnext
    obtain rfl := Option.some.inj hnext
    exact ⟨by simp, by simp, by simp⟩
  | task => exact hinv.task hallowed hnext
  | send allocated placed unicast =>
    simp only [thresholdNext] at hnext
    split at hnext
    case h_1 alert remaining htask =>
      obtain rfl := Option.some.inj hnext
      have hpending := hinv.pending_iff
      simp only [htask, reduceCtorEq, iff_false] at hpending
      exact ⟨by simp [hpending], by simp, by simp⟩
    case h_2 => cases hnext

/-- The invariant holds while no run of the second version finds nothing in its last try. -/
theorem monitorInvariant_reachable {version : CheckThresholdVersion} {state : ThresholdState}
    (hreach : (thresholdSystem version).ReachableUnder (LastTryFinds version) state) :
    MonitorInvariant version state := by
  refine hreach.invariant ?_ fun _ _ _ hinv hallowed hnext ↦ hinv.next hallowed hnext
  rintro start ⟨-, -, hpending, -, htask, -⟩
  exact ⟨by simp [hpending, htask], by simp [htask], by simp [htask]⟩

/-- A run of the second version that finds nothing in its last try returns without arming the
timer. -/
theorem monitoring_ends {state : ThresholdState} (htask : state.task = .ups 0 none)
    (hpending : state.timerPending = false) :
    ∃ final, (thresholdSystem .ipc).Continuation (fun _ _ ↦ True) state final ∧
      ¬ MonitoringAlive final := by
  have hups : thresholdNext .ipc state .task =
      some { state with fifoSem := state.fifoSem + 1, task := .backsOff 0 } := by
    simp [thresholdNext, checkThresholdTask, htask]
  refine ⟨_, .tail (.tail .refl ⟨.task, trivial, hups⟩) ⟨.task, trivial, rfl⟩, ?_⟩
  simp [MonitoringAlive, hpending]

/-! ### A run of the callback ends -/

/-- The poll thread is between `down` and `up`. -/
def PollPhase.inside : PollPhase → ℕ
  | .puts _ | .ups _ => 1
  | .testsStop | .reads | .downs _ | .completes _ | .ended => 0

/-- The callback is between `down` and `up`. -/
def TaskPhase.inside : TaskPhase → ℕ
  | .gets _ | .ups _ _ => 1
  | .idle | .downs _ | .backsOff _ | .alerting _ | .arms => 0

/-- The semaphore is free or taken by one of the two. -/
def SemaphoreExclusive (state : ThresholdState) : Prop :=
  state.fifoSem + state.poll.inside + state.task.inside = 1

/-- A call of the poll thread keeps the semaphore with one of the two. -/
theorem semaphoreExclusive_poll {state successor : ThresholdState}
    (hexclusive : SemaphoreExclusive state)
    (hnext : bme680PollThread state = some successor) : SemaphoreExclusive successor := by
  unfold SemaphoreExclusive at hexclusive ⊢
  unfold bme680PollThread at hnext
  cases hpoll : state.poll with
  | testsStop | reads | ended => simp [hpoll] at hnext
  | downs sample =>
    simp only [hpoll] at hnext
    split_ifs at hnext with hfree
    obtain rfl := Option.some.inj hnext
    simp only [hpoll, PollPhase.inside] at hexclusive ⊢
    omega
  | puts sample | ups sample | completes sample =>
    simp only [hpoll] at hnext
    obtain rfl := Option.some.inj hnext
    simp only [hpoll, PollPhase.inside] at hexclusive ⊢
    omega

/-- A call of the callback keeps the semaphore with one of the two. -/
theorem semaphoreExclusive_task {version : CheckThresholdVersion}
    {state successor : ThresholdState} (hexclusive : SemaphoreExclusive state)
    (hnext : checkThresholdTask version state = some successor) : SemaphoreExclusive successor := by
  unfold SemaphoreExclusive at hexclusive ⊢
  unfold checkThresholdTask at hnext
  split at hnext
  case h_1 | h_9 => cases hnext
  case h_2 retries htask =>
    split_ifs at hnext with hfree
    obtain rfl := Option.some.inj hnext
    simp only [htask, TaskPhase.inside] at hexclusive ⊢
    omega
  case h_3 retries htask =>
    cases hfifo : state.dataFifo with
    | nil | cons sample rest =>
      simp only [hfifo] at hnext
      obtain rfl := Option.some.inj hnext
      simpa only [htask, TaskPhase.inside] using hexclusive
  case h_5 retries htask =>
    cases version with
    | core | ipc =>
      obtain rfl := Option.some.inj hnext
      simp only [htask, TaskPhase.inside] at hexclusive ⊢
      omega
  case h_4 htask | h_6 htask | h_7 htask | h_8 htask | h_10 htask =>
    obtain rfl := Option.some.inj hnext
    simp only [htask, TaskPhase.inside] at hexclusive ⊢
    omega

/-- Every step keeps the semaphore with one of the two. -/
theorem semaphoreExclusive_next {version : CheckThresholdVersion}
    {state successor : ThresholdState} {label : ThresholdLabel}
    (hexclusive : SemaphoreExclusive state)
    (hnext : thresholdNext version state label = some successor) :
    SemaphoreExclusive successor := by
  have hbefore := hexclusive
  unfold SemaphoreExclusive at hexclusive ⊢
  cases label with
  | stopTest stop =>
    simp only [thresholdNext, Option.ite_none_right_eq_some, Option.some.injEq] at hnext
    obtain ⟨hpoll, rfl⟩ := hnext
    cases stop <;> simpa [hpoll, PollPhase.inside] using hexclusive
  | read result =>
    simp only [thresholdNext, Option.ite_none_right_eq_some] at hnext
    obtain ⟨hpoll, hnext⟩ := hnext
    cases result with
    | none | some sample =>
      obtain rfl := Option.some.inj hnext
      simpa only [hpoll, PollPhase.inside] using hexclusive
  | poll => exact semaphoreExclusive_poll hbefore hnext
  | expire =>
    simp only [thresholdNext, Option.ite_none_right_eq_some, Option.some.injEq] at hnext
    obtain ⟨⟨-, hidle⟩, rfl⟩ := hnext
    simpa only [hidle, TaskPhase.inside] using hexclusive
  | task => exact semaphoreExclusive_task hbefore hnext
  | send allocated placed unicast =>
    simp only [thresholdNext] at hnext
    split at hnext
    case h_1 alert remaining htask =>
      obtain rfl := Option.some.inj hnext
      simpa only [htask, TaskPhase.inside] using hexclusive
    case h_2 => cases hnext

theorem semaphoreExclusive_reachable {version : CheckThresholdVersion} {state : ThresholdState}
    (hreach : (thresholdSystem version).Reachable state) : SemaphoreExclusive state := by
  have hstep : ∀ before label after, SemaphoreExclusive before → True →
      thresholdNext version before label = some after → SemaphoreExclusive after :=
    fun _ _ _ hexclusive _ hnext ↦ semaphoreExclusive_next hexclusive hnext
  refine hreach.invariant ?_ hstep
  rintro start ⟨-, hsem, -, hpoll, htask, -⟩
  simp [SemaphoreExclusive, hsem, hpoll, htask, PollPhase.inside, TaskPhase.inside]

/-- The calls the poll thread has left in its iteration, for a thread that is asked to stop. -/
def PollPhase.work : PollPhase → ℕ
  | .ended => 0
  | .testsStop => 1
  | .completes _ => 2
  | .ups _ => 3
  | .puts _ => 4
  | .downs _ => 5
  | .reads => 6

/-- A bound on the calls a run of the callback has left. -/
def TaskPhase.work : TaskPhase → ℕ
  | .idle => 0
  | .arms => 1
  | .alerting remaining => remaining.length + 2
  | .backsOff retries => 10 * retries + 7
  | .ups retries _ => 10 * retries + 8
  | .gets retries => 10 * retries + 9
  | .downs retries => 10 * retries + 10

/-- There are no more than four alerts for a sample. -/
theorem length_thresholdAlerts_le (thresholds : Thresholds) (sample : FifoSample) :
    (thresholdAlerts thresholds sample).length ≤ 4 := by
  unfold thresholdAlerts
  split_ifs <;> simp

/-- Each call of the poll thread lowers its work and leaves that of the callback. -/
theorem bme680PollThread_work {state successor : ThresholdState}
    (hnext : bme680PollThread state = some successor) :
    successor.poll.work < state.poll.work ∧ successor.task = state.task := by
  unfold bme680PollThread at hnext
  cases hpoll : state.poll with
  | testsStop | reads | ended => simp [hpoll] at hnext
  | downs sample =>
    simp only [hpoll] at hnext
    split_ifs at hnext
    obtain rfl := Option.some.inj hnext
    exact ⟨Nat.lt_succ_self _, rfl⟩
  | puts sample | ups sample | completes sample =>
    simp only [hpoll] at hnext
    obtain rfl := Option.some.inj hnext
    exact ⟨Nat.lt_succ_self _, rfl⟩

/-- Each call of the callback lowers its work and leaves that of the poll thread. -/
theorem checkThresholdTask_work {version : CheckThresholdVersion}
    {state successor : ThresholdState}
    (hnext : checkThresholdTask version state = some successor) :
    successor.task.work < state.task.work ∧ successor.poll = state.poll := by
  unfold checkThresholdTask at hnext
  split at hnext
  case h_1 | h_9 => cases hnext
  case h_2 retries htask =>
    split_ifs at hnext
    obtain rfl := Option.some.inj hnext
    simp [htask, TaskPhase.work]
  case h_3 retries htask =>
    cases hfifo : state.dataFifo with
    | nil | cons sample rest =>
      simp only [hfifo] at hnext
      obtain rfl := Option.some.inj hnext
      simp [htask, TaskPhase.work]
  case h_4 retries sample htask =>
    obtain rfl := Option.some.inj hnext
    have hlength := length_thresholdAlerts_le state.thresholds sample
    refine ⟨?_, rfl⟩
    simp only [htask, TaskPhase.work]
    omega
  case h_5 retries htask =>
    cases version with
    | core | ipc =>
      obtain rfl := Option.some.inj hnext
      refine ⟨?_, rfl⟩
      simp only [htask, TaskPhase.work]
      omega
  case h_6 htask | h_7 htask | h_8 htask | h_10 htask =>
    obtain rfl := Option.some.inj hnext
    refine ⟨?_, rfl⟩
    simp only [htask, TaskPhase.work]
    omega

/-- While the callback runs, it can take a step, or waits for a poll thread that can: either lowers
the work left to the two. -/
theorem exists_step_of_running {state : ThresholdState} (version : CheckThresholdVersion)
    (hexclusive : SemaphoreExclusive state) (htask : state.task ≠ .idle) :
    ∃ label, (∀ stop, label ≠ .stopTest stop) ∧ ∃ successor,
      thresholdNext version state label = some successor ∧
        successor.task.work + successor.poll.work < state.task.work + state.poll.work := by
  have hcall : (checkThresholdTask version state).isSome = true →
      ∃ label, (∀ stop, label ≠ .stopTest stop) ∧ ∃ successor,
        thresholdNext version state label = some successor ∧
          successor.task.work + successor.poll.work < state.task.work + state.poll.work := by
    intro hsome
    obtain ⟨successor, hnext⟩ := Option.isSome_iff_exists.mp hsome
    obtain ⟨hless, hpoll⟩ := checkThresholdTask_work hnext
    refine ⟨.task, by simp, successor, hnext, ?_⟩
    rw [hpoll]
    exact Nat.add_lt_add_right hless _
  cases hphase : state.task with
  | idle => exact absurd hphase htask
  | downs retries =>
    rw [← hphase]
    by_cases hfree : 0 < state.fifoSem
    · exact hcall (by simp [checkThresholdTask, hphase, hfree])
    · -- the semaphore is with the poll thread, which can go on to release it
      rw [SemaphoreExclusive] at hexclusive
      have hwaits : (bme680PollThread state).isSome = true := by
        cases hpoll : state.poll with
        | puts sample | ups sample => simp [bme680PollThread, hpoll]
        | testsStop | reads | downs sample | completes sample | ended =>
          simp only [hpoll, hphase, PollPhase.inside, TaskPhase.inside] at hexclusive
          omega
      obtain ⟨successor, hnext⟩ := Option.isSome_iff_exists.mp hwaits
      obtain ⟨hless, hsame⟩ := bme680PollThread_work hnext
      refine ⟨.poll, by simp, successor, hnext, ?_⟩
      rw [hsame]
      exact Nat.add_lt_add_left hless _
  | gets retries =>
    rw [← hphase]
    cases hfifo : state.dataFifo with
    | nil | cons sample rest => exact hcall (by simp [checkThresholdTask, hphase, hfifo])
  | ups retries found =>
    rw [← hphase]
    cases found with
    | some sample => exact hcall (by simp [checkThresholdTask, hphase])
    | none =>
      cases version with
      | core | ipc => exact hcall (by simp [checkThresholdTask, hphase])
  | backsOff retries =>
    rw [← hphase]
    cases retries with
    | zero | succ retries => exact hcall (by simp [checkThresholdTask, hphase])
  | alerting remaining =>
    cases remaining with
    | nil =>
      rw [← hphase]
      exact hcall (by simp [checkThresholdTask, hphase])
    | cons alert remaining =>
      refine ⟨.send true true 0, by simp,
        { state with
          sent := state.sent ++ [(alert, bme680NetlinkSend true true 0)]
          task := .alerting remaining },
        by simp [thresholdNext, hphase], by simp [TaskPhase.work]⟩
  | arms =>
    rw [← hphase]
    exact hcall (by simp [checkThresholdTask, hphase])

/-- From a state of a run of allowed steps, the run of the callback can go on to its end with the
timer pending, unless it comes to a last try that finds the queue empty. -/
theorem exists_end_of_callback (version : CheckThresholdVersion) {state : ThresholdState}
    (hreach : (thresholdSystem version).ReachableUnder (LastTryFinds version) state) :
    ∃ final, (thresholdSystem version).Continuation (LastTryFinds version) state final ∧
      (final.task = .idle ∧ final.timerPending = true ∨ ¬ LastTryFinds version final .task) := by
  -- every step of the callback, and of a poll thread it waits for, lowers the work left to the two
  refine hreach.continues_to (fun other ↦ other.task.work + other.poll.work) ?_
  intro other hother hnot
  obtain ⟨hend, hfinds⟩ := not_or.mp hnot
  have hrunning : other.task ≠ .idle := fun hidle ↦
    hend ⟨hidle, (monitorInvariant_reachable hother).pending_iff.mpr hidle⟩
  obtain ⟨label, -, successor, hnext, hless⟩ := exists_step_of_running version
    (semaphoreExclusive_reachable hother.reachable) hrunning
  refine ⟨label, successor, ?_, hnext, hless⟩
  cases label with
  | task => exact not_not.mp hfinds
  | stopTest stop | read result | poll | expire | send allocated placed unicast =>
    cases version <;> trivial

/-- In the version of `bme680.c` threshold monitoring never stops by itself. In the version of
`bme680_ipc.c` it goes on exactly while no run of the callback finds the queue empty in its last
try: the first such run can be the last one. A run of the callback that has begun can go on to its
end, with the timer pending, unless it comes to such a try. -/
theorem threshold_timer_kept_iff (version : CheckThresholdVersion) :
    (thresholdSystem version).ExactFor (LastTryFinds version) MonitoringAlive ∧
      ∀ state, (thresholdSystem version).ReachableUnder (LastTryFinds version) state →
        ∃ final, (thresholdSystem version).Continuation (LastTryFinds version) state final ∧
          (final.task = .idle ∧ final.timerPending = true ∨
            ¬ LastTryFinds version final .task) := by
  refine ⟨⟨fun state hreach ↦ ?_, fun state label successor hreach hnot hnext ↦ ?_⟩,
    fun state hreach ↦ exists_end_of_callback version hreach⟩
  · have hpending := (monitorInvariant_reachable hreach).pending_iff
    by_cases htask : state.task = .idle
    · exact .inl (hpending.mpr htask)
    · exact .inr htask
  · have hinv := monitorInvariant_reachable hreach
    unfold LastTryFinds at hnot
    split at hnot
    case h_1 =>
      obtain ⟨htask, hfifo⟩ := not_not.mp hnot
      have hpending : state.timerPending = false := by
        simpa [htask] using hinv.pending_iff
      simp only [thresholdSystem, thresholdNext, checkThresholdTask, htask, hfifo] at hnext
      obtain rfl := Option.some.inj hnext
      exact monitoring_ends rfl hpending
    case h_2 => exact absurd trivial hnot

/-- The queue is empty when the timer runs the second version of the callback for the first time.
After three tries the timer is not pending and its callback is not running. -/
theorem threshold_timer_silent :
    ∃ state, (thresholdSystem .ipc).Reachable state ∧ ¬ MonitoringAlive state := by
  obtain ⟨final, hrun, hsilent⟩ : ∃ final,
      (thresholdSystem .ipc).run
        { dataFifo := [], fifoSem := 1, errorCount := 0,
          thresholds := { temp := 0, press := 0, hum := 0, gas := 0 }, timerPending := true,
          poll := .testsStop, task := .idle, completed := [], obtained := [], sent := [] }
        [.expire, .task, .task, .task, .task, .task, .task, .task, .task, .task, .task, .task,
          .task] = some final ∧
        ¬ MonitoringAlive final := by
    refine ⟨_, rfl, ?_⟩
    simp [MonitoringAlive]
  refine ⟨final, TransitionSystem.reachable_of_run ?_ _ hrun, hsilent⟩
  exact ⟨rfl, rfl, rfl, rfl, rfl, rfl, rfl⟩

end Bme680.Driver
