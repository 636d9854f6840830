import Bme680.FifoData
import Bme680.Concurrency.ResourceLedger
import Bme680.Concurrency.RingBuffer
import Bme680.Monitor.SensorMonitor

/-!
# The tasks of the sampling program

`main` of `1.c` opens the device, a message queue and a semaphore, and gives four tasks the same
`struct task_arg`. `producer_task` reads samples from the device into the monitor,
`consumer_task` reads them out and logs them, `netlink_task` opens a socket and logs the alerts it
receives, and `sysv_msg_task` logs the messages of a System V queue. The first and the third push
`cleanup_handler`, which tests the four handles in order and closes those that look open.

Every call is one step, with the code it returns in the label; a call that blocks returns at a
later step or not at all. The monitor is the bounded queue it refines, seen through the codes its
two functions return. A task can be cancelled at its cancellation points, where it runs the handler
it pushed, and while it runs the handler at the end of its loop, where the handler is no longer
pushed. A logged message counts as a cancellation point; the mutex of the logger is left out, so
the system has the runs in which it was free. A `return` out of `netlink_task` runs no handler.

The calls that act on a handle are listed apart, in `handleAction`, and a ledger of the handles is
kept from it.
-/

set_option autoImplicit false
set_option relaxedAutoImplicit false

namespace Bme680.Tasks

open Concurrency Monitor

/-! ### The arguments of the tasks -/

/-- What the tasks use and `cleanup_handler` closes. -/
inductive Handle
  | devFd
  | nlSock
  | mq
  | sem
  deriving DecidableEq, Repr

/-- The value of `sem_open` where it fails, a null pointer. -/
def SEM_FAILED : ℤ := 0

/-- `struct task_arg` without its message queue identifier and its monitor. -/
structure TaskArg where
  numReads : ℤ
  devFd : ℤ
  nlSock : ℤ
  mq : ℤ
  sem : ℤ
  deriving DecidableEq, Repr

/-- The test `cleanup_handler` makes before it closes a handle. -/
def TaskArg.Holds (targ : TaskArg) : Handle → Prop
  | .devFd => targ.devFd ≥ 0
  | .nlSock => targ.nlSock ≥ 0
  | .mq => targ.mq ≠ -1
  | .sem => targ.sem ≠ SEM_FAILED

instance (targ : TaskArg) : DecidablePred targ.Holds
  | .devFd => inferInstanceAs (Decidable (targ.devFd ≥ 0))
  | .nlSock => inferInstanceAs (Decidable (targ.nlSock ≥ 0))
  | .mq => inferInstanceAs (Decidable (targ.mq ≠ -1))
  | .sem => inferInstanceAs (Decidable (targ.sem ≠ SEM_FAILED))

/-- The handles in the order `cleanup_handler` tests them. -/
def cleanupHandler : List Handle :=
  [.devFd, .nlSock, .mq, .sem]

/-- The handle is a file descriptor, so that closing it is a cancellation point. -/
def Handle.IsDescriptor (handle : Handle) : Prop :=
  handle = .devFd ∨ handle = .nlSock

instance : DecidablePred Handle.IsDescriptor :=
  fun handle ↦ inferInstanceAs (Decidable (handle = .devFd ∨ handle = .nlSock))

/-! ### Positions -/

/-- Where a task is: running, in its cleanup handler with the handles that it has not tested yet,
because it was cancelled or at the end of its loop, or ended. -/
inductive TaskPhase (Position : Type)
  | running (position : Position)
  | cleaning (cancelled : Bool) (remaining : List Handle)
  | ended
  deriving DecidableEq

/-- The calls of `producer_task`, and the test of its loop. -/
inductive ProducerPosition
  | testing
  | reading
  | writing (data : Bme680FifoData)
  | publishing (data : Bme680FifoData)
  | logging (data : Bme680FifoData)
  | sending (data : Bme680FifoData)
  | queueing (data : Bme680FifoData)
  | sleeping
  | testingCancel
  deriving DecidableEq

/-- The calls of `consumer_task`, and the test of its loop. -/
inductive ConsumerPosition
  | testing
  | reading
  | waiting (data : Bme680FifoData)
  | logging (data : Bme680FifoData)
  | posting
  | testingCancel
  deriving DecidableEq

/-- The calls of `netlink_task`, and the test of its loop. -/
inductive NetlinkPosition
  | opening
  | socketFailed
  | binding
  | bindFailed
  | testing
  | receiving
  | logging
  | testingCancel
  deriving DecidableEq, Repr

/-- The calls of `sysv_msg_task`, and the test of its loop. -/
inductive SysvPosition
  | testing
  | receiving
  | logging
  | sleeping
  | testingCancel
  deriving DecidableEq, Repr

/-- The producer is in a call that can be a cancellation point. -/
def ProducerPosition.cancellationPoint : ProducerPosition → Bool
  | .testing | .reading => false
  | .writing _ | .publishing _ | .logging _ | .sending _ | .queueing _ => true
  | .sleeping | .testingCancel => true

/-- The consumer is in a call that can be a cancellation point. -/
def ConsumerPosition.cancellationPoint : ConsumerPosition → Bool
  | .testing | .posting => false
  | .reading | .waiting _ | .logging _ | .testingCancel => true

/-- The netlink task is in a call that can be a cancellation point. -/
def NetlinkPosition.cancellationPoint : NetlinkPosition → Bool
  | .opening | .binding | .testing => false
  | .socketFailed | .bindFailed | .receiving | .logging | .testingCancel => true

/-- The System V task is in a call that can be a cancellation point. -/
def SysvPosition.cancellationPoint : SysvPosition → Bool
  | .testing => false
  | .receiving | .logging | .sleeping | .testingCancel => true

/-! ### The state -/

/-- The four tasks. -/
inductive Task
  | producer
  | consumer
  | netlink
  | sysv
  deriving DecidableEq, Repr

/-- The flag `keep_running`, the arguments of the tasks, the loop counter of the producer, the
records the monitor accepted and delivered, the records the consumer logged, the places of the
tasks, and the ledger of the handles. -/
structure TaskState where
  keepRunning : Bool
  targ : TaskArg
  numReads : ℤ
  history : FifoHistory Bme680FifoData
  logged : List Bme680FifoData
  producer : TaskPhase ProducerPosition
  consumer : TaskPhase ConsumerPosition
  netlink : TaskPhase NetlinkPosition
  sysv : TaskPhase SysvPosition
  ledger : ResourceLedger Handle

/-- A signal that clears `keep_running`, the next step of a task with the code its call returns,
and the cancellation of a task. `data` is what the call leaves in the record it is given. -/
inductive TaskLabel
  | stop
  | producer (ret : ℤ) (data : Bme680FifoData)
  | consumer (ret : ℤ) (data : Bme680FifoData)
  | netlink (ret : ℤ)
  | sysv (ret : ℤ)
  | cancel (task : Task)

/-- The task that takes a step. -/
def TaskLabel.task : TaskLabel → Option Task
  | .stop => none
  | .producer _ _ => some .producer
  | .consumer _ _ => some .consumer
  | .netlink _ => some .netlink
  | .sysv _ => some .sysv
  | .cancel task => some task

/-! ### The calls -/

/-- `bme680_monitor_write` as its caller sees it: a valid record is accepted where the code is
zero. -/
def bme680MonitorWriteReturns (capacity : ℤ) (history : FifoHistory Bme680FifoData)
    (data : Bme680FifoData) (ret : ℤ) : Option (FifoHistory Bme680FifoData) :=
  if ret ≠ 0 then some history
  else if InvalidSensorData data then none
  else fifoNext capacity history (.put data)

/-- `bme680_monitor_read` as its caller sees it: the oldest record is delivered where the code is
zero, and nothing is stored in the caller's record otherwise. -/
def bme680MonitorReadReturns (capacity : ℤ) (history : FifoHistory Bme680FifoData)
    (data : Bme680FifoData) (ret : ℤ) : Option (FifoHistory Bme680FifoData) :=
  if ret ≠ 0 then some history else fifoNext capacity history (.take data)

/-- The test of the loop of `producer_task`, with the counter after it. -/
def producerTest (keepRunning : Bool) (numReads : ℤ) : Bool × ℤ :=
  if keepRunning = false then (false, numReads)
  else if numReads = 0 then (true, numReads)
  else (decide (numReads > 0), numReads - 1)

/-- One step of `producer_task`. -/
def producerTask (capacity : ℤ) (state : TaskState) (ret : ℤ) (data : Bme680FifoData) :
    Option TaskState :=
  match state.producer with
  | .running .testing =>
    let test := producerTest state.keepRunning state.numReads
    some
      { state with
        numReads := test.2
        producer := if test.1 then .running .reading else .cleaning false cleanupHandler }
  | .running .reading =>
    some { state with producer := .running (if ret ≥ 0 then .writing data else .sleeping) }
  | .running (.writing fdata) =>
    (bme680MonitorWriteReturns capacity state.history fdata ret).map fun history ↦
      { state with history := history, producer := .running (.publishing fdata) }
  | .running (.publishing fdata) => some { state with producer := .running (.logging fdata) }
  | .running (.logging fdata) => some { state with producer := .running (.sending fdata) }
  | .running (.sending fdata) => some { state with producer := .running (.queueing fdata) }
  | .running (.queueing _) => some { state with producer := .running .sleeping }
  | .running .sleeping => some { state with producer := .running .testingCancel }
  | .running .testingCancel => some { state with producer := .running .testing }
  | .cleaning _ [] => some { state with producer := .ended }
  | .cleaning cancelled (_ :: remaining) =>
    some { state with producer := .cleaning cancelled remaining }
  | .ended => none

/-- One step of `consumer_task`. The body of its loop runs where `bme680_monitor_read` returns a
code other than zero; the record it logs is then what its own memory holds. -/
def consumerTask (capacity : ℤ) (state : TaskState) (ret : ℤ) (data : Bme680FifoData) :
    Option TaskState :=
  match state.consumer with
  | .running .testing =>
    some { state with consumer := if state.keepRunning then .running .reading else .ended }
  | .running .reading =>
    (bme680MonitorReadReturns capacity state.history data ret).map fun history ↦
      { state with
        history := history
        consumer := .running (if ret ≠ 0 then .waiting data else .testingCancel) }
  | .running (.waiting fdata) => some { state with consumer := .running (.logging fdata) }
  | .running (.logging fdata) =>
    some { state with logged := state.logged ++ [fdata], consumer := .running .posting }
  | .running .posting => some { state with consumer := .running .testingCancel }
  | .running .testingCancel => some { state with consumer := .running .testing }
  | .cleaning _ _ | .ended => none

/-- One step of `netlink_task`. -/
def netlinkTask (state : TaskState) (ret : ℤ) : Option TaskState :=
  match state.netlink with
  | .running .opening =>
    some
      { state with
        targ := { state.targ with nlSock := ret }
        netlink := .running (if ret < 0 then .socketFailed else .binding) }
  | .running .socketFailed => some { state with netlink := .ended }
  | .running .binding =>
    some { state with netlink := .running (if ret < 0 then .bindFailed else .testing) }
  | .running .bindFailed => some { state with netlink := .ended }
  | .running .testing =>
    some
      { state with
        netlink := if state.keepRunning then .running .receiving
          else .cleaning false cleanupHandler }
  | .running .receiving =>
    some { state with netlink := .running (if ret > 0 then .logging else .testingCancel) }
  | .running .logging => some { state with netlink := .running .testingCancel }
  | .running .testingCancel => some { state with netlink := .running .testing }
  | .cleaning _ [] => some { state with netlink := .ended }
  | .cleaning cancelled (_ :: remaining) =>
    some { state with netlink := .cleaning cancelled remaining }
  | .ended => none

/-- One step of `sysv_msg_task`. -/
def sysvMsgTask (state : TaskState) (ret : ℤ) : Option TaskState :=
  match state.sysv with
  | .running .testing =>
    some { state with sysv := if state.keepRunning then .running .receiving else .ended }
  | .running .receiving =>
    some { state with sysv := .running (if ret ≥ 0 then .logging else .sleeping) }
  | .running .logging => some { state with sysv := .running .sleeping }
  | .running .sleeping => some { state with sysv := .running .testingCancel }
  | .running .testingCancel => some { state with sysv := .running .testing }
  | .cleaning _ _ | .ended => none

/-- Where a cancelled task goes that pushed `cleanup_handler`, given its cancellation points. -/
def TaskPhase.cancelHandled {Position : Type} (targ : TaskArg)
    (cancellationPoint : Position → Bool) : TaskPhase Position → Option (TaskPhase Position)
  | .running position =>
    if cancellationPoint position then some (.cleaning true cleanupHandler) else none
  | .cleaning false (handle :: _) =>
    if handle.IsDescriptor ∧ targ.Holds handle then some .ended else none
  | .cleaning false [] | .cleaning true _ | .ended => none

/-- Where a cancelled task goes that pushed no handler, given its cancellation points. -/
def TaskPhase.cancelUnhandled {Position : Type} (cancellationPoint : Position → Bool) :
    TaskPhase Position → Option (TaskPhase Position)
  | .running position => if cancellationPoint position then some .ended else none
  | .cleaning _ _ | .ended => none

/-- A cancelled task without a handler ends. -/
theorem TaskPhase.cancelUnhandled_ended {Position : Type} {cancellationPoint : Position → Bool}
    {before after : TaskPhase Position}
    (hcancel : before.cancelUnhandled cancellationPoint = some after) : after = .ended := by
  unfold TaskPhase.cancelUnhandled at hcancel
  split at hcancel
  · split_ifs at hcancel
    exact (Option.some.inj hcancel).symm
  · cases hcancel
  · cases hcancel

/-- The cancellation of a task. -/
def cancelTask (state : TaskState) : Task → Option TaskState
  | .producer =>
    (state.producer.cancelHandled state.targ ProducerPosition.cancellationPoint).map fun phase ↦
      { state with producer := phase }
  | .consumer =>
    (state.consumer.cancelUnhandled ConsumerPosition.cancellationPoint).map fun phase ↦
      { state with consumer := phase }
  | .netlink =>
    (state.netlink.cancelHandled state.targ NetlinkPosition.cancellationPoint).map fun phase ↦
      { state with netlink := phase }
  | .sysv =>
    (state.sysv.cancelUnhandled SysvPosition.cancellationPoint).map fun phase ↦
      { state with sysv := phase }

/-- The state after a step of the code, where the step is possible. -/
def taskStep (capacity : ℤ) (state : TaskState) : TaskLabel → Option TaskState
  | .stop => some { state with keepRunning := false }
  | .producer ret data => producerTask capacity state ret data
  | .consumer ret data => consumerTask capacity state ret data
  | .netlink ret => netlinkTask state ret
  | .sysv ret => sysvMsgTask state ret
  | .cancel task => cancelTask state task

/-! ### The handles -/

/-- What the next test of `cleanup_handler` does. -/
def cleanupAction {Position : Type} (targ : TaskArg) :
    TaskPhase Position → Option (ResourceAction Handle)
  | .cleaning _ (handle :: _) => if targ.Holds handle then some (.release handle) else none
  | .running _ | .cleaning _ [] | .ended => none

/-- What a step does with a handle: the calls that open or close one, and those that read, send on
or wait on one. -/
def handleAction (state : TaskState) : TaskLabel → Option (ResourceAction Handle)
  | .producer _ _ =>
    match state.producer with
    | .running .reading => some (.use .devFd)
    | .running (.sending _) => some (.use .mq)
    | phase => cleanupAction state.targ phase
  | .consumer _ _ =>
    match state.consumer with
    | .running (.waiting _) => some (.use .sem)
    | _ => none
  | .netlink ret =>
    match state.netlink with
    | .running .opening => if ret < 0 then none else some (.create .nlSock)
    | .running .bindFailed => some (.release .nlSock)
    | .running .receiving => some (.use .nlSock)
    | phase => cleanupAction state.targ phase
  | .stop | .sysv _ | .cancel _ => none

/-- The state after a step of the code, with the ledger of the handles. -/
def taskNext (capacity : ℤ) (state : TaskState) (label : TaskLabel) : Option TaskState :=
  (taskStep capacity state label).map fun successor ↦
    { successor with ledger := state.ledger.perform (handleAction state label).toList }

/-- The tasks as `main` starts them, with a monitor of a capacity. -/
def taskSystem (capacity : ℤ) : TransitionSystem TaskState TaskLabel where
  initial state :=
    state.keepRunning = true ∧
      (state.targ.Holds .devFd ∧ state.targ.nlSock = -1 ∧ state.targ.Holds .mq ∧
        state.targ.Holds .sem) ∧
      state.numReads = state.targ.numReads ∧ state.history = { accepted := [], delivered := [] } ∧
      state.logged = [] ∧ state.producer = .running .testing ∧
      state.consumer = .running .testing ∧ state.netlink = .running .opening ∧
      state.sysv = .running .testing ∧
      state.ledger = ResourceLedger.empty.perform [.create .devFd, .create .mq, .create .sem]
  next := taskNext capacity

/-! ### What a step changes -/

section Effects

variable {capacity : ℤ} {state successor : TaskState} {ret : ℤ} {data : Bme680FifoData}

/-- A step of the producer moves the producer on, and delivers no record of the monitor. -/
theorem producerTask_effect (hstep : producerTask capacity state ret data = some successor) :
    ∃ numReads history phase,
      successor = { state with numReads := numReads, history := history, producer := phase } ∧
        history.delivered = state.history.delivered := by
  unfold producerTask at hstep
  split at hstep
  case h_3 fdata hphase =>
    obtain ⟨history, hwrite, rfl⟩ := Option.map_eq_some_iff.mp hstep
    refine ⟨_, history, _, rfl, ?_⟩
    unfold bme680MonitorWriteReturns at hwrite
    split_ifs at hwrite
    · rw [← Option.some.inj hwrite]
    · simp only [fifoNext, Option.ite_none_right_eq_some, Option.some.injEq] at hwrite
      rw [← hwrite.2]
      rfl
  case h_12 => cases hstep
  all_goals exact ⟨_, _, _, (Option.some.inj hstep).symm, rfl⟩

/-- A step of the consumer moves the consumer on, and changes the monitor and the log. -/
theorem consumerTask_effect (hstep : consumerTask capacity state ret data = some successor) :
    ∃ history logged phase,
      successor = { state with history := history, logged := logged, consumer := phase } := by
  unfold consumerTask at hstep
  split at hstep
  case h_2 =>
    obtain ⟨history, -, rfl⟩ := Option.map_eq_some_iff.mp hstep
    exact ⟨_, _, _, rfl⟩
  case h_7 | h_8 => cases hstep
  all_goals exact ⟨_, _, _, (Option.some.inj hstep).symm⟩

/-- A step of the netlink task moves the netlink task on, and its first one sets the socket. -/
theorem netlinkTask_effect (hstep : netlinkTask state ret = some successor) :
    ∃ targ phase, successor = { state with targ := targ, netlink := phase } ∧
      (state.netlink ≠ .running .opening → targ = state.targ) := by
  unfold netlinkTask at hstep
  split at hstep
  case h_1 hphase =>
    exact ⟨_, _, (Option.some.inj hstep).symm, fun hnot ↦ absurd hphase hnot⟩
  case h_11 => cases hstep
  all_goals exact ⟨_, _, (Option.some.inj hstep).symm, fun _ ↦ rfl⟩

/-- A step of the System V task moves it on. -/
theorem sysvMsgTask_effect (hstep : sysvMsgTask state ret = some successor) :
    ∃ phase, successor = { state with sysv := phase } := by
  unfold sysvMsgTask at hstep
  split at hstep
  case h_6 | h_7 => cases hstep
  all_goals exact ⟨_, (Option.some.inj hstep).symm⟩

end Effects

/-- The tasks started without a bound on the readings. -/
def startedTasks : TaskState where
  keepRunning := true
  targ := { numReads := 0, devFd := 3, nlSock := -1, mq := 4, sem := 1 }
  numReads := 0
  history := { accepted := [], delivered := [] }
  logged := []
  producer := .running .testing
  consumer := .running .testing
  netlink := .running .opening
  sysv := .running .testing
  ledger := ResourceLedger.empty.perform [.create .devFd, .create .mq, .create .sem]

theorem startedTasks_initial (capacity : ℤ) : (taskSystem capacity).initial startedTasks :=
  ⟨rfl, ⟨by decide, rfl, by decide, by decide⟩, rfl, rfl, rfl, rfl, rfl, rfl, rfl, rfl⟩

end Bme680.Tasks
