import Bme680.Tasks.TaskProgram

/-!
# The records the consumer logs

`bme680_monitor_read` returns zero where it delivers a record. `consumer_task` takes any other code
for a delivery: after a read that succeeded it goes back to its loop without a word, and after one
that timed out or was refused it logs what its own memory holds as a record consumed. So the first
read that returns, with whatever code, leads to a log that is not that of the records delivered
(`consumer_logs_iff`).
-/

set_option autoImplicit false
set_option relaxedAutoImplicit false

namespace Bme680.Tasks

open Concurrency

variable {capacity : ℤ} {state successor : TaskState} {label : TaskLabel}

/-! ### The log and the deliveries -/

/-- The consumer is between a read and the log of its record. -/
def TaskState.InBody (state : TaskState) : Prop :=
  match state.consumer with
  | .running (.waiting _) | .running (.logging _) => True
  | _ => False

/-- The records logged as consumed are a prefix of those the monitor accepted and of those it
delivered, and all of the latter while the consumer is not between a read and its log. -/
structure LogsConsumed (state : TaskState) : Prop where
  accepted : state.logged <+: state.history.accepted
  delivered : state.logged <+: state.history.delivered
  once : ¬ state.InBody → state.logged = state.history.delivered

/-- No `bme680_monitor_read` of the consumer returns. -/
def NoReadReturns (state : TaskState) : TaskLabel → Prop
  | .consumer _ _ => state.consumer ≠ .running .reading
  | _ => True

/-- Nothing was delivered or logged yet, and the consumer is on its way to its first read or has
ended. -/
structure BeforeFirstRead (state : TaskState) : Prop where
  delivered : state.history.delivered = []
  logged : state.logged = []
  place : state.consumer = .running .testing ∨ state.consumer = .running .reading ∨
    state.consumer = .ended

/-- Before the first read the log is that of the records delivered. -/
theorem BeforeFirstRead.logsConsumed (hbefore : BeforeFirstRead state) : LogsConsumed state where
  accepted := by
    rw [hbefore.logged]
    exact List.nil_prefix
  delivered := by
    rw [hbefore.logged]
    exact List.nil_prefix
  once := fun _ ↦ hbefore.logged.trans hbefore.delivered.symm

/-- While no read returns, the consumer stays before its first one. -/
theorem BeforeFirstRead.next (hbefore : BeforeFirstRead state)
    (hallowed : NoReadReturns state label)
    (hnext : taskNext capacity state label = some successor) : BeforeFirstRead successor := by
  obtain ⟨stepped, hstep, rfl⟩ := Option.map_eq_some_iff.mp hnext
  obtain ⟨hdelivered, hlogged, hplace⟩ := hbefore
  cases label with
  | stop =>
    obtain rfl := Option.some.inj hstep
    exact ⟨hdelivered, hlogged, hplace⟩
  | producer ret data =>
    obtain ⟨_, _, _, rfl, hsame⟩ := producerTask_effect hstep
    exact ⟨hsame.trans hdelivered, hlogged, hplace⟩
  | netlink ret =>
    obtain ⟨_, _, rfl, -⟩ := netlinkTask_effect hstep
    exact ⟨hdelivered, hlogged, hplace⟩
  | sysv ret =>
    obtain ⟨_, rfl⟩ := sysvMsgTask_effect hstep
    exact ⟨hdelivered, hlogged, hplace⟩
  | consumer ret data =>
    obtain htesting | hreading | hended := hplace
    · simp only [taskStep, consumerTask, htesting] at hstep
      obtain rfl := Option.some.inj hstep
      refine ⟨hdelivered, hlogged, ?_⟩
      dsimp only
      split
      · exact .inr (.inl rfl)
      · exact .inr (.inr rfl)
    · exact absurd hreading hallowed
    · simp only [taskStep, consumerTask, hended] at hstep
      cases hstep
  | cancel task =>
    cases task with
    | consumer =>
      obtain ⟨phase, hcancel, rfl⟩ := Option.map_eq_some_iff.mp hstep
      exact ⟨hdelivered, hlogged, .inr (.inr (TaskPhase.cancelUnhandled_ended hcancel))⟩
    | producer | netlink | sysv =>
      obtain ⟨phase, -, rfl⟩ := Option.map_eq_some_iff.mp hstep
      exact ⟨hdelivered, hlogged, hplace⟩

/-- While no read returned, the consumer is before its first one. -/
theorem beforeFirstRead_reachable
    (hreach : (taskSystem capacity).ReachableUnder NoReadReturns state) :
    BeforeFirstRead state := by
  refine hreach.invariant ?_ fun _ _ _ hbefore hallowed hnext ↦ hbefore.next hallowed hnext
  rintro start ⟨-, -, -, hhistory, hlogged, -, hconsumer, -⟩
  refine ⟨?_, hlogged, .inl hconsumer⟩
  rw [hhistory]

/-! ### The first read -/

/-- A first read that succeeds is not logged. -/
theorem BeforeFirstRead.not_logged (hbefore : BeforeFirstRead state)
    (hreading : state.consumer = .running .reading) {data : Bme680FifoData}
    (hnext : taskNext capacity state (.consumer 0 data) = some successor) :
    ¬ LogsConsumed successor := by
  obtain ⟨stepped, hstep, rfl⟩ := Option.map_eq_some_iff.mp hnext
  simp only [taskStep, consumerTask, hreading] at hstep
  obtain ⟨history, hread, rfl⟩ := Option.map_eq_some_iff.mp hstep
  simp only [bme680MonitorReadReturns, fifoNext, ne_eq, not_true_eq_false, if_false,
    Option.ite_none_right_eq_some, Option.some.injEq] at hread
  obtain ⟨-, rfl⟩ := hread
  intro hlogs
  have honce := hlogs.once (by simp [TaskState.InBody])
  simp [FifoHistory.take, hbefore.delivered, hbefore.logged] at honce

/-- After a first read that fails the consumer comes to log what its memory holds. -/
theorem BeforeFirstRead.logs_stale (hbefore : BeforeFirstRead state)
    (hreading : state.consumer = .running .reading) {ret : ℤ} {data : Bme680FifoData}
    (hret : ret ≠ 0) (hnext : taskNext capacity state (.consumer ret data) = some successor) :
    ∃ final, (taskSystem capacity).Continuation (fun _ _ ↦ True) successor final ∧
      ¬ LogsConsumed final := by
  simp only [taskNext, taskStep, consumerTask, handleAction, hreading, bme680MonitorReadReturns,
    if_pos hret, Option.map_some, Option.toList_none, ResourceLedger.perform_nil] at hnext
  obtain rfl := Option.some.inj hnext
  -- it waits for the semaphore and logs the record
  refine ⟨_, .tail (.tail .refl ⟨.consumer 0 data, trivial, rfl⟩)
    ⟨.consumer 0 data, trivial, rfl⟩, fun hlogs ↦ ?_⟩
  have honce := hlogs.once (by simp [TaskState.InBody])
  simp [hbefore.delivered, hbefore.logged] at honce

/-- The log of the consumer is that of the records delivered to it exactly while no
`bme680_monitor_read` of the consumer returns. -/
theorem consumer_logs_iff (capacity : ℤ) :
    (taskSystem capacity).ExactFor NoReadReturns LogsConsumed := by
  refine ⟨fun state hreach ↦ (beforeFirstRead_reachable hreach).logsConsumed,
    fun state label successor hreach hnot hnext ↦ ?_⟩
  have hbefore := beforeFirstRead_reachable hreach
  cases label with
  | stop | producer | netlink | sysv | cancel => exact absurd trivial hnot
  | consumer ret data =>
    have hreading : state.consumer = .running .reading := not_not.mp hnot
    by_cases hret : ret = 0
    · subst hret
      exact ⟨successor, .refl, hbefore.not_logged hreading hnext⟩
    · exact hbefore.logs_stale hreading hret hnext

/-- The producer stores a sample, and the consumer reads it and logs nothing. -/
theorem delivered_record_not_logged :
    ∃ state, (taskSystem 1).Reachable state ∧ state.history.delivered ≠ [] ∧ state.logged = [] ∧
      ¬ LogsConsumed state := by
  let sample : Bme680FifoData :=
    { temp := 20, pressure := 100000, humidity := 50, gasResistance := 5000 }
  obtain ⟨final, hrun, hdelivered, hlogged, hconsumer⟩ : ∃ final,
      (taskSystem 1).run startedTasks
        [.producer 0 sample, .producer 0 sample, .producer 0 sample, .consumer 0 sample,
          .consumer 0 sample] = some final ∧
        final.history.delivered = [sample] ∧ final.logged = [] ∧
        final.consumer = .running .testingCancel :=
    ⟨_, rfl, rfl, rfl, rfl⟩
  refine ⟨final, TransitionSystem.reachable_of_run (startedTasks_initial 1) _ hrun, ?_,
    hlogged, fun hlogs ↦ ?_⟩
  · simp [hdelivered]
  · have honce := hlogs.once (by simp [TaskState.InBody, hconsumer])
    simp [hdelivered, hlogged] at honce

end Bme680.Tasks
