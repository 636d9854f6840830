import Bme680.Driver.ThresholdAlerts
import Bme680.Driver.SampleFlow

/-!
# Removing the driver while it works

`bme680_core_remove` takes `bme680_i2c_lock`, deletes `threshold_timer` with `del_timer_sync`, stops
the poll thread with `kthread_stop`, and gives the lock back. `del_timer_sync` waits for a run of
the callback to end; `kthread_stop` asks the thread to stop and waits for it, and the thread looks
at the request only at the test of its loop. The removal can begin at any moment, in the middle of a
sample or of its alerts.

The function is called by `bme680_spi_remove`, and by `bme680_i2c_remove`, which holds the lock
already. No code of the repository starts the poll thread or arms the timer: the system begins with
the thread running and the timer pending, as they are once something has done so, and no other
callback of the bus drivers takes the lock beside the removal.

`Pipeline` is what the poll thread and the callback keep between them in every run, whether samples
are lost in a full queue or not: one of the two at most is at the queue, the queue has its size, the
samples the callback took and those in the queue are completed ones in the order they were read, and
the alerts sent and to be sent are those of the samples that were taken.
`core_remove_quiesces` adds that a removal of the SPI driver can always come to its end, must do so
once the thread is asked to stop, and leaves neither a thread nor a timer behind that takes another
step, and that one of the I2C driver never gets past the lock.
-/

set_option autoImplicit false
set_option relaxedAutoImplicit false

namespace Bme680.Driver

open Concurrency

/-! ### What the poll thread and the callback keep -/

/-- What was sent and is to be sent stays what was taken, from a state to one that follows it. -/
theorem AlertsFollow.complete {state later : ThresholdState} (hfollow : AlertsFollow state later)
    (halerts : state.alertTrail = state.obtained.flatMap (thresholdAlerts state.thresholds)) :
    later.alertTrail = later.obtained.flatMap (thresholdAlerts later.thresholds) := by
  obtain ⟨taken, hobtained, htrail⟩ := hfollow.taken
  rw [htrail, halerts, hobtained, hfollow.thresholds, List.flatMap_append]

/-- The queue has its size, and the samples taken and those in it are completed or in flight, in
their order. -/
structure QueueKept (state : ThresholdState) : Prop where
  bounded : state.dataFifo.length ≤ dataFifoSize
  flow : (state.obtained ++ state.dataFifo).Sublist (state.completed ++ state.poll.inFlight)

namespace QueueKept

variable {state successor : ThresholdState}

/-- A step that leaves the queue and its lists alone. -/
theorem of_same (hkept : QueueKept state) (hfifo : successor.dataFifo = state.dataFifo)
    (hobtained : successor.obtained = state.obtained)
    (hflow : successor.completed ++ successor.poll.inFlight =
      state.completed ++ state.poll.inFlight) : QueueKept successor := by
  constructor
  · rw [hfifo]
    exact hkept.bounded
  · rw [hfifo, hobtained, hflow]
    exact hkept.flow

/-- Storing a sample, or finding the queue full, keeps the order of the samples. -/
theorem sublist_kfifoPut {obtained completed fifo : List FifoSample}
    (hflow : (obtained ++ fifo).Sublist completed) (sample : FifoSample) :
    (obtained ++ kfifoPut fifo sample).Sublist (completed ++ [sample]) := by
  unfold kfifoPut
  split_ifs
  · rw [← List.append_assoc]
    exact hflow.append (List.Sublist.refl [sample])
  · exact hflow.trans (List.sublist_append_left _ _)

theorem length_kfifoPut_le {fifo : List FifoSample} (hbounded : fifo.length ≤ dataFifoSize)
    (sample : FifoSample) : (kfifoPut fifo sample).length ≤ dataFifoSize := by
  unfold kfifoPut
  split_ifs with hroom
  · rw [List.length_append, List.length_singleton]
    exact hroom
  · exact hbounded

/-- The calls of the poll thread. -/
theorem poll (hkept : QueueKept state) (hnext : bme680PollThread state = some successor) :
    QueueKept successor := by
  unfold bme680PollThread at hnext
  cases hpoll : state.poll with
  | testsStop | reads | ended => simp [hpoll] at hnext
  | downs sample =>
    simp only [hpoll] at hnext
    split_ifs at hnext
    obtain rfl := Option.some.inj hnext
    exact hkept.of_same rfl rfl (by simp [hpoll, PollPhase.inFlight])
  | puts sample =>
    simp only [hpoll] at hnext
    obtain rfl := Option.some.inj hnext
    have hflow := hkept.flow
    rw [hpoll, PollPhase.inFlight, List.append_nil] at hflow
    exact ⟨length_kfifoPut_le hkept.bounded sample, sublist_kfifoPut hflow sample⟩
  | ups sample | completes sample =>
    simp only [hpoll] at hnext
    obtain rfl := Option.some.inj hnext
    exact hkept.of_same rfl rfl (by simp [hpoll, PollPhase.inFlight])

/-- The calls of the callback. -/
theorem task {version : CheckThresholdVersion} (hkept : QueueKept state)
    (hnext : checkThresholdTask version state = some successor) : QueueKept successor := by
  unfold checkThresholdTask at hnext
  split at hnext
  case h_1 | h_9 => cases hnext
  case h_2 retries htask =>
    split_ifs at hnext
    obtain rfl := Option.some.inj hnext
    exact hkept.of_same rfl rfl rfl
  case h_3 retries htask =>
    cases hfifo : state.dataFifo with
    | nil =>
      simp only [hfifo] at hnext
      obtain rfl := Option.some.inj hnext
      exact hkept.of_same hfifo.symm rfl rfl
    | cons sample rest =>
      simp only [hfifo] at hnext
      obtain rfl := Option.some.inj hnext
      have hbounded := hkept.bounded
      rw [hfifo, List.length_cons] at hbounded
      exact ⟨Nat.le_of_succ_le hbounded, by simpa [hfifo] using hkept.flow⟩
  case h_5 retries htask =>
    cases version with
    | core | ipc =>
      obtain rfl := Option.some.inj hnext
      exact hkept.of_same rfl rfl rfl
  case h_4 | h_6 | h_7 | h_8 | h_10 =>
    obtain rfl := Option.some.inj hnext
    exact hkept.of_same rfl rfl rfl

/-- Every step of the poll thread, the timer and the callback. -/
theorem next {version : CheckThresholdVersion} {label : ThresholdLabel} (hkept : QueueKept state)
    (hnext : thresholdNext version state label = some successor) : QueueKept successor := by
  cases label with
  | stopTest stop =>
    simp only [thresholdNext, Option.ite_none_right_eq_some, Option.some.injEq] at hnext
    obtain ⟨hpoll, rfl⟩ := hnext
    refine hkept.of_same rfl rfl ?_
    cases stop <;> simp [hpoll, PollPhase.inFlight]
  | read result =>
    simp only [thresholdNext, Option.ite_none_right_eq_some] at hnext
    obtain ⟨hpoll, hnext⟩ := hnext
    cases result with
    | none | some sample =>
      obtain rfl := Option.some.inj hnext
      exact hkept.of_same rfl rfl (by simp [hpoll, PollPhase.inFlight])
  | poll => exact hkept.poll hnext
  | expire =>
    simp only [thresholdNext, Option.ite_none_right_eq_some, Option.some.injEq] at hnext
    obtain ⟨-, rfl⟩ := hnext
    exact hkept.of_same rfl rfl rfl
  | task => exact hkept.task hnext
  | send allocated placed unicast =>
    simp only [thresholdNext] at hnext
    split at hnext
    · obtain rfl := Option.some.inj hnext
      exact hkept.of_same rfl rfl rfl
    · cases hnext

end QueueKept

/-- The semaphore is free or taken by one of the two, the queue is no longer than it can be, the
samples taken and those in the queue are completed or in flight, in their order, and the alerts are
those of the samples taken. -/
structure Pipeline (state : ThresholdState) : Prop extends QueueKept state where
  exclusive : SemaphoreExclusive state
  alerts : state.alertTrail = state.obtained.flatMap (thresholdAlerts state.thresholds)

/-- Every step of the poll thread, the timer and the callback keeps the four facts. -/
theorem Pipeline.next {version : CheckThresholdVersion} {state successor : ThresholdState}
    {label : ThresholdLabel} (hpipeline : Pipeline state)
    (hnext : thresholdNext version state label = some successor) : Pipeline successor where
  toQueueKept := hpipeline.toQueueKept.next hnext
  exclusive := semaphoreExclusive_next hpipeline.exclusive hnext
  alerts := (thresholdNext_alerts hnext).complete hpipeline.alerts

/-! ### What is left to a thread that is asked to stop -/

/-- While the timer is not pending and the callback not running, they stay so, and each step of a
thread that is asked to stop lowers its work. -/
theorem thresholdNext_quiet {version : CheckThresholdVersion} {state successor : ThresholdState}
    {label : ThresholdLabel} (htimer : state.timerPending = false) (htask : state.task = .idle)
    (hnext : thresholdNext version state label = some successor) :
    successor.timerPending = false ∧ successor.task = .idle ∧
      (label ≠ .stopTest false → successor.poll.work < state.poll.work) := by
  cases label with
  | stopTest stop =>
    simp only [thresholdNext, Option.ite_none_right_eq_some, Option.some.injEq] at hnext
    obtain ⟨hpoll, rfl⟩ := hnext
    refine ⟨htimer, htask, fun hstops ↦ ?_⟩
    cases stop with
    | false => exact absurd rfl hstops
    | true => simp [hpoll, PollPhase.work]
  | read result =>
    simp only [thresholdNext, Option.ite_none_right_eq_some] at hnext
    obtain ⟨hpoll, hnext⟩ := hnext
    cases result with
    | none | some sample =>
      obtain rfl := Option.some.inj hnext
      exact ⟨htimer, htask, fun _ ↦ by simp [hpoll, PollPhase.work]⟩
  | poll =>
    obtain ⟨hsameTimer, hsameTask, -⟩ := bme680PollThread_frame hnext
    exact ⟨hsameTimer.trans htimer, hsameTask.trans htask, fun _ ↦ (bme680PollThread_work hnext).1⟩
  | expire => simp [thresholdNext, htimer] at hnext
  | task => simp [thresholdNext, checkThresholdTask, htask] at hnext
  | send allocated placed unicast => simp [thresholdNext, htask] at hnext

/-- A poll thread that has not ended can take a step where the callback is not at the queue, also
one that is asked to stop. -/
theorem Pipeline.poll_enabled {state : ThresholdState} (version : CheckThresholdVersion)
    (hpipeline : Pipeline state) (htask : state.task.inside = 0) (hpoll : state.poll ≠ .ended) :
    ∃ label, label ≠ .stopTest false ∧ ∃ successor,
      thresholdNext version state label = some successor := by
  have hcall : (bme680PollThread state).isSome = true → ∃ label, label ≠ .stopTest false ∧
      ∃ successor, thresholdNext version state label = some successor := by
    intro hsome
    obtain ⟨successor, hnext⟩ := Option.isSome_iff_exists.mp hsome
    exact ⟨.poll, by simp, successor, hnext⟩
  cases hphase : state.poll with
  | ended => exact absurd hphase hpoll
  | testsStop =>
    exact ⟨.stopTest true, by simp, { state with poll := .ended }, by simp [thresholdNext, hphase]⟩
  | reads =>
    refine ⟨.read none, by simp,
      { state with errorCount := state.errorCount + 1, poll := .testsStop }, ?_⟩
    simp [thresholdNext, hphase]
  | downs sample =>
    have hexclusive := hpipeline.exclusive
    have hfree : 0 < state.fifoSem := by
      simp only [SemaphoreExclusive, hphase, PollPhase.inside, htask] at hexclusive
      omega
    exact hcall (by simp [bme680PollThread, hphase, hfree])
  | puts sample | ups sample | completes sample =>
    exact hcall (by simp [bme680PollThread, hphase])

/-! ### The removal -/

/-- What calls `bme680_core_remove`: `bme680_spi_remove`, or `bme680_i2c_remove`, which has taken
`bme680_i2c_lock`. -/
inductive RemoveCaller
  | spi
  | i2c
  deriving DecidableEq, Repr

/-- Where `bme680_core_remove` is: not called, about to make the named call, waiting for the thread
it has asked to stop, or done. -/
inductive RemovePhase
  | outside
  | locks
  | deletesTimer
  | stopsThread
  | joins
  | unlocks
  | returned
  deriving DecidableEq, Repr

/-- The poll thread and the callback, the request `kthread_should_stop` looks at, whether
`bme680_i2c_lock` is taken, and where the removal is. -/
structure RemovalState where
  monitor : ThresholdState
  shouldStop : Bool
  busLocked : Bool
  phase : RemovePhase
  deriving DecidableEq, Repr

/-- The steps of the removal, and those of the poll thread, the timer and the callback. -/
inductive RemovalLabel
  | remove
  | monitor (label : ThresholdLabel)
  deriving DecidableEq, Repr

/-- The next step of `bme680_core_remove`. Where the callback runs `del_timer_sync` looks again
later, so that it deletes the timer at a moment when the callback does not run. -/
def bme680CoreRemoveNext (caller : RemoveCaller) (state : RemovalState) : Option RemovalState :=
  match state.phase with
  | .outside =>
    match caller with
    | .spi => some { state with phase := .locks }
    | .i2c => some { state with busLocked := true, phase := .locks }
  | .locks =>
    if state.busLocked then none
    else some { state with busLocked := true, phase := .deletesTimer }
  | .deletesTimer =>
    if state.monitor.task = .idle then
      some
        { state with
          monitor := { state.monitor with timerPending := false }
          phase := .stopsThread }
    else none
  | .stopsThread => some { state with shouldStop := true, phase := .joins }
  | .joins =>
    if state.monitor.poll = .ended then some { state with phase := .unlocks } else none
  | .unlocks => some { state with busLocked := false, phase := .returned }
  | .returned => none

/-- The test of the loop finds the request as it is. -/
def RemovalState.heeds (state : RemovalState) : ThresholdLabel → Bool
  | .stopTest stop => stop == state.shouldStop
  | _ => true

/-- One step of the removal or of what it stops. -/
def removalNext (caller : RemoveCaller) (version : CheckThresholdVersion) (state : RemovalState) :
    RemovalLabel → Option RemovalState
  | .remove => bme680CoreRemoveNext caller state
  | .monitor label =>
    if state.heeds label then
      (thresholdNext version state.monitor label).map fun monitor ↦ { state with monitor }
    else none

/-- The driver at work, with its thread running, its timer pending and the bus lock free, and its
removal not called. -/
def removalSystem (caller : RemoveCaller) (version : CheckThresholdVersion) :
    TransitionSystem RemovalState RemovalLabel where
  initial state :=
    (thresholdSystem version).initial state.monitor ∧ state.monitor.sent = [] ∧
      state.shouldStop = false ∧ state.busLocked = false ∧ state.phase = .outside
  next := removalNext caller version

/-- The steps the removal has left. -/
def RemovePhase.rank : RemovePhase → ℕ
  | .outside => 6
  | .locks => 5
  | .deletesTimer => 4
  | .stopsThread => 3
  | .joins => 2
  | .unlocks => 1
  | .returned => 0

/-- The steps left to the removal and to what it stops. -/
def RemovalState.work (state : RemovalState) : ℕ :=
  state.phase.rank + (state.monitor.task.work + state.monitor.poll.work)

/-- The poll thread and the callback keep what they keep; once the timer is deleted it is not
pending and its callback does not run; the thread is asked to stop after that, and has ended when
the removal goes on; the lock is free for the removal of the SPI driver, and taken for that of the
I2C driver, which goes no further. -/
structure RemovalInvariant (caller : RemoveCaller) (state : RemovalState) : Prop where
  pipeline : Pipeline state.monitor
  deleted : state.phase.rank ≤ 3 →
    state.monitor.timerPending = false ∧ state.monitor.task = .idle
  asked_iff : state.shouldStop = true ↔ state.phase.rank ≤ 2
  ended : state.phase.rank ≤ 1 → state.monitor.poll = .ended
  free : caller = .spi → 5 ≤ state.phase.rank → state.busLocked = false
  waits : caller = .i2c → state.phase = .outside ∨ state.phase = .locks ∧ state.busLocked = true

namespace RemovalInvariant

variable {caller : RemoveCaller} {version : CheckThresholdVersion} {state successor : RemovalState}

/-- A step of the monitor is one of its system that heeds the request. -/
theorem monitor_cases {label : ThresholdLabel}
    (hnext : removalNext caller version state (.monitor label) = some successor) :
    state.heeds label = true ∧ ∃ monitor,
      thresholdNext version state.monitor label = some monitor ∧
        successor = { state with monitor } := by
  simp only [removalNext, Option.ite_none_right_eq_some, Option.map_eq_some_iff] at hnext
  obtain ⟨hheeds, monitor, hmonitor, rfl⟩ := hnext
  exact ⟨hheeds, monitor, hmonitor, rfl⟩

/-- A monitor that takes a step keeps the invariant. -/
theorem monitor {label : ThresholdLabel} (hinv : RemovalInvariant caller state)
    (hnext : removalNext caller version state (.monitor label) = some successor) :
    RemovalInvariant caller successor ∧
      (state.shouldStop = true → successor.work < state.work) := by
  obtain ⟨hheeds, monitor, hmonitor, rfl⟩ := monitor_cases hnext
  have hlowers : state.shouldStop = true → monitor.task = .idle ∧
      monitor.poll.work < state.monitor.poll.work := by
    intro hasked
    obtain ⟨htimer, htask⟩ := hinv.deleted (Nat.le_succ_of_le (hinv.asked_iff.mp hasked))
    obtain ⟨-, hidle, hless⟩ := thresholdNext_quiet htimer htask hmonitor
    refine ⟨hidle, hless ?_⟩
    rintro rfl
    simp [RemovalState.heeds, hasked] at hheeds
  refine ⟨⟨hinv.pipeline.next hmonitor, fun hrank ↦ ?_, hinv.asked_iff, fun hrank ↦ ?_, hinv.free,
    hinv.waits⟩, fun hasked ↦ ?_⟩
  · obtain ⟨htimer, htask⟩ := hinv.deleted hrank
    obtain ⟨hpending, hidle, -⟩ := thresholdNext_quiet htimer htask hmonitor
    exact ⟨hpending, hidle⟩
  · -- a thread that has ended takes no step
    have hless := (hlowers (hinv.asked_iff.mpr (Nat.le_succ_of_le hrank))).2
    rw [hinv.ended hrank] at hless
    exact absurd hless (Nat.not_lt_zero _)
  · obtain ⟨hidle, hless⟩ := hlowers hasked
    have htask := (hinv.deleted (Nat.le_succ_of_le (hinv.asked_iff.mp hasked))).2
    simp only [RemovalState.work, htask, hidle]
    exact Nat.add_lt_add_left (Nat.add_lt_add_left hless _) _

/-- A step of the removal keeps the invariant, and lowers the work that is left. -/
theorem remove (hinv : RemovalInvariant caller state)
    (hnext : bme680CoreRemoveNext caller state = some successor) :
    RemovalInvariant caller successor ∧ successor.work < state.work := by
  obtain ⟨hpipeline, hdeleted, hasked, hended, hfree, hwaits⟩ := hinv
  unfold bme680CoreRemoveNext at hnext
  cases hphase : state.phase with
  | outside =>
    simp only [hphase] at hnext hasked
    cases caller with
    | spi | i2c =>
      obtain rfl := Option.some.inj hnext
      refine ⟨⟨hpipeline, ?_, ?_, ?_, ?_, ?_⟩, ?_⟩ <;>
        simp_all [RemovalState.work, RemovePhase.rank]
  | locks =>
    simp only [hphase] at hnext hasked
    split_ifs at hnext with hlocked
    obtain rfl := Option.some.inj hnext
    refine ⟨⟨hpipeline, ?_, ?_, ?_, ?_, ?_⟩, ?_⟩ <;>
      simp_all [RemovalState.work, RemovePhase.rank]
  | deletesTimer =>
    simp only [hphase, Option.ite_none_right_eq_some, Option.some.injEq] at hnext hasked
    obtain ⟨hidle, rfl⟩ := hnext
    refine ⟨⟨⟨⟨hpipeline.bounded, hpipeline.flow⟩, hpipeline.exclusive, hpipeline.alerts⟩,
      fun _ ↦ ⟨rfl, hidle⟩, ?_, ?_, ?_, ?_⟩, ?_⟩ <;>
      simp_all [RemovalState.work, RemovePhase.rank]
  | stopsThread =>
    simp only [hphase] at hnext hdeleted
    obtain rfl := Option.some.inj hnext
    refine ⟨⟨hpipeline, ?_, ?_, ?_, ?_, ?_⟩, ?_⟩ <;>
      simp_all [RemovalState.work, RemovePhase.rank]
  | joins =>
    simp only [hphase, Option.ite_none_right_eq_some, Option.some.injEq] at hnext hdeleted hasked
    obtain ⟨hthread, rfl⟩ := hnext
    refine ⟨⟨hpipeline, ?_, ?_, fun _ ↦ hthread, ?_, ?_⟩, ?_⟩ <;>
      simp_all [RemovalState.work, RemovePhase.rank]
  | unlocks =>
    simp only [hphase] at hnext hdeleted hasked hended
    obtain rfl := Option.some.inj hnext
    refine ⟨⟨hpipeline, ?_, ?_, ?_, ?_, ?_⟩, ?_⟩ <;>
      simp_all [RemovalState.work, RemovePhase.rank]
  | returned => simp [hphase] at hnext

/-- Every step keeps the invariant, and once the thread is asked to stop lowers the work that is
left. -/
theorem next {label : RemovalLabel} (hinv : RemovalInvariant caller state)
    (hnext : removalNext caller version state label = some successor) :
    RemovalInvariant caller successor ∧
      (state.shouldStop = true → successor.work < state.work) := by
  cases label with
  | remove =>
    obtain ⟨hkept, hless⟩ := hinv.remove hnext
    exact ⟨hkept, fun _ ↦ hless⟩
  | monitor label => exact hinv.monitor hnext

/-- No step takes the request back. -/
theorem asked_next {label : RemovalLabel} (hasked : state.shouldStop = true)
    (hnext : removalNext caller version state label = some successor) :
    successor.shouldStop = true := by
  cases label with
  | remove =>
    simp only [removalNext, bme680CoreRemoveNext] at hnext
    grind
  | monitor label =>
    obtain ⟨-, monitor, -, rfl⟩ := monitor_cases hnext
    exact hasked

/-- Once the thread is asked to stop, the removal is that of the SPI driver. -/
theorem spi_of_asked (hinv : RemovalInvariant caller state) (hasked : state.shouldStop = true) :
    caller = .spi := by
  have hrank := hinv.asked_iff.mp hasked
  cases caller with
  | spi => rfl
  | i2c =>
    rcases hinv.waits rfl with hphase | ⟨hphase, -⟩ <;>
      exact absurd (hphase ▸ hrank) (by decide)

end RemovalInvariant

theorem removalInvariant_reachable {caller : RemoveCaller} {version : CheckThresholdVersion}
    {state : RemovalState} (hreach : (removalSystem caller version).Reachable state) :
    RemovalInvariant caller state := by
  refine hreach.invariant ?_ fun _ _ _ hinv _ hnext ↦ (hinv.next hnext).1
  rintro start
    ⟨⟨hfifo, hsem, -, hpoll, htask, hcompleted, hobtained⟩, hsent, hstop, hlocked, hphase⟩
  refine ⟨⟨⟨?_, ?_⟩, ?_, ?_⟩, ?_, ?_, ?_, fun _ _ ↦ hlocked, fun _ ↦ .inl hphase⟩
  · simp [hfifo]
  · simp [hfifo, hobtained]
  · simp [SemaphoreExclusive, hsem, hpoll, htask, PollPhase.inside, TaskPhase.inside]
  · simp [ThresholdState.alertTrail, ThresholdState.pendingAlerts, hsent, htask, hobtained]
  · simp [hphase, RemovePhase.rank]
  · simp [hphase, hstop, RemovePhase.rank]
  · simp [hphase, RemovePhase.rank]

/-- Short of its return some step of the removal of the SPI driver, or of what it waits for, lowers
the work that is left. -/
theorem exists_step_lowers (version : CheckThresholdVersion) {state : RemovalState}
    (hinv : RemovalInvariant .spi state) (hphase : state.phase ≠ .returned) :
    ∃ label successor, removalNext .spi version state label = some successor ∧
      successor.work < state.work := by
  have hremove : (bme680CoreRemoveNext .spi state).isSome = true →
      ∃ label successor, removalNext .spi version state label = some successor ∧
        successor.work < state.work := by
    intro hsome
    obtain ⟨successor, hnext⟩ := Option.isSome_iff_exists.mp hsome
    exact ⟨.remove, successor, hnext, (hinv.remove hnext).2⟩
  cases hat : state.phase with
  | returned => exact absurd hat hphase
  | outside | stopsThread | unlocks => exact hremove (by simp [bme680CoreRemoveNext, hat])
  | locks =>
    have hfree := hinv.free rfl (by simp [hat, RemovePhase.rank])
    exact hremove (by simp [bme680CoreRemoveNext, hat, hfree])
  | deletesTimer =>
    by_cases hidle : state.monitor.task = .idle
    · exact hremove (by simp [bme680CoreRemoveNext, hat, hidle])
    · obtain ⟨label, hlabel, monitor, hnext, hless⟩ :=
        exists_step_of_running version hinv.pipeline.exclusive hidle
      have hheeds : state.heeds label = true := by
        cases label with
        | stopTest stop => exact absurd rfl (hlabel stop)
        | read result | poll | expire | task | send allocated placed unicast => rfl
      refine ⟨.monitor label, { state with monitor }, by simp [removalNext, hheeds, hnext], ?_⟩
      exact Nat.add_lt_add_left hless _
  | joins =>
    by_cases hended : state.monitor.poll = .ended
    · exact hremove (by simp [bme680CoreRemoveNext, hat, hended])
    · have hasked : state.shouldStop = true := hinv.asked_iff.mpr (by simp [hat, RemovePhase.rank])
      have htask := (hinv.deleted (by simp [hat, RemovePhase.rank])).2
      obtain ⟨label, hlabel, monitor, hnext⟩ :=
        hinv.pipeline.poll_enabled version (by rw [htask]; rfl) hended
      have hheeds : state.heeds label = true := by
        cases label with
        | stopTest stop =>
          cases stop with
          | false => exact absurd rfl hlabel
          | true => simp [RemovalState.heeds, hasked]
        | read result | poll | expire | task | send allocated placed unicast => rfl
      have hstep : removalNext .spi version state (.monitor label) =
          some { state with monitor } := by
        simp [removalNext, hheeds, hnext]
      exact ⟨.monitor label, _, hstep, (hinv.monitor hstep).2 hasked⟩

/-- Whenever the removal of a working driver begins, in either version of the callback: what the
poll thread and the callback keep holds throughout; called by the SPI driver the removal can come to
its end, and called by the I2C driver, which holds the lock, it never gets past the lock; once the
thread is asked to stop the removal ends in every run; and when it has returned nothing takes
another step, no sample is in flight, and the messages sent are the alerts of the samples that were
taken, all of them. -/
theorem core_remove_quiesces {caller : RemoveCaller} {version : CheckThresholdVersion}
    {state : RemovalState} (hreach : (removalSystem caller version).Reachable state) :
    Pipeline state.monitor ∧
      (caller = .spi → ∃ final,
        (removalSystem caller version).Continuation (fun _ _ ↦ True) state final ∧
          final.phase = .returned) ∧
      (caller = .i2c → state.phase = .outside ∨
        state.phase = .locks ∧ (removalSystem caller version).next state .remove = none) ∧
      (state.shouldStop = true →
        (removalSystem caller version).Inevitable (fun final ↦ final.phase = .returned) state) ∧
      (state.phase = .returned →
        (∀ label, (removalSystem caller version).next state label = none) ∧
          (state.monitor.obtained ++ state.monitor.dataFifo).Sublist state.monitor.completed ∧
          state.monitor.sent.map Prod.fst =
            state.monitor.obtained.flatMap (thresholdAlerts state.monitor.thresholds)) := by
  have hinv := removalInvariant_reachable hreach
  refine ⟨hinv.pipeline, ?_, fun hcaller ↦ ?_, fun hasked ↦ ?_, fun hphase ↦ ?_⟩
  · rintro rfl
    apply hreach.continues_to RemovalState.work
    intro other hother hnot
    obtain ⟨label, successor, hnext, hless⟩ :=
      exists_step_lowers version (removalInvariant_reachable hother) hnot
    exact ⟨label, successor, trivial, hnext, hless⟩
  · refine (hinv.waits hcaller).imp_right ?_
    rintro ⟨hphase, hlocked⟩
    exact ⟨hphase, by simp [removalSystem, removalNext, bme680CoreRemoveNext, hphase, hlocked]⟩
  · obtain rfl := hinv.spi_of_asked hasked
    refine TransitionSystem.Inevitable.of_measure
      (fun other ↦ RemovalInvariant .spi other ∧ other.shouldStop = true) RemovalState.work ?_ ?_
      ⟨hinv, hasked⟩
    · rintro other ⟨hother, -⟩ hnot
      obtain ⟨label, successor, hnext, -⟩ := exists_step_lowers version hother hnot
      exact ⟨label, successor, hnext⟩
    · rintro other label successor ⟨hother, hstop⟩ hnext
      obtain ⟨hkept, hless⟩ := hother.next hnext
      exact ⟨⟨hkept, RemovalInvariant.asked_next hstop hnext⟩, hless hstop⟩
  · have hrank : state.phase.rank = 0 := by rw [hphase]; rfl
    have hended := hinv.ended (hrank.le.trans (Nat.zero_le 1))
    have hidle := (hinv.deleted (hrank.le.trans (Nat.zero_le 3))).2
    have hasked := hinv.asked_iff.mpr (hrank.le.trans (Nat.zero_le 2))
    refine ⟨fun label ↦ ?_, ?_, ?_⟩
    · -- there is no work left that a step could lower
      have hwork : state.work = 0 := by
        simp [RemovalState.work, hrank, hidle, hended, TaskPhase.work, PollPhase.work]
      refine Option.eq_none_iff_forall_ne_some.mpr fun successor hnext ↦ ?_
      have hless := (hinv.next hnext).2 hasked
      rw [hwork] at hless
      exact Nat.not_lt_zero _ hless
    · have hflow := hinv.pipeline.flow
      rwa [hended, PollPhase.inFlight, List.append_nil] at hflow
    · have halerts := hinv.pipeline.alerts
      rwa [ThresholdState.alertTrail, ThresholdState.pendingAlerts, hidle, List.append_nil]
        at halerts

/-- The removal begins while the callback sends the alerts of a first sample and the poll thread is
at the queue with a second one, which stays in the queue. -/
theorem core_remove_quiesces_mid_sample :
    ∃ state, (removalSystem .spi .core).Reachable state ∧ state.phase = .returned ∧
      state.monitor.dataFifo.length = 1 ∧ state.monitor.sent.length = 1 ∧
      Pipeline state.monitor ∧ ∀ label, (removalSystem .spi .core).next state label = none := by
  let hot : FifoSample := { temp := 9000, pressure := 100000, humidity := 50000, gasRes := 50000 }
  let cool : FifoSample := { temp := 2000, pressure := 100000, humidity := 50000, gasRes := 50000 }
  let thresholds : Thresholds := { temp := 8500, press := 110000, hum := 100000, gas := 100000 }
  obtain ⟨final, hrun, hphase, hfifo, hsent⟩ : ∃ final,
      (removalSystem .spi .core).run
        { monitor :=
            { dataFifo := [], fifoSem := 1, errorCount := 0, thresholds, timerPending := true,
              poll := .testsStop, task := .idle, completed := [], obtained := [], sent := [] }
          shouldStop := false
          busLocked := false
          phase := .outside }
        [.monitor (.stopTest false), .monitor (.read (some hot)), .monitor .poll, .monitor .poll,
          .monitor .poll, .monitor .poll, .monitor .expire, .monitor .task, .monitor .task,
          .monitor .task, .monitor (.stopTest false), .monitor (.read (some cool)),
          .monitor .poll, .remove, .remove, .monitor (.send true true 0), .monitor .poll,
          .monitor .task, .monitor .task, .remove, .monitor .poll, .remove, .monitor .poll,
          .monitor (.stopTest true), .remove, .remove] = some final ∧
        final.phase = .returned ∧ final.monitor.dataFifo.length = 1 ∧
        final.monitor.sent.length = 1 := ⟨_, rfl, rfl, rfl, rfl⟩
  have hreach : (removalSystem .spi .core).Reachable final :=
    TransitionSystem.reachable_of_run
      ⟨⟨rfl, rfl, rfl, rfl, rfl, rfl, rfl⟩, rfl, rfl, rfl, rfl⟩ _ hrun
  obtain ⟨hpipeline, -, -, -, hquiet⟩ := core_remove_quiesces hreach
  exact ⟨final, hreach, hphase, hfifo, hsent, hpipeline, (hquiet hphase).1⟩

end Bme680.Driver
