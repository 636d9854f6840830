import Bme680.Driver.ThresholdMonitor

/-!
# Samples on their way from the poll thread to the threshold check

`bme680_poll_thread` puts a sample into `data_fifo` and then calls `complete`; it does not look at
what `kfifo_put` returns. The callback of `bme680.c` takes samples out without holding
`data->lock`.

`NoSampleVanished` says that the samples obtained are the first ones of those completed and that
the queue holds the others. It fails in two ways, and `no_sample_vanished_iff` shows that there is
no third: a sample put into a full queue is not stored and is completed all the same, and a sample
can be taken out between its `kfifo_put` and its `complete`.
-/

set_option autoImplicit false
set_option relaxedAutoImplicit false

namespace Bme680.Driver

open Concurrency

/-! ### The flow of the samples -/

/-- The samples obtained are the first ones of those completed, and the queue begins with the
others. -/
def NoSampleVanished (state : ThresholdState) : Prop :=
  ∃ rest, state.completed = state.obtained ++ rest ∧ rest <+: state.dataFifo

/-- The sample the poll thread has put into the queue and not completed yet. -/
def PollPhase.inFlight : PollPhase → List FifoSample
  | .ups sample | .completes sample => [sample]
  | .testsStop | .reads | .downs _ | .puts _ | .ended => []

/-- No `kfifo_put` finds the queue full, and no `kfifo_get` finds it with nothing but a sample that
is not completed yet. -/
def KeepsSamples (state : ThresholdState) : ThresholdLabel → Prop
  | .poll => ∀ sample, state.poll = .puts sample → state.dataFifo.length < dataFifoSize
  | .task => ∀ retries, state.task = .gets retries →
      state.poll.inFlight = [] ∨ state.dataFifo ≠ state.poll.inFlight
  | _ => True

/-- Everything completed was obtained or is in the queue, and behind it in the queue is only the
sample in flight. -/
def FlowInvariant (state : ThresholdState) : Prop :=
  ∃ rest, state.completed = state.obtained ++ rest ∧
    state.dataFifo = rest ++ state.poll.inFlight

/-- Nothing has vanished where the invariant holds. -/
theorem FlowInvariant.kept {state : ThresholdState} (hinv : FlowInvariant state) :
    NoSampleVanished state := by
  obtain ⟨rest, hcompleted, hfifo⟩ := hinv
  refine ⟨rest, hcompleted, ?_⟩
  rw [hfifo]
  exact List.prefix_append _ _

/-- More samples completed than were obtained and are in the queue means that one has vanished. -/
theorem vanished_of_length {state : ThresholdState}
    (hmore : state.obtained.length + state.dataFifo.length < state.completed.length) :
    ¬ NoSampleVanished state := by
  rintro ⟨rest, hcompleted, hprefix⟩
  rw [hcompleted, List.length_append] at hmore
  have hlength := hprefix.length_le
  omega

/-- The calls of the poll thread keep the invariant where the queue is not full. -/
theorem FlowInvariant.poll {state successor : ThresholdState} (hinv : FlowInvariant state)
    (hroom : ∀ sample, state.poll = .puts sample → state.dataFifo.length < dataFifoSize)
    (hnext : bme680PollThread state = some successor) : FlowInvariant successor := by
  obtain ⟨rest, hcompleted, hfifo⟩ := hinv
  unfold bme680PollThread at hnext
  cases hpoll : state.poll with
  | testsStop | reads | ended => simp [hpoll] at hnext
  | downs sample =>
    simp only [hpoll] at hnext
    split_ifs at hnext
    obtain rfl := Option.some.inj hnext
    refine ⟨rest, hcompleted, ?_⟩
    simpa [hpoll, PollPhase.inFlight] using hfifo
  | puts sample =>
    simp only [hpoll, kfifoPut, hroom sample hpoll, if_true] at hnext
    obtain rfl := Option.some.inj hnext
    refine ⟨rest, hcompleted, ?_⟩
    simpa [hpoll, PollPhase.inFlight] using hfifo
  | ups sample =>
    simp only [hpoll] at hnext
    obtain rfl := Option.some.inj hnext
    refine ⟨rest, hcompleted, ?_⟩
    simpa [hpoll, PollPhase.inFlight] using hfifo
  | completes sample =>
    simp only [hpoll] at hnext
    obtain rfl := Option.some.inj hnext
    refine ⟨rest ++ [sample], ?_, ?_⟩
    · simp [hcompleted]
    · simpa [hpoll, PollPhase.inFlight] using hfifo

/-- The calls of the callback keep the invariant where the sample taken out is completed. -/
theorem FlowInvariant.task {version : CheckThresholdVersion} {state successor : ThresholdState}
    (hinv : FlowInvariant state)
    (hdone : ∀ retries, state.task = .gets retries →
      state.poll.inFlight = [] ∨ state.dataFifo ≠ state.poll.inFlight)
    (hnext : checkThresholdTask version state = some successor) : FlowInvariant successor := by
  obtain ⟨rest, hcompleted, hfifo⟩ := hinv
  by_cases hgets : ∃ retries, state.task = .gets retries
  · obtain ⟨retries, htask⟩ := hgets
    unfold checkThresholdTask at hnext
    simp only [htask] at hnext
    cases rest with
    | nil =>
      have hempty : state.dataFifo = [] := by
        rcases hdone retries htask with hnone | hsome
        · rw [hfifo, hnone, List.nil_append]
        · exact absurd hfifo hsome
      simp only [hempty] at hnext
      obtain rfl := Option.some.inj hnext
      refine ⟨[], hcompleted, ?_⟩
      simpa [hempty] using hfifo
    | cons sample rest =>
      rw [List.cons_append] at hfifo
      simp only [hfifo] at hnext
      obtain rfl := Option.some.inj hnext
      refine ⟨rest, ?_, rfl⟩
      simp [hcompleted]
  · have hsame : successor.dataFifo = state.dataFifo ∧ successor.poll = state.poll ∧
        successor.completed = state.completed ∧ successor.obtained = state.obtained := by
      unfold checkThresholdTask at hnext
      grind
    obtain ⟨hfifo', hpoll', hcompleted', hobtained'⟩ := hsame
    refine ⟨rest, ?_, ?_⟩
    · rw [hcompleted', hobtained', hcompleted]
    · rw [hfifo', hpoll', hfifo]

/-- Every allowed step keeps the invariant. -/
theorem FlowInvariant.next {version : CheckThresholdVersion} {state successor : ThresholdState}
    {label : ThresholdLabel} (hinv : FlowInvariant state) (hallowed : KeepsSamples state label)
    (hnext : thresholdNext version state label = some successor) : FlowInvariant successor := by
  cases label with
  | stopTest stop =>
    simp only [thresholdNext, Option.ite_none_right_eq_some] at hnext
    obtain ⟨hpoll, hnext⟩ := hnext
    obtain rfl := Option.some.inj hnext
    obtain ⟨rest, hcompleted, hfifo⟩ := hinv
    refine ⟨rest, hcompleted, ?_⟩
    cases stop <;> simpa [hpoll, PollPhase.inFlight] using hfifo
  | read result =>
    simp only [thresholdNext, Option.ite_none_right_eq_some] at hnext
    obtain ⟨hpoll, hnext⟩ := hnext
    obtain ⟨rest, hcompleted, hfifo⟩ := hinv
    cases result <;>
      obtain rfl := Option.some.inj hnext <;>
      exact ⟨rest, hcompleted, by simpa [hpoll, PollPhase.inFlight] using hfifo⟩
  | poll => exact hinv.poll hallowed hnext
  | expire =>
    simp only [thresholdNext, Option.ite_none_right_eq_some] at hnext
    obtain ⟨-, hnext⟩ := hnext
    obtain rfl := Option.some.inj hnext
    exact hinv
  | task => exact hinv.task hallowed hnext
  | send allocated placed unicast =>
    simp only [thresholdNext] at hnext
    split at hnext
    · obtain rfl := Option.some.inj hnext
      exact hinv
    · cases hnext

/-- The invariant holds in every run of allowed steps. -/
theorem flowInvariant_reachable {version : CheckThresholdVersion} {state : ThresholdState}
    (hreach : (thresholdSystem version).ReachableUnder KeepsSamples state) :
    FlowInvariant state := by
  refine hreach.invariant ?_ fun _ _ _ hinv hallowed hnext ↦ hinv.next hallowed hnext
  rintro start ⟨hfifo, -, -, hpoll, -, hcompleted, hobtained⟩
  exact ⟨[], by simp [hcompleted, hobtained], by simp [hfifo, hpoll, PollPhase.inFlight]⟩

/-! ### The two ways a sample vanishes -/

/-- A sample put into a full queue is completed all the same. -/
theorem vanishes_in_full_queue {version : CheckThresholdVersion} {state : ThresholdState}
    {sample : FifoSample} (hpoll : state.poll = .ups sample)
    (hmore : state.obtained.length + state.dataFifo.length ≤ state.completed.length) :
    ∃ final, (thresholdSystem version).Continuation (fun _ _ ↦ True) state final ∧
      ¬ NoSampleVanished final := by
  have hups : thresholdNext version state .poll =
      some { state with fifoSem := state.fifoSem + 1, poll := .completes sample } := by
    simp [thresholdNext, bme680PollThread, hpoll]
  refine ⟨_, .tail (.tail .refl ⟨.poll, trivial, hups⟩) ⟨.poll, trivial, rfl⟩, ?_⟩
  apply vanished_of_length
  simp only [List.length_append, List.length_singleton]
  omega

/-- The samples obtained by the callback of `bme680.c` are the first ones of those completed, and
the queue holds the others, exactly while no `kfifo_put` finds the queue full and no `kfifo_get`
takes out a sample before it is completed. -/
theorem no_sample_vanished_iff (state : ThresholdState) :
    (thresholdSystem .core).ExactAt KeepsSamples NoSampleVanished state := by
  refine ⟨fun hreach ↦ (flowInvariant_reachable hreach).kept,
    fun label successor hreach hnot hnext ↦ ?_⟩
  obtain ⟨rest, hcompleted, hfifo⟩ := flowInvariant_reachable hreach
  cases label with
  | poll =>
    simp only [KeepsSamples, not_forall] at hnot
    obtain ⟨sample, hpoll, hfull⟩ := hnot
    simp only [thresholdSystem, thresholdNext, bme680PollThread, hpoll, kfifoPut, hfull, if_false]
      at hnext
    obtain rfl := Option.some.inj hnext
    refine vanishes_in_full_queue rfl ?_
    simp [hcompleted, hfifo, hpoll, PollPhase.inFlight]
  | task =>
    simp only [KeepsSamples, not_forall, not_or, not_not] at hnot
    obtain ⟨retries, htask, hflight, honly⟩ := hnot
    have hrest : rest = [] := by
      simpa [honly] using hfifo
    cases hpoll : state.dataFifo with
    | nil => exact absurd (honly.symm.trans hpoll) hflight
    | cons sample tail =>
      simp only [thresholdSystem, thresholdNext, checkThresholdTask, htask, hpoll] at hnext
      obtain rfl := Option.some.inj hnext
      refine ⟨_, .refl, ?_⟩
      rintro ⟨others, hsame, -⟩
      simp [hcompleted, hrest] at hsame
  | stopTest stop => exact absurd trivial hnot
  | read result => exact absurd trivial hnot
  | expire => exact absurd trivial hnot
  | send allocated placed unicast => exact absurd trivial hnot

/-- One iteration of the poll thread on its own, with a sample read: the sample is completed
whether or not the queue stores it. -/
theorem poll_iteration {version : CheckThresholdVersion} {state : ThresholdState}
    (sample : FifoSample) (hpoll : state.poll = .testsStop) (hsem : state.fifoSem = 1) :
    (thresholdSystem version).run state
        [.stopTest false, .read (some sample), .poll, .poll, .poll, .poll] =
      some
        { state with
          dataFifo := kfifoPut state.dataFifo sample
          completed := state.completed ++ [sample] } := by
  simp [TransitionSystem.run, thresholdSystem, thresholdNext, bme680PollThread, hpoll, hsem,
    kfifoPut]

/-- A queue of equal samples with room for one more stores it. -/
theorem kfifoPut_replicate {count : ℕ} (hroom : count < dataFifoSize) (sample : FifoSample) :
    kfifoPut (List.replicate count sample) sample = List.replicate (count + 1) sample := by
  rw [kfifoPut, List.length_replicate, if_pos hroom, List.replicate_succ']

/-- The driver before the first sample. -/
def idleDriver : ThresholdState where
  dataFifo := []
  fifoSem := 1
  errorCount := 0
  thresholds := { temp := 0, press := 0, hum := 0, gas := 0 }
  timerPending := true
  poll := .testsStop
  task := .idle
  completed := []
  obtained := []
  sent := []

/-- The poll thread on its own fills the queue. -/
theorem reachable_filled (sample : FifoSample) {count : ℕ} (hcount : count ≤ dataFifoSize) :
    (thresholdSystem .core).Reachable
      { idleDriver with
        dataFifo := List.replicate count sample
        completed := List.replicate count sample } := by
  induction count with
  | zero => exact .initial ⟨rfl, rfl, rfl, rfl, rfl, rfl, rfl⟩
  | succ count ih =>
    have hrun := @poll_iteration .core
      { idleDriver with
        dataFifo := List.replicate count sample
        completed := List.replicate count sample } sample rfl rfl
    rw [kfifoPut_replicate hcount, ← List.replicate_succ'] at hrun
    exact .run _ (fun _ _ _ ↦ trivial) (ih (Nat.le_of_succ_le hcount)) hrun

/-- The callback has not run yet when the poll thread reads its sample number 1025: the full queue
does not store it, and it is completed. -/
theorem sample_vanishes :
    ∃ state, (thresholdSystem .core).Reachable state ∧ state.obtained = [] ∧
      state.dataFifo.length = 1024 ∧ state.completed.length = 1025 ∧
      ¬ NoSampleVanished state := by
  let sample : FifoSample := { temp := 25, pressure := 1013, humidity := 40, gasRes := 50 }
  let full : ThresholdState :=
    { idleDriver with
      dataFifo := List.replicate dataFifoSize sample
      completed := List.replicate dataFifoSize sample }
  have hfull : (thresholdSystem .core).Reachable full := reachable_filled sample le_rfl
  have hrun := @poll_iteration .core full sample rfl rfl
  have hfifo : full.dataFifo.length = dataFifoSize := List.length_replicate
  have hcompleted : (full.completed ++ [sample]).length = dataFifoSize + 1 := by
    rw [List.length_append, List.length_singleton]
    exact congrArg (· + 1) List.length_replicate
  have hstored : kfifoPut full.dataFifo sample = full.dataFifo := if_neg hfifo.not_lt
  rw [hstored] at hrun
  refine ⟨_, .run _ (fun _ _ _ ↦ trivial) hfull hrun, rfl, hfifo, hcompleted, ?_⟩
  apply vanished_of_length
  rw [hfifo, hcompleted]
  exact (Nat.zero_add _).trans_lt (Nat.lt_succ_self _)

end Bme680.Driver
