import Bme680.Concurrency.RingBuffer
import Bme680.Events.EventPair
import Bme680.FifoData
import Mathlib.Logic.Function.Basic

/-!
# The events between the sensor timer and the event loop

In `bme680_app.c` every tick of a timer runs `read_sensor`, which writes a sample to the monitor and
then signals the first event of the event pair. `event_loop` reads a sample from the monitor, waits
for the first event, processes the sample and signals the second event.

Any number of ticks may run at once. The monitor is the bounded queue it refines, the wait for the
semaphore takes a permit or fails, and every call may fail where the source tests or ignores its
code. States count the completed signals of the first event and the waits for it that returned
zero.

The samples are counted in the monitor, but their events share one cell with the event of the other
direction. They stay in step as long as no event is consumed while another one is outstanding
beside it, and no second event is signalled over an outstanding first one (`sample_events_exact`).
-/

set_option autoImplicit false
set_option relaxedAutoImplicit false

namespace Bme680.App

open Concurrency Events

/-! ### Positions -/

/-- Where a run of `read_sensor` is: not running, or before its semaphore wait, its monitor write,
its signal or its semaphore post. -/
inductive TickPhase
  | idle
  | acquiring (data : Bme680FifoData)
  | writing (data : Bme680FifoData)
  | signalling
  | posting
  deriving DecidableEq

/-- Where `event_loop` is: before its monitor read, in `event_pair_wait1`, processing its sample, or
before `event_pair_signal2`. -/
inductive LoopPhase
  | reading
  | waiting (point : WaitPoint)
  | processing
  | signalling
  deriving DecidableEq

/-- The loop after a signal of the first event. -/
def LoopPhase.wake : LoopPhase → LoopPhase
  | .waiting _ => .waiting .testing
  | .reading => .reading
  | .processing => .processing
  | .signalling => .signalling

/-- The application: its event pair, the permits of its semaphore, the history of its monitor, and
where the ticks and the loop are. Of the run so far, the completed signals of the first event and
the waits for it that returned zero. -/
structure SampleState (Tick : Type*) where
  ep : EventPair
  permits : ℤ
  history : FifoHistory Bme680FifoData
  ticks : Tick → TickPhase
  loop : LoopPhase
  signals : ℕ
  waits : ℕ

/-- The steps of a tick, up to and with its sensor read, semaphore wait, monitor write, signal and
semaphore post, and those of the loop: its monitor read, a test of the state in its wait, a spurious
wake-up, the return of its `pthread_cond_timedwait` with an error number, the processing of its
sample, and its signal. `ret` is the code a call returns. -/
inductive SampleLabel (Tick : Type*)
  | sense (tick : Tick) (ret : ℤ) (data : Bme680FifoData)
  | acquire (tick : Tick) (ret : ℤ)
  | write (tick : Tick) (ret : ℤ)
  | signal1 (tick : Tick)
  | post (tick : Tick)
  | read (ret : ℤ) (data : Bme680FifoData)
  | test
  | spurious
  | giveUp (ret : ℕ)
  | process
  | signal2

variable {Tick : Type*} [DecidableEq Tick]

/-- The application after a tick moved. -/
def SampleState.move (state : SampleState Tick) (tick : Tick) (phase : TickPhase) :
    SampleState Tick :=
  { state with ticks := Function.update state.ticks tick phase }

/-- The application at the end of a section of `event_pair_wait1`. The loop goes on to process its
sample whatever code the wait returned. -/
def SampleState.finishWait1 (state : SampleState Tick) :
    EventPair × SectionEnd → SampleState Tick
  | (ep, .sleeps) => { state with ep := ep, loop := .waiting .asleep }
  | (ep, .returns ret) =>
    { state with
      ep := ep
      loop := .processing
      waits := if ret = 0 then state.waits + 1 else state.waits }

/-- The state after a step, where the step is possible, for a monitor of a capacity. -/
def sampleNext (capacity : ℤ) (state : SampleState Tick) :
    SampleLabel Tick → Option (SampleState Tick)
  | .sense tick ret data =>
    match state.ticks tick with
    | .idle => some (if ret = 0 then state.move tick (.acquiring data) else state)
    | _ => none
  | .acquire tick ret =>
    match state.ticks tick with
    | .acquiring data =>
      if ret ≠ 0 then some (state.move tick .idle)
      else if 0 < state.permits then
        some { state.move tick (.writing data) with permits := state.permits - 1 }
      else none
    | _ => none
  | .write tick ret =>
    match state.ticks tick with
    | .writing data =>
      if ret ≠ 0 then some (state.move tick .posting)
      else
        (fifoNext capacity state.history (.put data)).map fun history ↦
          { state.move tick .signalling with history := history }
    | _ => none
  | .signal1 tick =>
    match state.ticks tick with
    | .signalling =>
      some { state.move tick .posting with
        ep := eventPairSignal1 state.ep
        loop := state.loop.wake
        signals := state.signals + 1 }
    | _ => none
  | .post tick =>
    match state.ticks tick with
    | .posting => some { state.move tick .idle with permits := state.permits + 1 }
    | _ => none
  | .read ret data =>
    match state.loop with
    | .reading =>
      if ret ≠ 0 then some state
      else
        (fifoNext capacity state.history (.take data)).map fun history ↦
          { state with history := history, loop := .waiting .testing }
    | _ => none
  | .test =>
    match state.loop with
    | .waiting .testing => some (state.finishWait1 (eventPairWait1 state.ep 0))
    | _ => none
  | .spurious =>
    match state.loop with
    | .waiting .asleep => some { state with loop := .waiting .testing }
    | _ => none
  | .giveUp ret =>
    match state.loop with
    | .waiting .asleep =>
      if ret ≠ 0 then some (state.finishWait1 (eventPairWait1 state.ep ret)) else none
    | _ => none
  | .process =>
    match state.loop with
    | .processing => some { state with loop := .signalling }
    | _ => none
  | .signal2 =>
    match state.loop with
    | .signalling => some { state with ep := eventPairSignal2 state.ep, loop := .reading }
    | _ => none

/-- The application as `main` sets it up: a semaphore with one permit, an idle event pair and an
empty monitor. -/
def sampleSystem (Tick : Type*) [DecidableEq Tick] (capacity : ℤ) :
    TransitionSystem (SampleState Tick) (SampleLabel Tick) where
  initial := fun state ↦ eventPairInit true = .ok state.ep ∧ state.permits = 1 ∧
    state.history = { accepted := [], delivered := [] } ∧ (∀ tick, state.ticks tick = .idle) ∧
    state.loop = .reading ∧ state.signals = 0 ∧ state.waits = 0
  next := sampleNext capacity

/-! ### Events and samples in step -/

/-- While more signals of the first event have completed than waits for it have returned zero, the
event pair holds the first event, and a wait for it would not sleep. -/
structure InStep (state : SampleState Tick) : Prop where
  held : state.waits < state.signals → state.ep.state = 1
  ready : state.waits < state.signals → (eventPairWait1 state.ep 0).2 = .returns 0

/-- The step does not consume the first event while a second signal of it is outstanding, and does
not signal the second event while one is. -/
def OneOutstanding (state : SampleState Tick) : SampleLabel Tick → Prop
  | .test => state.ep.state = 1 → state.signals ≤ state.waits + 1
  | .giveUp ret => ret ≠ ETIMEDOUT → state.ep.state = 1 → state.signals ≤ state.waits + 1
  | .signal2 => state.signals ≤ state.waits
  | _ => True

variable {state successor : SampleState Tick} {capacity : ℤ}

omit [DecidableEq Tick] in
/-- A wait for an event that is held does not sleep. -/
theorem InStep.of_held (hheld : state.waits < state.signals → state.ep.state = 1) :
    InStep state where
  held := hheld
  ready := fun hless ↦ congrArg Prod.snd (eventPairWaitWoken_zero (hheld hless))

omit [DecidableEq Tick] in
/-- A section of the loop's wait stays in step exactly when it does not consume one of several
outstanding events. -/
theorem finishWait1_inStep (hinStep : InStep state) (ret : ℕ) :
    InStep (state.finishWait1 (eventPairWait1 state.ep ret)) ↔
      (ret ≠ ETIMEDOUT → state.ep.state = 1 → state.signals ≤ state.waits + 1) := by
  by_cases hconsumes : ret ≠ ETIMEDOUT ∧ state.ep.state = 1
  · have hzero : eventPairWait1 state.ep ret = ({ state := 0 }, .returns 0) := by
      unfold eventPairWait1 eventPairWaitWoken eventPairWaitLoop
      rw [if_neg hconsumes.1, if_neg (not_not.mpr hconsumes.2)]
    rw [hzero]
    constructor
    · intro hafter _ _
      by_contra hless
      have hheld := hafter.held (not_le.mp hless)
      exact absurd hheld Int.zero_ne_one
    · intro hbound
      refine .of_held fun hless ↦ ?_
      dsimp only [SampleState.finishWait1] at hless
      rw [if_pos rfl] at hless
      exact absurd (hbound hconsumes.1 hconsumes.2) (not_le.mpr hless)
  · refine iff_of_true ?_ fun hret hstate ↦ absurd ⟨hret, hstate⟩ hconsumes
    unfold eventPairWait1
    rcases eventPairWaitWoken_cases 1 state.ep ret with hsleeps | htimeout | ⟨hstate, hzero⟩
    · rw [hsleeps]
      exact .of_held hinStep.held
    · rw [htimeout]
      have hnonzero : (-ETIMEDOUT : ℤ) ≠ 0 := by decide
      refine .of_held fun hless ↦ ?_
      dsimp only [SampleState.finishWait1] at hless
      rw [if_neg hnonzero] at hless
      exact hinStep.held hless
    · -- a wait that consumed the event did not time out
      have hret : ret = ETIMEDOUT := by
        by_contra hret
        exact hconsumes ⟨hret, hstate⟩
      unfold eventPairWaitWoken at hzero
      rw [if_pos hret, Prod.mk.injEq, SectionEnd.returns.injEq] at hzero
      exact absurd hzero.2 (by decide)

/-- What a step does to the event pair and the counts: a signal of the first event, a section of the
loop's wait, a signal of the second event, or nothing. -/
inductive EventEffect (state successor : SampleState Tick) : SampleLabel Tick → Prop
  | signal1 (tick : Tick) (hsignalled : successor.ep = eventPairSignal1 state.ep) :
      EventEffect state successor (.signal1 tick)
  | test (hsection : successor = state.finishWait1 (eventPairWait1 state.ep 0)) :
      EventEffect state successor .test
  | giveUp (ret : ℕ) (hsection : successor = state.finishWait1 (eventPairWait1 state.ep ret)) :
      EventEffect state successor (.giveUp ret)
  | signal2 (hsignalled : successor.ep = eventPairSignal2 state.ep)
      (hsignals : successor.signals = state.signals) (hwaits : successor.waits = state.waits) :
      EventEffect state successor .signal2
  | quiet (label : SampleLabel Tick) (hone : OneOutstanding state label)
      (hep : successor.ep = state.ep) (hsignals : successor.signals = state.signals)
      (hwaits : successor.waits = state.waits) : EventEffect state successor label

/-- Every step has its effect on the event pair and the counts. -/
theorem sampleNext_effect {label : SampleLabel Tick}
    (hnext : sampleNext capacity state label = some successor) :
    EventEffect state successor label := by
  cases label with
  | sense tick ret data =>
    simp only [sampleNext] at hnext
    split at hnext
    · obtain rfl := Option.some.inj hnext
      split_ifs
      · exact .quiet _ trivial rfl rfl rfl
      · exact .quiet _ trivial rfl rfl rfl
    · cases hnext
  | acquire tick ret =>
    simp only [sampleNext] at hnext
    split at hnext
    · split_ifs at hnext
      · obtain rfl := Option.some.inj hnext
        exact .quiet _ trivial rfl rfl rfl
      · obtain rfl := Option.some.inj hnext
        exact .quiet _ trivial rfl rfl rfl
    · cases hnext
  | write tick ret | read ret data =>
    simp only [sampleNext] at hnext
    split at hnext
    · split_ifs at hnext
      · obtain rfl := Option.some.inj hnext
        exact .quiet _ trivial rfl rfl rfl
      · obtain ⟨history, -, rfl⟩ := Option.map_eq_some_iff.mp hnext
        exact .quiet _ trivial rfl rfl rfl
    · cases hnext
  | signal1 tick =>
    simp only [sampleNext] at hnext
    split at hnext
    · obtain rfl := Option.some.inj hnext
      exact .signal1 tick rfl
    · cases hnext
  | test =>
    simp only [sampleNext] at hnext
    split at hnext
    · exact .test (Option.some.inj hnext).symm
    · cases hnext
  | giveUp ret =>
    simp only [sampleNext] at hnext
    split at hnext
    · split_ifs at hnext
      exact .giveUp ret (Option.some.inj hnext).symm
    · cases hnext
  | post | spurious | process =>
    simp only [sampleNext] at hnext
    split at hnext
    · obtain rfl := Option.some.inj hnext
      exact .quiet _ trivial rfl rfl rfl
    · cases hnext
  | signal2 =>
    simp only [sampleNext] at hnext
    split at hnext
    · obtain rfl := Option.some.inj hnext
      exact .signal2 rfl rfl rfl
    · cases hnext

/-- A step stays in step exactly when it leaves at most one signal outstanding. -/
theorem sampleNext_inStep (hinStep : InStep state) {label : SampleLabel Tick}
    (hnext : sampleNext capacity state label = some successor) :
    InStep successor ↔ OneOutstanding state label := by
  cases sampleNext_effect hnext with
  | signal1 tick hsignalled =>
    refine iff_true_intro (.of_held fun _ ↦ ?_)
    rw [hsignalled]
    rfl
  | test hsection =>
    subst hsection
    have hwoken : (0 : ℕ) ≠ ETIMEDOUT := by decide
    exact (finishWait1_inStep hinStep 0).trans ⟨fun hbound ↦ hbound hwoken, fun hbound _ ↦ hbound⟩
  | giveUp ret hsection =>
    subst hsection
    exact finishWait1_inStep hinStep ret
  | signal2 hsignalled hsignals hwaits =>
    constructor
    · intro hafter
      refine not_lt.mp fun hless ↦ ?_
      have hheld := hafter.held (by rwa [hsignals, hwaits])
      rw [hsignalled] at hheld
      have hsecond : (2 : ℤ) ≠ 1 := by decide
      exact hsecond hheld
    · intro hbound
      refine .of_held fun hless ↦ ?_
      rw [hsignals, hwaits] at hless
      exact absurd hbound (not_le.mpr hless)
  | quiet _ hone hep hsignals hwaits =>
    refine iff_of_true (.of_held fun hless ↦ ?_) hone
    rw [hep]
    rw [hsignals, hwaits] at hless
    exact hinStep.held hless

/-- Events and samples stay in step as long as every step leaves at most one signal outstanding, and
fall out of step with the first step that does not. -/
theorem sample_events_exact : (sampleSystem Tick capacity).ExactFor OneOutstanding InStep := by
  refine .of_step_iff (fun start hstart ↦ ?_) fun _ _ _ hbefore hnext ↦
    sampleNext_inStep hbefore hnext
  obtain ⟨-, -, -, -, -, hsignals, -⟩ := hstart
  refine .of_held fun hless ↦ ?_
  rw [hsignals] at hless
  exact absurd hless (Nat.not_lt_zero _)

/-- The application before the first tick of its timer. -/
def beforeTicks : SampleState (Fin 1) where
  ep := { state := 0 }
  permits := 1
  history := { accepted := [], delivered := [] }
  ticks := fun _ ↦ .idle
  loop := .reading
  signals := 0
  waits := 0

/-- A sample in range with a given pressure. -/
def sampleAt (pressure : UInt32) : Bme680FifoData :=
  { temp := 21, pressure := pressure, humidity := 40, gasResistance := 50000 }

/-- The steps of a tick that succeeds. -/
def tickLabels (data : Bme680FifoData) : List (SampleLabel (Fin 1)) :=
  [.sense 0 0 data, .acquire 0 0, .write 0 0, .signal1 0, .post 0]

/-- Two ticks signal before the loop consumes the first event. The event of the second sample is
lost: the loop reads that sample and sleeps in its wait. -/
theorem burst_loses_event :
    ¬ ∀ state, (sampleSystem (Fin 1) 100).Reachable state → InStep state := by
  intro hall
  obtain ⟨final, hrun, hsignals, hwaits, hstate⟩ : ∃ final,
      (sampleSystem (Fin 1) 100).run beforeTicks
        (tickLabels (sampleAt 90000) ++ tickLabels (sampleAt 95000) ++
          [.read 0 (sampleAt 90000), .test, .process, .signal2, .read 0 (sampleAt 95000), .test]) =
        some final ∧
      final.signals = 2 ∧ final.waits = 1 ∧ final.ep.state = 2 :=
    ⟨_, rfl, rfl, rfl, rfl⟩
  have hinStep := hall final
    (TransitionSystem.reachable_of_run ⟨rfl, rfl, rfl, fun _ ↦ rfl, rfl, rfl, rfl⟩ _ hrun)
  have hheld := hinStep.held (by rw [hsignals, hwaits]; exact Nat.one_lt_two)
  rw [hstate] at hheld
  exact absurd hheld (by decide)

end Bme680.App
