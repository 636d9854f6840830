import Bme680.Concurrency.RingBuffer
import Bme680.FifoData

/-!
# The arguments of dispatched tasks

`event_loop` of `bme680_app.c` keeps its sample in one local variable: it reads a sample from the
monitor into it, runs it through the assembly line, collects the result in it and enqueues a task
`process_data` whose argument is the address of the variable. A worker of the pool reads the
variable when it executes the task.

The workers execute the tasks in the order they were enqueued, at any later time. The record on the
assembly line may change at any moment, as its stages and other users of it do. States record what
the variable held at every enqueue that succeeded, and what every execution read.

A task reads its own sample unless the loop has changed the variable since (`task_arguments_exact`).
-/

set_option autoImplicit false
set_option relaxedAutoImplicit false

namespace Bme680.App

open Concurrency

/-- Where the loop is: before its monitor read, in the wait for its event, before handing its sample
to the assembly line, before collecting the result, before enqueueing its task, or before its
signal. -/
inductive DispatchPhase
  | reading
  | waiting
  | handing
  | collecting
  | enqueueing
  | signalling
  deriving DecidableEq, Repr

/-- The loop's variable, the record on the assembly line, the history of the monitor, and where the
loop is. Of the run so far, what the variable held at every successful enqueue, and what every
execution of a task read. -/
structure DispatchState where
  data : Bme680FifoData
  line : Bme680FifoData
  history : FifoHistory Bme680FifoData
  loop : DispatchPhase
  enqueued : List Bme680FifoData
  executed : List Bme680FifoData

/-- The steps: a write of another thread to the monitor, a change of the record on the assembly line
by another thread, the calls of the loop in turn with the codes they return, and the execution of
the next task by a worker. -/
inductive DispatchLabel
  | write (data : Bme680FifoData)
  | work (line : Bme680FifoData)
  | read (ret : ℤ) (data : Bme680FifoData)
  | wait1
  | process
  | getResult
  | enqueue (ret : ℤ)
  | signal2
  | execute

/-- The state after a step, where the step is possible, for a monitor of a capacity. The code
`event_pair_wait1` returns is ignored, and so is that of `thread_pool_enqueue`. -/
def dispatchNext (capacity : ℤ) (state : DispatchState) : DispatchLabel → Option DispatchState
  | .write data =>
    (fifoNext capacity state.history (.put data)).map fun history ↦
      { state with history := history }
  | .work line => some { state with line := line }
  | .read ret data =>
    if state.loop ≠ .reading then none
    else if ret ≠ 0 then some state
    else
      (fifoNext capacity state.history (.take data)).map fun history ↦
        { state with history := history, data := data, loop := .waiting }
  | .wait1 => if state.loop = .waiting then some { state with loop := .handing } else none
  | .process =>
    if state.loop = .handing then some { state with line := state.data, loop := .collecting }
    else none
  | .getResult =>
    if state.loop = .collecting then some { state with data := state.line, loop := .enqueueing }
    else none
  | .enqueue ret =>
    if state.loop ≠ .enqueueing then none
    else if ret ≠ 0 then some { state with loop := .signalling }
    else some { state with loop := .signalling, enqueued := state.enqueued ++ [state.data] }
  | .signal2 => if state.loop = .signalling then some { state with loop := .reading } else none
  | .execute =>
    if state.executed.length < state.enqueued.length then
      some { state with executed := state.executed ++ [state.data] }
    else none

/-- The loop before its first iteration, with an empty monitor and no task. -/
def dispatchSystem (capacity : ℤ) : TransitionSystem DispatchState DispatchLabel where
  initial := fun state ↦ state.history = { accepted := [], delivered := [] } ∧
    state.loop = .reading ∧ state.enqueued = [] ∧ state.executed = []
  next := dispatchNext capacity

/-- The executions so far have read the records that were enqueued first, one each and in order. -/
def OwnSamples (state : DispatchState) : Prop :=
  state.executed <+: state.enqueued

/-- No task waits to be executed. -/
def NoneWaiting (state : DispatchState) : Prop :=
  state.enqueued.length ≤ state.executed.length

/-- The step does not give the loop's variable another content while a task waits to be executed:
neither a read from the monitor nor a collected result does. -/
def KeepsArgument (state : DispatchState) : DispatchLabel → Prop
  | .read ret data => ret = 0 → NoneWaiting state ∨ data = state.data
  | .getResult => NoneWaiting state ∨ state.line = state.data
  | _ => True

/-- The executions have read what was enqueued first, and the variable still holds what was enqueued
for every task that waits. -/
def ArgumentsHeld (state : DispatchState) : Prop :=
  ∃ waiting, state.enqueued = state.executed ++ waiting ∧ ∀ record ∈ waiting, record = state.data

variable {state successor : DispatchState} {capacity : ℤ}

/-- Held arguments are the tasks' own samples. -/
theorem ArgumentsHeld.ownSamples (hheld : ArgumentsHeld state) : OwnSamples state := by
  obtain ⟨waiting, henqueued, -⟩ := hheld
  exact ⟨waiting, henqueued.symm⟩

/-- The variable may change where no task waits, and may be given the content it has. -/
theorem ArgumentsHeld.assign (hheld : ArgumentsHeld state) {data : Bme680FifoData}
    (hallowed : NoneWaiting state ∨ data = state.data) {after : DispatchState}
    (hdata : after.data = data) (henqueued : after.enqueued = state.enqueued)
    (hexecuted : after.executed = state.executed) : ArgumentsHeld after := by
  obtain ⟨waiting, hsplit, hsame⟩ := hheld
  refine ⟨waiting, by rw [henqueued, hexecuted, hsplit], fun record hrecord ↦ ?_⟩
  rw [hdata]
  rcases hallowed with hnone | hdata
  · have hlength := hnone
    rw [NoneWaiting, hsplit, List.length_append] at hlength
    have hnil : waiting = [] := List.eq_nil_of_length_eq_zero (by omega)
    rw [hnil] at hrecord
    exact absurd hrecord List.not_mem_nil
  · rw [hdata]
    exact hsame record hrecord

/-- A step that keeps the arguments keeps them held. -/
theorem dispatchNext_held (hheld : ArgumentsHeld state) {label : DispatchLabel}
    (hallowed : KeepsArgument state label)
    (hnext : dispatchNext capacity state label = some successor) : ArgumentsHeld successor := by
  cases label with
  | write data =>
    obtain ⟨history, -, rfl⟩ := Option.map_eq_some_iff.mp hnext
    exact hheld
  | work line =>
    obtain rfl := Option.some.inj hnext
    exact hheld
  | read ret data =>
    simp only [dispatchNext] at hnext
    split_ifs at hnext with hloop hret
    · obtain rfl := Option.some.inj hnext
      exact hheld
    · obtain ⟨history, -, rfl⟩ := Option.map_eq_some_iff.mp hnext
      exact hheld.assign (hallowed (not_not.mp hret)) rfl rfl rfl
  | wait1 =>
    simp only [dispatchNext, Option.ite_none_right_eq_some, Option.some.injEq] at hnext
    obtain ⟨-, rfl⟩ := hnext
    exact hheld
  | process =>
    simp only [dispatchNext, Option.ite_none_right_eq_some, Option.some.injEq] at hnext
    obtain ⟨-, rfl⟩ := hnext
    exact hheld
  | getResult =>
    simp only [dispatchNext, Option.ite_none_right_eq_some, Option.some.injEq] at hnext
    obtain ⟨-, rfl⟩ := hnext
    exact hheld.assign hallowed rfl rfl rfl
  | enqueue ret =>
    simp only [dispatchNext] at hnext
    split_ifs at hnext with hloop hret
    · obtain rfl := Option.some.inj hnext
      exact hheld
    · obtain rfl := Option.some.inj hnext
      obtain ⟨waiting, hsplit, hsame⟩ := hheld
      refine ⟨waiting ++ [state.data], ?_, fun record hrecord ↦ ?_⟩
      · dsimp only
        rw [hsplit, List.append_assoc]
      · rcases List.mem_append.mp hrecord with hearlier | hlast
        · exact hsame record hearlier
        · exact List.mem_singleton.mp hlast
  | signal2 =>
    simp only [dispatchNext, Option.ite_none_right_eq_some, Option.some.injEq] at hnext
    obtain ⟨-, rfl⟩ := hnext
    exact hheld
  | execute =>
    simp only [dispatchNext, Option.ite_none_right_eq_some, Option.some.injEq] at hnext
    obtain ⟨hmore, rfl⟩ := hnext
    obtain ⟨waiting, hsplit, hsame⟩ := hheld
    cases waiting with
    | nil =>
      rw [hsplit, List.append_nil] at hmore
      exact absurd hmore (lt_irrefl _)
    | cons record rest =>
      refine ⟨rest, ?_, fun other hother ↦ hsame other (List.mem_cons_of_mem _ hother)⟩
      dsimp only
      rw [hsplit, ← hsame record List.mem_cons_self, List.append_assoc, List.singleton_append]

/-- In a run that keeps the arguments they are held. -/
theorem argumentsHeld_reachable
    (hreach : (dispatchSystem capacity).ReachableUnder KeepsArgument state) :
    ArgumentsHeld state := by
  have hinitial : ∀ start, (dispatchSystem capacity).initial start → ArgumentsHeld start := by
    rintro start ⟨-, -, henqueued, hexecuted⟩
    refine ⟨[], ?_, fun record hrecord ↦ absurd hrecord List.not_mem_nil⟩
    rw [henqueued, hexecuted, List.append_nil]
  exact hreach.invariant hinitial fun _ _ _ hbefore hallowed hnext ↦
    dispatchNext_held hbefore hallowed hnext

/-- A task that waits while the variable gets another content reads that content. -/
theorem reads_other_sample (hheld : ArgumentsHeld state) {data : Bme680FifoData}
    (hnot : ¬ (NoneWaiting state ∨ data = state.data)) (hdata : successor.data = data)
    (henqueued : successor.enqueued = state.enqueued)
    (hexecuted : successor.executed = state.executed) :
    ∃ final, (dispatchSystem capacity).Continuation (fun _ _ ↦ True) successor final ∧
      ¬ OwnSamples final := by
  obtain ⟨hwaits, hother⟩ := not_or.mp hnot
  obtain ⟨waiting, hsplit, hsame⟩ := hheld
  have hmore : successor.executed.length < successor.enqueued.length := by
    rw [henqueued, hexecuted]
    exact not_le.mp hwaits
  refine ⟨_, .single ⟨.execute, trivial, if_pos hmore⟩, fun hown ↦ hother ?_⟩
  cases waiting with
  | nil =>
    rw [NoneWaiting, hsplit, List.append_nil] at hwaits
    exact absurd le_rfl hwaits
  | cons record rest =>
    have hprefix : state.executed ++ [data] <+: state.executed ++ record :: rest := by
      rw [← hsplit, ← hdata, ← hexecuted, ← henqueued]
      exact hown
    have hhead := (List.prefix_append_right_inj _).mp hprefix
    rw [List.cons_prefix_cons] at hhead
    exact hhead.1.trans (hsame record List.mem_cons_self)

/-- Every execution of a task reads the record that was enqueued for it, as long as the loop does
not change its variable while a task waits; from the first step that changes it then, the next
execution reads another record. -/
theorem task_arguments_exact :
    (dispatchSystem capacity).ExactFor KeepsArgument OwnSamples where
  kept := fun _ hreach ↦ (argumentsHeld_reachable hreach).ownSamples
  broken := fun state label successor hreach hchanges hnext ↦ by
    have hheld := argumentsHeld_reachable hreach
    cases label with
    | read ret data =>
      obtain ⟨hret, hnot⟩ := Classical.not_imp.mp hchanges
      simp only [dispatchSystem, dispatchNext] at hnext
      split_ifs at hnext with hloop hnonzero
      · exact absurd hret hnonzero
      · obtain ⟨history, -, rfl⟩ := Option.map_eq_some_iff.mp hnext
        exact reads_other_sample hheld hnot rfl rfl rfl
    | getResult =>
      simp only [dispatchSystem, dispatchNext, Option.ite_none_right_eq_some,
        Option.some.injEq] at hnext
      obtain ⟨-, rfl⟩ := hnext
      exact reads_other_sample hheld hchanges rfl rfl rfl
    | write data | work line | wait1 | process | enqueue ret | signal2 | execute =>
      exact absurd trivial hchanges

/-- A sample in range with a given humidity. -/
def sampleWith (humidity : UInt32) : Bme680FifoData :=
  { temp := 21, pressure := 90000, humidity := humidity, gasResistance := 50000 }

/-- The loop before its first iteration. -/
def beforeDispatch : DispatchState where
  data := sampleWith 0
  line := sampleWith 0
  history := { accepted := [], delivered := [] }
  loop := .reading
  enqueued := []
  executed := []

/-- An iteration of the loop on a sample that was written. -/
def iterationLabels (data : Bme680FifoData) : List DispatchLabel :=
  [.write data, .read 0 data, .wait1, .process, .getResult, .enqueue 0, .signal2]

/-- The loop runs two iterations before a worker executes the first task: both tasks read the second
sample. -/
theorem late_worker_reads_later_sample :
    ¬ ∀ state, (dispatchSystem 100).Reachable state → OwnSamples state := by
  intro hall
  obtain ⟨final, hrun, henqueued, hexecuted⟩ : ∃ final,
      (dispatchSystem 100).run beforeDispatch
        (iterationLabels (sampleWith 40) ++ iterationLabels (sampleWith 60) ++
          [.execute, .execute]) = some final ∧
        final.enqueued = [sampleWith 40, sampleWith 60] ∧
        final.executed = [sampleWith 60, sampleWith 60] :=
    ⟨_, rfl, rfl, rfl⟩
  have hown := hall final (TransitionSystem.reachable_of_run ⟨rfl, rfl, rfl, rfl⟩ _ hrun)
  unfold OwnSamples at hown
  rw [henqueued, hexecuted, List.cons_prefix_cons] at hown
  exact absurd hown.1 (by decide)

end Bme680.App
