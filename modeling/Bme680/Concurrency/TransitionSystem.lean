import Mathlib.Logic.Relation
import Mathlib.Data.Nat.Notation
import Mathlib.Data.Option.Basic
import Mathlib.Tactic.SplitIfs

/-!
# Labelled transition systems with a partial step function

A concurrent program is a set of initial states and a partial function giving the state each
label leads to where the label is enabled. A label names the thread that moves and resolves every
choice the program leaves open, so the successor of a state under a label is unique and a run on
fixed labels can be evaluated.

`ReachableUnder allowed` collects the states of the runs all of whose steps satisfy `allowed`, a
condition on the state before the step and its label; `Reachable` drops the condition.
`ReachableUnder.invariant` is the induction principle every invariant of the development goes
through. `Continuation` relates a state to the states further steps lead to, `ExactFor` says that a
condition on steps separates the runs that keep a property from those that can lose it (`ExactAt`
says so of one state, `ExactWithin` that a single step is enough to lose it), `Inevitable` that
every run comes to a goal, `run` and `runUnder` evaluate a list of labels, and `Simulation`
transports reachability along an abstraction map whose steps are matched or silent.
-/

set_option autoImplicit false
set_option relaxedAutoImplicit false

namespace Bme680.Concurrency

/-- A labelled transition system: its initial states, and the state a label leads to where the
label is enabled. -/
structure TransitionSystem (State Label : Type*) where
  initial : State → Prop
  next : State → Label → Option State

namespace TransitionSystem

variable {State Label : Type*}

/-- The states of the runs all of whose steps satisfy a condition on the state before the step
and its label. -/
inductive ReachableUnder (system : TransitionSystem State Label)
    (allowed : State → Label → Prop) : State → Prop
  | initial {state : State} (hinitial : system.initial state) :
      ReachableUnder system allowed state
  | step {state successor : State} {label : Label}
      (hreach : ReachableUnder system allowed state) (hallowed : allowed state label)
      (hnext : system.next state label = some successor) :
      ReachableUnder system allowed successor

/-- The states of all runs. -/
def Reachable (system : TransitionSystem State Label) (state : State) : Prop :=
  system.ReachableUnder (fun _ _ ↦ True) state

/-- The states that further allowed steps lead to from a state. -/
def Continuation (system : TransitionSystem State Label) (allowed : State → Label → Prop) :
    State → State → Prop :=
  Relation.ReflTransGen fun state successor ↦
    ∃ label, allowed state label ∧ system.next state label = some successor

/-- The state after a list of labels, where every label is enabled in turn. -/
def run (system : TransitionSystem State Label) (state : State) : List Label → Option State
  | [] => some state
  | label :: rest => (system.next state label).bind fun successor ↦ system.run successor rest

/-- The state after a list of labels, where every label is allowed and enabled in turn. -/
def runUnder (system : TransitionSystem State Label) (allowed : State → Label → Prop)
    [∀ state, DecidablePred (allowed state)] (state : State) : List Label → Option State
  | [] => some state
  | label :: rest =>
    if allowed state label then
      (system.next state label).bind fun successor ↦ system.runUnder allowed successor rest
    else none

/-- Every run from the state comes to a state of the goal: no run goes on for ever without, and none
comes to rest before. -/
inductive Inevitable (system : TransitionSystem State Label) (goal : State → Prop) : State → Prop
  | reached {state : State} (hgoal : goal state) : Inevitable system goal state
  | later {state : State}
      (henabled : ∃ label successor, system.next state label = some successor)
      (hall : ∀ label successor, system.next state label = some successor →
        Inevitable system goal successor) :
      Inevitable system goal state

/-- A condition on steps is exact for a property of states: runs of allowed steps only reach states
with the property, and from the first step that is not allowed a run can go on to a state without
it. -/
structure ExactFor (system : TransitionSystem State Label) (allowed : State → Label → Prop)
    (property : State → Prop) : Prop where
  kept : ∀ state, system.ReachableUnder allowed state → property state
  broken : ∀ state label successor, system.ReachableUnder allowed state →
    ¬ allowed state label → system.next state label = some successor →
    ∃ final, system.Continuation (fun _ _ ↦ True) successor final ∧ ¬ property final

/-- A condition on steps is exact for a property at one state: where runs of allowed steps reach it
the state has the property, and from its first step that is not allowed a run can go on to a state
without it. -/
structure ExactAt (system : TransitionSystem State Label) (allowed : State → Label → Prop)
    (property : State → Prop) (state : State) : Prop where
  kept : system.ReachableUnder allowed state → property state
  broken : ∀ label successor, system.ReachableUnder allowed state →
    ¬ allowed state label → system.next state label = some successor →
    ∃ final, system.Continuation (fun _ _ ↦ True) successor final ∧ ¬ property final

/-- A condition on steps is exact for a property, and a single step that is not allowed is enough to
lose it: from the first one a run can go on by allowed steps to a state without the property. -/
structure ExactWithin (system : TransitionSystem State Label) (allowed : State → Label → Prop)
    (property : State → Prop) : Prop where
  kept : ∀ state, system.ReachableUnder allowed state → property state
  broken : ∀ state label successor, system.ReachableUnder allowed state →
    ¬ allowed state label → system.next state label = some successor →
    ∃ final, system.Continuation allowed successor final ∧ ¬ property final

variable {system : TransitionSystem State Label} {allowed : State → Label → Prop}

/-- A predicate that holds initially and that every allowed step keeps holds of every state the
allowed steps reach. -/
theorem ReachableUnder.invariant {property : State → Prop}
    (hinitial : ∀ state, system.initial state → property state)
    (hstep : ∀ state label successor, property state → allowed state label →
      system.next state label = some successor → property successor)
    {state : State} (hreach : system.ReachableUnder allowed state) : property state := by
  induction hreach with
  | initial hstart => exact hinitial _ hstart
  | step _ hallowed hnext ih => exact hstep _ _ _ ih hallowed hnext

/-- Where a step from a state with a property keeps it exactly when it is allowed, the condition is
exact. -/
theorem ExactFor.of_step_iff {property : State → Prop}
    (hinitial : ∀ state, system.initial state → property state)
    (hstep : ∀ state label successor, property state →
      system.next state label = some successor → (property successor ↔ allowed state label)) :
    system.ExactFor allowed property := by
  have hkept : ∀ state, system.ReachableUnder allowed state → property state :=
    fun _ hreach ↦ hreach.invariant hinitial fun state label successor hbefore hallowed hnext ↦
      (hstep state label successor hbefore hnext).mpr hallowed
  refine ⟨hkept, fun state label successor hreach hnot hnext ↦ ⟨successor, .refl, fun hafter ↦ ?_⟩⟩
  exact hnot ((hstep state label successor (hkept state hreach) hnext).mp hafter)

/-- Weakening the condition on steps reaches more states. -/
theorem ReachableUnder.mono {weaker : State → Label → Prop}
    (hweaker : ∀ state label, allowed state label → weaker state label) {state : State}
    (hreach : system.ReachableUnder allowed state) : system.ReachableUnder weaker state := by
  induction hreach with
  | initial hstart => exact .initial hstart
  | step _ hallowed hnext ih => exact .step ih (hweaker _ _ hallowed) hnext

/-- Every state reached under a condition is reachable. -/
theorem ReachableUnder.reachable {state : State}
    (hreach : system.ReachableUnder allowed state) : system.Reachable state :=
  hreach.mono fun _ _ _ ↦ trivial

/-- A continuation of a reached state is reached. -/
theorem ReachableUnder.continue {state successor : State}
    (hreach : system.ReachableUnder allowed state)
    (hmore : system.Continuation allowed state successor) :
    system.ReachableUnder allowed successor := by
  induction hmore with
  | refl => exact hreach
  | tail _ hlast ih =>
    obtain ⟨label, hallowed, hnext⟩ := hlast
    exact .step ih hallowed hnext

/-- Weakening the condition on steps keeps a continuation. -/
theorem Continuation.mono {weaker : State → Label → Prop}
    (hweaker : ∀ state label, allowed state label → weaker state label) {state successor : State}
    (hmore : system.Continuation allowed state successor) :
    system.Continuation weaker state successor := by
  induction hmore with
  | refl => exact .refl
  | tail _ hlast ih =>
    obtain ⟨label, hallowed, hnext⟩ := hlast
    exact ih.tail ⟨label, hweaker _ _ hallowed, hnext⟩

/-- A predicate that every allowed step keeps holds along every continuation. -/
theorem Continuation.invariant {property : State → Prop}
    (hstep : ∀ state label successor, property state → allowed state label →
      system.next state label = some successor → property successor)
    {state successor : State} (hmore : system.Continuation allowed state successor)
    (hproperty : property state) : property successor := by
  induction hmore with
  | refl => exact hproperty
  | tail _ hlast ih =>
    obtain ⟨label, hallowed, hnext⟩ := hlast
    exact hstep _ _ _ ih hallowed hnext

/-- The state a list of labels leads to continues the run. -/
theorem Continuation.of_run (labels : List Label) {state final : State}
    (hrun : system.run state labels = some final) :
    system.Continuation (fun _ _ ↦ True) state final := by
  induction labels generalizing state with
  | nil =>
    obtain rfl : state = final := Option.some.inj hrun
    exact .refl
  | cons label rest ih =>
    obtain ⟨successor, hnext, hrest⟩ := Option.bind_eq_some_iff.mp hrun
    exact .head ⟨label, trivial, hnext⟩ (ih hrest)

/-- Evaluating labels that are all allowed wherever they are taken stays within the states
reached under the condition. -/
theorem ReachableUnder.run (labels : List Label)
    (hallowed : ∀ state, ∀ label ∈ labels, allowed state label) {state final : State}
    (hreach : system.ReachableUnder allowed state) (hrun : system.run state labels = some final) :
    system.ReachableUnder allowed final := by
  induction labels generalizing state with
  | nil =>
    obtain rfl : state = final := Option.some.inj hrun
    exact hreach
  | cons label rest ih =>
    obtain ⟨successor, hnext, hrest⟩ := Option.bind_eq_some_iff.mp hrun
    exact ih (fun other later hlater ↦ hallowed other later (List.mem_cons_of_mem _ hlater))
      (.step hreach (hallowed _ _ List.mem_cons_self) hnext) hrest

/-- Evaluating labels that are allowed where they are taken stays within the states reached under
the condition. -/
theorem ReachableUnder.runUnder [∀ state, DecidablePred (allowed state)] (labels : List Label)
    {state final : State} (hreach : system.ReachableUnder allowed state)
    (hrun : system.runUnder allowed state labels = some final) :
    system.ReachableUnder allowed final := by
  induction labels generalizing state with
  | nil =>
    obtain rfl : state = final := Option.some.inj hrun
    exact hreach
  | cons label rest ih =>
    simp only [TransitionSystem.runUnder] at hrun
    split_ifs at hrun with hallowed
    obtain ⟨successor, hnext, hrest⟩ := Option.bind_eq_some_iff.mp hrun
    exact ih (.step hreach hallowed hnext) hrest

/-- The state a run of labels from an initial state ends in is reachable. -/
theorem reachable_of_run {state final : State} (hinitial : system.initial state)
    (labels : List Label) (hrun : system.run state labels = some final) :
    system.Reachable final :=
  ReachableUnder.run labels (fun _ _ _ ↦ trivial) (.initial hinitial) hrun

/-- Where some allowed step from every reached state short of a goal lowers a measure, a run can go
on to the goal. -/
theorem ReachableUnder.continues_to {goal : State → Prop} (measure : State → ℕ)
    (hlower : ∀ state, system.ReachableUnder allowed state → ¬ goal state →
      ∃ label successor, allowed state label ∧ system.next state label = some successor ∧
        measure successor < measure state)
    {state : State} (hreach : system.ReachableUnder allowed state) :
    ∃ final, system.Continuation allowed state final ∧ goal final := by
  induction hmeasure : measure state using Nat.strongRecOn generalizing state with
  | _ bound ih =>
    by_cases hgoal : goal state
    · exact ⟨state, .refl, hgoal⟩
    · obtain ⟨label, successor, hallowed, hnext, hless⟩ := hlower state hreach hgoal
      obtain ⟨final, hmore, hfinal⟩ :=
        ih _ (hmeasure ▸ hless) (.step hreach hallowed hnext) rfl
      exact ⟨final, .head ⟨label, hallowed, hnext⟩ hmore, hfinal⟩

/-- Where a property holds along every run, leaves a step to be taken short of a goal, and lets
every step lower a measure, the goal is inevitable. -/
theorem Inevitable.of_measure {goal : State → Prop} (property : State → Prop) (measure : State → ℕ)
    (henabled : ∀ state, property state → ¬ goal state →
      ∃ label successor, system.next state label = some successor)
    (hlower : ∀ state label successor, property state → system.next state label = some successor →
      property successor ∧ measure successor < measure state)
    {state : State} (hproperty : property state) : system.Inevitable goal state := by
  induction hmeasure : measure state using Nat.strongRecOn generalizing state with
  | _ bound ih =>
    by_cases hgoal : goal state
    · exact .reached hgoal
    · refine .later (henabled state hproperty hgoal) fun label successor hnext ↦ ?_
      obtain ⟨hkept, hless⟩ := hlower state label successor hproperty hnext
      exact ih _ (hmeasure ▸ hless) hkept rfl

end TransitionSystem

/-- An abstraction map from one system to another under which initial states are initial and
every allowed step from a reached state is matched by an allowed step or changes nothing. -/
structure Simulation {Concrete ConcreteLabel Abstract AbstractLabel : Type*}
    (concrete : TransitionSystem Concrete ConcreteLabel)
    (concreteAllowed : Concrete → ConcreteLabel → Prop)
    (abstract : TransitionSystem Abstract AbstractLabel)
    (abstractAllowed : Abstract → AbstractLabel → Prop)
    (abstraction : Concrete → Abstract) : Prop where
  initial : ∀ state, concrete.initial state → abstract.initial (abstraction state)
  step : ∀ state label successor, concrete.ReachableUnder concreteAllowed state →
    abstract.ReachableUnder abstractAllowed (abstraction state) →
    concreteAllowed state label → concrete.next state label = some successor →
    abstraction successor = abstraction state ∨
      ∃ matching, abstractAllowed (abstraction state) matching ∧
        abstract.next (abstraction state) matching = some (abstraction successor)

/-- The abstraction of a reached state is reached. -/
theorem Simulation.reachable {Concrete ConcreteLabel Abstract AbstractLabel : Type*}
    {concrete : TransitionSystem Concrete ConcreteLabel}
    {concreteAllowed : Concrete → ConcreteLabel → Prop}
    {abstract : TransitionSystem Abstract AbstractLabel}
    {abstractAllowed : Abstract → AbstractLabel → Prop}
    {abstraction : Concrete → Abstract}
    (hsimulation : Simulation concrete concreteAllowed abstract abstractAllowed abstraction)
    {state : Concrete} (hreach : concrete.ReachableUnder concreteAllowed state) :
    abstract.ReachableUnder abstractAllowed (abstraction state) := by
  induction hreach with
  | initial hstart => exact .initial (hsimulation.initial _ hstart)
  | step hbefore hallowed hnext ih =>
    rcases hsimulation.step _ _ _ hbefore ih hallowed hnext with hsilent | ⟨matching, hok, hmatch⟩
    · rw [hsilent]
      exact ih
    · exact .step ih hok hmatch

/-- The abstraction of a continuation is a continuation, and keeps a condition on states that every
step of it was taken under. -/
theorem Simulation.continuation {Concrete ConcreteLabel Abstract AbstractLabel : Type*}
    {concrete : TransitionSystem Concrete ConcreteLabel}
    {concreteAllowed : Concrete → ConcreteLabel → Prop}
    {abstract : TransitionSystem Abstract AbstractLabel}
    {abstractAllowed : Abstract → AbstractLabel → Prop}
    {abstraction : Concrete → Abstract}
    (hsimulation : Simulation concrete concreteAllowed abstract abstractAllowed abstraction)
    (condition : Abstract → Prop) {state successor : Concrete}
    (hreach : concrete.ReachableUnder concreteAllowed state)
    (hmore : concrete.Continuation
      (fun before label ↦ concreteAllowed before label ∧ condition (abstraction before))
      state successor) :
    concrete.ReachableUnder concreteAllowed successor ∧
      abstract.Continuation
        (fun before label ↦ abstractAllowed before label ∧ condition before)
        (abstraction state) (abstraction successor) := by
  induction hmore with
  | refl => exact ⟨hreach, .refl⟩
  | tail _ hlast ih =>
    obtain ⟨label, ⟨hallowed, hcondition⟩, hnext⟩ := hlast
    refine ⟨.step ih.1 hallowed hnext, ?_⟩
    rcases hsimulation.step _ _ _ ih.1 (hsimulation.reachable ih.1) hallowed hnext with
      hsilent | ⟨matching, hok, hmatch⟩
    · rw [hsilent]
      exact ih.2
    · exact ih.2.tail ⟨matching, ⟨hok, hcondition⟩, hmatch⟩

end Bme680.Concurrency
