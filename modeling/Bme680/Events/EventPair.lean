import Bme680.Concurrency.TransitionSystem
import Bme680.SectionOutcome

/-!
# The event pair and its handshake

`event_pair.c` signals two events through one state variable with three values: idle, first event,
second event. A signal overwrites the variable, and a wait for an event sleeps until it finds its
value there and then makes it idle.

The first part translates the four functions section by section. The second part is the handshake
of an initiator, who signals the first event and waits for the second one, round after round, and a
responder, who waits for the first event and then signals the second one. States record in which
round the first event was signalled last, the rounds whose event the responder consumed, and the
rounds whose wait for the second event returned zero.

The second event does not say which round it acknowledges. If the initiator gave up waiting in an
earlier round, the acknowledgement of that round may arrive after the first event of the next one:
it then overwrites the new event and passes for its acknowledgement (`handshake_exact`).
-/

set_option autoImplicit false
set_option relaxedAutoImplicit false

namespace Bme680.Events

open Concurrency

/-! ### The functions -/

/-- The data of `struct event_pair`. -/
structure EventPair where
  state : ℤ
  deriving DecidableEq

/-- `event_pair_init`, given whether the allocation succeeds. -/
def eventPairInit (allocated : Bool) : Except ℤ EventPair :=
  if ¬ allocated then .error (-ENOMEM) else .ok { state := 0 }

/-- A signal of an event. It also wakes a thread waiting for it. -/
def eventPairSignal (event : ℤ) (ep : EventPair) : EventPair :=
  { ep with state := event }

/-- A wait for an event from the head of its wait loop. -/
def eventPairWaitLoop (event : ℤ) (ep : EventPair) : EventPair × SectionEnd :=
  if ep.state ≠ event then (ep, .sleeps) else ({ ep with state := 0 }, .returns 0)

/-- A wait for an event from the return `ret` of `pthread_cond_timedwait`. Errors other than a
timeout lead back to the head of the loop. -/
def eventPairWaitWoken (event : ℤ) (ep : EventPair) (ret : ℕ) : EventPair × SectionEnd :=
  if ret = ETIMEDOUT then (ep, .returns (-ETIMEDOUT)) else eventPairWaitLoop event ep

/-- `event_pair_signal1`. -/
def eventPairSignal1 : EventPair → EventPair := eventPairSignal 1

/-- `event_pair_signal2`. -/
def eventPairSignal2 : EventPair → EventPair := eventPairSignal 2

/-- `event_pair_wait1` from the return of `pthread_cond_timedwait`, or from locking the mutex as if
it had returned zero. -/
def eventPairWait1 : EventPair → ℕ → EventPair × SectionEnd := eventPairWaitWoken 1

/-- `event_pair_wait2` from the return of `pthread_cond_timedwait`, or from locking the mutex as if
it had returned zero. -/
def eventPairWait2 : EventPair → ℕ → EventPair × SectionEnd := eventPairWaitWoken 2

/-- Where a thread in a wait is: about to test the state, or asleep. -/
inductive WaitPoint
  | testing
  | asleep
  deriving DecidableEq, Repr

/-- A section of a wait sleeps and leaves the event pair as it is, or returns the code of a timeout
and leaves it as it is, or consumes its event and returns zero. -/
theorem eventPairWaitWoken_cases (event : ℤ) (ep : EventPair) (ret : ℕ) :
    eventPairWaitWoken event ep ret = (ep, .sleeps) ∨
      eventPairWaitWoken event ep ret = (ep, .returns (-ETIMEDOUT)) ∨
      (ep.state = event ∧ eventPairWaitWoken event ep ret = ({ state := 0 }, .returns 0)) := by
  unfold eventPairWaitWoken eventPairWaitLoop
  split_ifs with htimeout hstate
  · exact Or.inr (Or.inl rfl)
  · exact Or.inl rfl
  · exact Or.inr (Or.inr ⟨not_not.mp hstate, rfl⟩)

/-- A wait that tests the state while it holds its event consumes it. -/
theorem eventPairWaitWoken_zero {event : ℤ} {ep : EventPair} (hstate : ep.state = event) :
    eventPairWaitWoken event ep 0 = ({ state := 0 }, .returns 0) := by
  unfold eventPairWaitWoken eventPairWaitLoop
  rw [if_neg (by decide), if_neg (not_not.mpr hstate)]

/-! ### The handshake -/

/-- Where the initiator is: about to call `event_pair_signal1`, or in `event_pair_wait2`. -/
inductive InitiatorPhase
  | signalling
  | waiting (point : WaitPoint)
  deriving DecidableEq

/-- Where the responder is: in `event_pair_wait1`, or about to call `event_pair_signal2`. -/
inductive ResponderPhase
  | waiting (point : WaitPoint)
  | signalling
  deriving DecidableEq

/-- The event pair and its two threads. Of the run so far: the round the initiator is in, the round
whose first event was signalled last, the rounds whose first event the responder consumed, and the
rounds in which the initiator's wait returned zero. -/
structure HandshakeState where
  ep : EventPair
  initiator : InitiatorPhase
  responder : ResponderPhase
  round : ℕ
  signalled : ℕ
  consumed : List ℕ
  acknowledged : List ℕ

/-- The two threads. -/
inductive Party
  | initiator
  | responder
  deriving DecidableEq

/-- The steps of a thread: a signal, a test of the state in its wait, a spurious wake-up, and the
return of its `pthread_cond_timedwait` with an error number. -/
inductive HandshakeLabel
  | signal (party : Party)
  | test (party : Party)
  | spurious (party : Party)
  | giveUp (party : Party) (ret : ℕ)
  deriving DecidableEq

/-- The state at the end of a section of the initiator's wait. The next round begins when the wait
returns, whatever it returns. -/
def HandshakeState.finishWait2 (state : HandshakeState) :
    EventPair × SectionEnd → HandshakeState
  | (ep, .sleeps) => { state with ep := ep, initiator := .waiting .asleep }
  | (ep, .returns ret) =>
    { state with
      ep := ep
      initiator := .signalling
      round := state.round + 1
      acknowledged :=
        if ret = 0 then state.round :: state.acknowledged else state.acknowledged }

/-- The state at the end of a section of the responder's wait. The responder signals only where the
wait returned zero. -/
def HandshakeState.finishWait1 (state : HandshakeState) :
    EventPair × SectionEnd → HandshakeState
  | (ep, .sleeps) => { state with ep := ep, responder := .waiting .asleep }
  | (ep, .returns ret) =>
    if ret = 0 then
      { state with
        ep := ep
        responder := .signalling
        consumed := state.signalled :: state.consumed }
    else { state with ep := ep, responder := .waiting .testing }

/-- The initiator after a signal of the second event. -/
def InitiatorPhase.wake : InitiatorPhase → InitiatorPhase
  | .signalling => .signalling
  | .waiting _ => .waiting .testing

/-- The responder after a signal of the first event. -/
def ResponderPhase.wake : ResponderPhase → ResponderPhase
  | .signalling => .signalling
  | .waiting _ => .waiting .testing

/-- The state after a step, where the step is possible. -/
def handshakeNext (state : HandshakeState) : HandshakeLabel → Option HandshakeState
  | .signal .initiator =>
    if state.initiator = .signalling then
      some { state with
        ep := eventPairSignal1 state.ep
        initiator := .waiting .testing
        responder := state.responder.wake
        signalled := state.round }
    else none
  | .signal .responder =>
    if state.responder = .signalling then
      some { state with
        ep := eventPairSignal2 state.ep
        initiator := state.initiator.wake
        responder := .waiting .testing }
    else none
  | .test .initiator =>
    if state.initiator = .waiting .testing then
      some (state.finishWait2 (eventPairWait2 state.ep 0))
    else none
  | .test .responder =>
    if state.responder = .waiting .testing then
      some (state.finishWait1 (eventPairWait1 state.ep 0))
    else none
  | .spurious .initiator =>
    if state.initiator = .waiting .asleep then
      some { state with initiator := .waiting .testing }
    else none
  | .spurious .responder =>
    if state.responder = .waiting .asleep then
      some { state with responder := .waiting .testing }
    else none
  | .giveUp .initiator ret =>
    if state.initiator = .waiting .asleep ∧ ret ≠ 0 then
      some (state.finishWait2 (eventPairWait2 state.ep ret))
    else none
  | .giveUp .responder ret =>
    if state.responder = .waiting .asleep ∧ ret ≠ 0 then
      some (state.finishWait1 (eventPairWait1 state.ep ret))
    else none

/-- The initiator and the responder before their first round. -/
def handshakeSystem : TransitionSystem HandshakeState HandshakeLabel where
  initial := fun state ↦ eventPairInit true = .ok state.ep ∧ state.initiator = .signalling ∧
    state.responder = .waiting .testing ∧ state.consumed = [] ∧ state.acknowledged = []
  next := handshakeNext

/-- Wherever the initiator's wait returned zero in a round, the responder has consumed the first
event of that round. -/
def AcknowledgesRound (state : HandshakeState) : Prop :=
  ∀ round ∈ state.acknowledged, round ∈ state.consumed

/-- The step is not a late acknowledgement: a signal of the second event while the initiator waits
in a round whose first event has not been consumed. -/
def NotLate (state : HandshakeState) : HandshakeLabel → Prop
  | .signal .responder => state.initiator = .signalling ∨ state.round ∈ state.consumed
  | _ => True

/-- While the state holds the second event, the round the initiator waits in has been consumed. -/
structure HandshakeInvariant (state : HandshakeState) : Prop where
  answered : state.ep.state = 2 → state.initiator ≠ .signalling → state.round ∈ state.consumed
  acknowledges : AcknowledgesRound state

variable {state successor : HandshakeState}

/-- A section of the initiator's wait keeps the invariant. -/
theorem finishWait2_invariant (hinvariant : HandshakeInvariant state)
    (hwaiting : state.initiator ≠ .signalling) (ret : ℕ) :
    HandshakeInvariant (state.finishWait2 (eventPairWait2 state.ep ret)) := by
  unfold eventPairWait2
  rcases eventPairWaitWoken_cases 2 state.ep ret with hsleeps | htimeout | ⟨hstate, hzero⟩
  · rw [hsleeps]
    exact ⟨fun htwo _ ↦ hinvariant.answered htwo hwaiting, hinvariant.acknowledges⟩
  · rw [htimeout]
    refine ⟨fun _ hsignalling ↦ absurd rfl hsignalling, ?_⟩
    have hnonzero : (-ETIMEDOUT : ℤ) ≠ 0 := by decide
    dsimp only [HandshakeState.finishWait2, AcknowledgesRound]
    rw [if_neg hnonzero]
    exact hinvariant.acknowledges
  · rw [hzero]
    refine ⟨fun _ hsignalling ↦ absurd rfl hsignalling, fun round hround ↦ ?_⟩
    dsimp only [HandshakeState.finishWait2] at hround ⊢
    rw [if_pos rfl, List.mem_cons] at hround
    rcases hround with rfl | hearlier
    · exact hinvariant.answered hstate hwaiting
    · exact hinvariant.acknowledges round hearlier

/-- A section of the responder's wait keeps the invariant. -/
theorem finishWait1_invariant (hinvariant : HandshakeInvariant state) (ret : ℕ) :
    HandshakeInvariant (state.finishWait1 (eventPairWait1 state.ep ret)) := by
  unfold eventPairWait1
  rcases eventPairWaitWoken_cases 1 state.ep ret with hsleeps | htimeout | ⟨-, hzero⟩
  · rw [hsleeps]
    exact ⟨hinvariant.answered, hinvariant.acknowledges⟩
  · rw [htimeout]
    have hnonzero : (-ETIMEDOUT : ℤ) ≠ 0 := by decide
    dsimp only [HandshakeState.finishWait1]
    rw [if_neg hnonzero]
    exact ⟨hinvariant.answered, hinvariant.acknowledges⟩
  · rw [hzero]
    dsimp only [HandshakeState.finishWait1]
    rw [if_pos rfl]
    have hidle : (0 : ℤ) ≠ 2 := by decide
    refine ⟨fun htwo ↦ absurd htwo hidle, fun round hround ↦ ?_⟩
    exact List.mem_cons_of_mem _ (hinvariant.acknowledges round hround)

/-- Every step that is not a late acknowledgement keeps the invariant. -/
theorem handshakeNext_invariant (hinvariant : HandshakeInvariant state) {label : HandshakeLabel}
    (hallowed : NotLate state label) (hnext : handshakeNext state label = some successor) :
    HandshakeInvariant successor := by
  cases label with
  | signal party =>
    cases party with
    | initiator =>
      simp only [handshakeNext, Option.ite_none_right_eq_some, Option.some.injEq] at hnext
      obtain ⟨-, rfl⟩ := hnext
      have hfirst : (1 : ℤ) ≠ 2 := by decide
      exact ⟨fun htwo ↦ absurd htwo hfirst, hinvariant.acknowledges⟩
    | responder =>
      simp only [handshakeNext, Option.ite_none_right_eq_some, Option.some.injEq] at hnext
      obtain ⟨-, rfl⟩ := hnext
      refine ⟨fun _ hwaiting ↦ ?_, hinvariant.acknowledges⟩
      rcases hallowed with hsignalling | hconsumed
      · dsimp only at hwaiting
        rw [hsignalling] at hwaiting
        exact absurd rfl hwaiting
      · exact hconsumed
  | test party =>
    cases party with
    | initiator =>
      simp only [handshakeNext, Option.ite_none_right_eq_some, Option.some.injEq] at hnext
      obtain ⟨hphase, rfl⟩ := hnext
      exact finishWait2_invariant hinvariant (by rw [hphase]; exact InitiatorPhase.noConfusion) 0
    | responder =>
      simp only [handshakeNext, Option.ite_none_right_eq_some, Option.some.injEq] at hnext
      obtain ⟨-, rfl⟩ := hnext
      exact finishWait1_invariant hinvariant 0
  | spurious party =>
    cases party with
    | initiator =>
      simp only [handshakeNext, Option.ite_none_right_eq_some, Option.some.injEq] at hnext
      obtain ⟨hphase, rfl⟩ := hnext
      refine ⟨fun htwo _ ↦ hinvariant.answered htwo ?_, hinvariant.acknowledges⟩
      rw [hphase]
      exact InitiatorPhase.noConfusion
    | responder =>
      simp only [handshakeNext, Option.ite_none_right_eq_some, Option.some.injEq] at hnext
      obtain ⟨-, rfl⟩ := hnext
      exact ⟨hinvariant.answered, hinvariant.acknowledges⟩
  | giveUp party ret =>
    cases party with
    | initiator =>
      simp only [handshakeNext, Option.ite_none_right_eq_some, Option.some.injEq] at hnext
      obtain ⟨⟨hphase, -⟩, rfl⟩ := hnext
      exact finishWait2_invariant hinvariant (by rw [hphase]; exact InitiatorPhase.noConfusion) ret
    | responder =>
      simp only [handshakeNext, Option.ite_none_right_eq_some, Option.some.injEq] at hnext
      obtain ⟨-, rfl⟩ := hnext
      exact finishWait1_invariant hinvariant ret

/-- Acknowledgements are for the right round in every run without a late one. -/
theorem handshakeInvariant_reachable (hreach : handshakeSystem.ReachableUnder NotLate state) :
    HandshakeInvariant state := by
  have hinitial : ∀ start, handshakeSystem.initial start → HandshakeInvariant start := by
    rintro start ⟨-, hinitiator, -, -, hacknowledged⟩
    refine ⟨fun _ hwaiting ↦ absurd hinitiator hwaiting, fun round hround ↦ ?_⟩
    rw [hacknowledged] at hround
    exact absurd hround List.not_mem_nil
  exact hreach.invariant hinitial fun _ _ _ hbefore hallowed hnext ↦
    handshakeNext_invariant hbefore hallowed hnext

/-- The wait of the initiator of every round that returns zero follows the consumption of that
round's first event, as long as no acknowledgement is late; a late one goes on to be taken for the
acknowledgement of the round the initiator is in. -/
theorem handshake_exact (state : HandshakeState) :
    handshakeSystem.ExactAt NotLate AcknowledgesRound state := by
  constructor
  · intro hreach
    exact (handshakeInvariant_reachable hreach).acknowledges
  · intro label successor _ hlate hnext
    cases label with
    | signal party =>
      cases party with
      | initiator => exact absurd trivial hlate
      | responder =>
        simp only [handshakeSystem, handshakeNext, Option.ite_none_right_eq_some,
          Option.some.injEq] at hnext
        obtain ⟨-, rfl⟩ := hnext
        obtain ⟨hwaiting, hnot⟩ := not_or.mp hlate
        have hinitiator : state.initiator.wake = .waiting .testing := by
          cases hphase : state.initiator with
          | signalling => exact absurd hphase hwaiting
          | waiting point => rfl
        refine ⟨_, .single ⟨.test .initiator, trivial, if_pos hinitiator⟩, fun hall ↦ hnot ?_⟩
        exact hall state.round List.mem_cons_self
    | test party | spurious party | giveUp party ret => exact absurd trivial hlate

/-- An initiator and a responder before their first round. -/
def beforeHandshake : HandshakeState where
  ep := { state := 0 }
  initiator := .signalling
  responder := .waiting .testing
  round := 1
  signalled := 0
  consumed := []
  acknowledged := []

/-- The initiator gives up waiting in the first round, and takes the acknowledgement of that round
for one of the second. -/
theorem late_acknowledgement_impersonates :
    ¬ ∀ state, handshakeSystem.Reachable state → AcknowledgesRound state := by
  intro hall
  obtain ⟨final, hrun, hacknowledged, hconsumed⟩ : ∃ final,
      handshakeSystem.run beforeHandshake
        [.signal .initiator, .test .initiator, .test .responder, .giveUp .initiator ETIMEDOUT,
          .signal .initiator, .signal .responder, .test .initiator] = some final ∧
        final.acknowledged = [2] ∧ final.consumed = [1] :=
    ⟨_, rfl, rfl, rfl⟩
  have hmem := hall final
    (TransitionSystem.reachable_of_run ⟨rfl, rfl, rfl, rfl, rfl⟩ _ hrun) 2
    (by rw [hacknowledged]; exact List.mem_cons_self)
  rw [hconsumed] at hmem
  exact absurd hmem (by decide)

end Bme680.Events
