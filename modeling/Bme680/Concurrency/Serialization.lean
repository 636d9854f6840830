import Bme680.Concurrency.TransitionSystem
import Mathlib.Logic.Function.Basic

/-!
# Calls that a lock makes atomic

A `Program` acts on a shared state one action at a time, and each action decides from the state it
found how the program goes on, which may be a fault; `run` carries it out from beginning to end. In
`serialSystem` any threads make calls of such programs, taking one lock before the first action and
giving it back behind the last one; in between the steps of all threads interleave. A thread whose
program faults takes no further step, and the lock stays with it.

Whenever the lock is free the shared state and the results are those of the calls carried out one
after the other, in the order in which they took the lock (`serialized_of_reachable`). The thread
that has the lock can go on to give it back unless its program faults (`exists_unlocked`), and then
it keeps the lock for ever (`never_unlocked`).
-/

set_option autoImplicit false
set_option relaxedAutoImplicit false

namespace Bme680.Concurrency

/-! ### Programs -/

/-- A program on a shared state: its result, an action and how it goes on from the state the action
found, or a fault. -/
inductive Program (Shared Result : Type*)
  | done (result : Result)
  | act (action : Shared → Shared) (next : Shared → Program Shared Result)
  | faults

namespace Program

variable {Shared Result Later : Type*}

/-- The state a program leaves and its result, unless it faults. -/
def run : Program Shared Result → Shared → Option (Shared × Result)
  | .done result, shared => some (shared, result)
  | .act action next, shared => (next shared).run (action shared)
  | .faults, _ => none

/-- A program of one action, which gives its result. -/
def atomic (action : Shared → Shared × Result) : Program Shared Result :=
  .act (fun shared ↦ (action shared).1) fun shared ↦ .done (action shared).2

/-- A program of one action, which gives its result or faults. -/
def attempt (action : Shared → Shared × Option Result) : Program Shared Result :=
  .act (fun shared ↦ (action shared).1) fun shared ↦
    match (action shared).2 with
    | some result => .done result
    | none => .faults

/-- A program that goes on with the result of another one. -/
def bind : Program Shared Result → (Result → Program Shared Later) → Program Shared Later
  | .done result, later => later result
  | .act action next, later => .act action fun shared ↦ (next shared).bind later
  | .faults, _ => .faults

@[simp] theorem run_done (result : Result) (shared : Shared) :
    (Program.done result).run shared = some (shared, result) := rfl

@[simp] theorem run_act (action : Shared → Shared) (next : Shared → Program Shared Result)
    (shared : Shared) : (Program.act action next).run shared = (next shared).run (action shared) :=
  rfl

@[simp] theorem run_atomic (action : Shared → Shared × Result) (shared : Shared) :
    (atomic action).run shared = some (action shared) := rfl

@[simp] theorem run_attempt (action : Shared → Shared × Option Result) (shared : Shared) :
    (attempt action).run shared = (action shared).2.map ((action shared).1, ·) := by
  unfold attempt
  cases hresult : (action shared).2 with
  | none | some result => simp [hresult, run]

/-- A program that goes on runs one part after the other. -/
@[simp] theorem run_bind (program : Program Shared Result) (later : Result → Program Shared Later)
    (shared : Shared) :
    (program.bind later).run shared =
      (program.run shared).bind fun after ↦ (later after.2).run after.1 := by
  induction program generalizing shared with
  | done result => rfl
  | act action next ih => exact ih shared (action shared)
  | faults => rfl

end Program

/-! ### Calls one after the other -/

variable {Thread Call Shared Result : Type*} (program : Call → Program Shared Result)

/-- The state and the results of calls carried out one after the other, unless one faults. -/
def runAll (start : Shared) (calls : List (Thread × Call)) :
    Option (Shared × List (Thread × Result)) :=
  calls.foldlM
    (fun before call ↦ ((program call.2).run before.1).map fun after ↦
      (after.1, before.2 ++ [(call.1, after.2)]))
    (start, [])

/-- One more call is carried out behind the others. -/
theorem runAll_concat (start : Shared) (calls : List (Thread × Call)) (thread : Thread)
    (call : Call) :
    runAll program start (calls ++ [(thread, call)]) =
      (runAll program start calls).bind fun before ↦ ((program call).run before.1).map fun after ↦
        (after.1, before.2 ++ [(thread, after.2)]) := by
  rw [runAll, List.foldlM_append]
  simp [runAll]

/-! ### Calls of any threads -/

/-- Where a thread is: outside, at the lock of a call, or inside with the rest of its program. -/
inductive CallPoint (Call Shared Result : Type*)
  | outside
  | locking (call : Call)
  | inside (rest : Program Shared Result)

/-- The shared state, the thread that has the lock, where the threads are, the calls that have taken
the lock and the results of those that have returned, in order. -/
structure SerialState (Thread Call Shared Result : Type*) where
  shared : Shared
  lock : Option Thread
  points : Thread → CallPoint Call Shared Result
  taken : List (Thread × Call)
  returned : List (Thread × Result)

/-- The steps: a thread begins a call, or takes its next step in one. -/
inductive SerialLabel (Thread Call : Type*)
  | call (thread : Thread) (call : Call)
  | step (thread : Thread)

variable [DecidableEq Thread]

/-- The state with a thread moved. -/
def SerialState.goto (state : SerialState Thread Call Shared Result) (thread : Thread)
    (point : CallPoint Call Shared Result) : SerialState Thread Call Shared Result :=
  { state with points := Function.update state.points thread point }

/-- The state after a step. -/
def serialNext (state : SerialState Thread Call Shared Result) :
    SerialLabel Thread Call → Option (SerialState Thread Call Shared Result)
  | .call thread call =>
    match state.points thread with
    | .outside => some (state.goto thread (.locking call))
    | .locking _ | .inside _ => none
  | .step thread =>
    match state.points thread with
    | .outside | .inside .faults => none
    | .locking call =>
      match state.lock with
      | none =>
        some { state.goto thread (.inside (program call)) with
          lock := some thread
          taken := state.taken ++ [(thread, call)] }
      | some _ => none
    | .inside (.act action next) =>
      some { state.goto thread (.inside (next state.shared)) with shared := action state.shared }
    | .inside (.done result) =>
      some { state.goto thread .outside with
        lock := none
        returned := state.returned ++ [(thread, result)] }

/-- Threads that call programs under the lock, from a state on. -/
def serialSystem (Thread : Type*) [DecidableEq Thread] (program : Call → Program Shared Result)
    (start : Shared) :
    TransitionSystem (SerialState Thread Call Shared Result) (SerialLabel Thread Call) where
  initial state :=
    state.shared = start ∧ state.lock = none ∧ state.points = (fun _ ↦ .outside) ∧
      state.taken = [] ∧ state.returned = []
  next := serialNext program

/-- Where the lock is free no thread is inside, and the state and the results are those of the calls
carried out in order; where it is taken, they come to be so with the rest of its holder's
program. -/
def SerialInvariant (start : Shared) (state : SerialState Thread Call Shared Result) : Prop :=
  (∀ thread rest, state.points thread = .inside rest → state.lock = some thread) ∧
    match state.lock with
    | none => runAll program start state.taken = some (state.shared, state.returned)
    | some thread => ∃ rest earlier call before,
        state.points thread = .inside rest ∧ state.taken = earlier ++ [(thread, call)] ∧
          runAll program start earlier = some (before, state.returned) ∧
          rest.run state.shared = (program call).run before

namespace SerialInvariant

variable {program} {start : Shared} {state successor : SerialState Thread Call Shared Result}

/-- Threads that are inside have the lock after a step of one, and only they. -/
theorem inside_goto
    (hinside : ∀ thread rest, state.points thread = .inside rest → state.lock = some thread)
    {thread : Thread} {point : CallPoint Call Shared Result} {lock : Option Thread}
    (hlock : state.lock = none ∨ state.lock = some thread ∨ lock = state.lock)
    (hpoint : ∀ rest, point = .inside rest → lock = some thread) (other : Thread)
    (rest : Program Shared Result)
    (hother : Function.update state.points thread point other = .inside rest) :
    lock = some other := by
  by_cases hsame : other = thread
  · subst hsame
    rw [Function.update_self] at hother
    exact hpoint rest hother
  · rw [Function.update_of_ne hsame] at hother
    have hholds := hinside other rest hother
    rcases hlock with hfree | hheld | hkept
    · rw [hfree] at hholds
      cases hholds
    · rw [hheld] at hholds
      exact absurd (Option.some.inj hholds).symm hsame
    · rw [hkept, hholds]

/-- A thread outside the lock that moves to another point outside it. -/
theorem goto (hinvariant : SerialInvariant program start state) {thread : Thread}
    {point : CallPoint Call Shared Result}
    (hbefore : ∀ rest, state.points thread ≠ .inside rest)
    (hafter : ∀ rest, point ≠ .inside rest) :
    SerialInvariant program start (state.goto thread point) := by
  refine ⟨inside_goto hinvariant.1 (.inr (.inr rfl)) fun rest hrest ↦ absurd hrest (hafter rest),
    ?_⟩
  have hserial := hinvariant.2
  show match state.lock with | none => _ | some _ => _
  cases hlock : state.lock with
  | none =>
    simp only [hlock] at hserial
    exact hserial
  | some holder =>
    simp only [hlock] at hserial
    obtain ⟨rest, earlier, call, shared, hrest, hserial⟩ := hserial
    have hholder : holder ≠ thread := by
      rintro rfl
      exact hbefore rest hrest
    exact ⟨rest, earlier, call, shared, (Function.update_of_ne hholder _ _).trans hrest, hserial⟩

/-- Every step keeps the invariant. -/
theorem next (hinvariant : SerialInvariant program start state) {label : SerialLabel Thread Call}
    (hnext : serialNext program state label = some successor) :
    SerialInvariant program start successor := by
  cases label with
  | call thread call =>
    simp only [serialNext] at hnext
    cases hpoint : state.points thread with
    | outside =>
      simp only [hpoint] at hnext
      obtain rfl := Option.some.inj hnext
      exact hinvariant.goto (by simp [hpoint]) (by simp)
    | locking _ | inside _ =>
      simp only [hpoint] at hnext
      cases hnext
  | step thread =>
    have hserial := hinvariant.2
    simp only [serialNext] at hnext
    cases hpoint : state.points thread with
    | outside =>
      simp only [hpoint] at hnext
      cases hnext
    | locking call =>
      simp only [hpoint] at hnext
      cases hlock : state.lock with
      | some _ =>
        simp only [hlock] at hnext
        cases hnext
      | none =>
        simp only [hlock] at hnext hserial
        obtain rfl := Option.some.inj hnext
        exact ⟨inside_goto hinvariant.1 (.inl hlock) fun _ _ ↦ rfl, program call, state.taken,
          call, state.shared, Function.update_self _ _ _, rfl, hserial, rfl⟩
    | inside rest =>
      have hlock := hinvariant.1 thread rest hpoint
      simp only [hlock] at hserial
      obtain ⟨current, earlier, call, shared, hcurrent, htaken, hearlier, hrun⟩ := hserial
      obtain rfl : rest = current := by
        rw [hpoint] at hcurrent
        exact CallPoint.inside.inj hcurrent
      cases rest with
      | act action next =>
        simp only [hpoint] at hnext
        obtain rfl := Option.some.inj hnext
        refine ⟨inside_goto hinvariant.1 (.inr (.inl hlock)) fun _ _ ↦ hlock, ?_⟩
        simp only [SerialState.goto, hlock]
        exact ⟨next state.shared, earlier, call, shared, Function.update_self _ _ _, htaken,
          hearlier, hrun⟩
      | faults =>
        simp only [hpoint] at hnext
        cases hnext
      | done result =>
        simp only [hpoint] at hnext
        obtain rfl := Option.some.inj hnext
        refine ⟨inside_goto hinvariant.1 (.inr (.inl hlock)) (by simp), ?_⟩
        rw [Program.run_done] at hrun
        show runAll program start state.taken =
          some (state.shared, state.returned ++ [(thread, result)])
        rw [htaken, runAll_concat, hearlier, Option.bind_some, ← hrun, Option.map_some]

end SerialInvariant

variable {program} {start : Shared} {state : SerialState Thread Call Shared Result}

/-- The invariant holds in every run. -/
theorem serialInvariant_of_reachable
    (hreach : (serialSystem Thread program start).Reachable state) :
    SerialInvariant program start state := by
  refine hreach.invariant ?_ fun _ _ _ hbefore _ hnext ↦ hbefore.next hnext
  rintro initial ⟨hshared, hlock, hpoints, htaken, hreturned⟩
  refine ⟨fun thread rest hrest ↦ ?_, ?_⟩
  · rw [hpoints] at hrest
    cases hrest
  · simp only [hlock, hshared, htaken, hreturned]
    rfl

/-- Whenever the lock is free, the shared state and the results are those of the calls carried out
one after the other, in the order in which they took the lock. -/
theorem serialized_of_reachable (hreach : (serialSystem Thread program start).Reachable state)
    (hfree : state.lock = none) :
    runAll program start state.taken = some (state.shared, state.returned) := by
  have hserial := (serialInvariant_of_reachable hreach).2
  simp only [hfree] at hserial
  exact hserial

/-- The thread that has the lock has the rest of its program before it, which faults exactly if the
calls that have taken the lock do when they are carried out one after the other. -/
theorem exists_inside (hreach : (serialSystem Thread program start).Reachable state)
    {thread : Thread} (hlock : state.lock = some thread) :
    ∃ rest, state.points thread = .inside rest ∧
      (rest.run state.shared = none ↔ runAll program start state.taken = none) := by
  have hserial := (serialInvariant_of_reachable hreach).2
  simp only [hlock] at hserial
  obtain ⟨rest, earlier, call, before, hpoint, htaken, hearlier, hrun⟩ := hserial
  refine ⟨rest, hpoint, ?_⟩
  rw [htaken, runAll_concat, hearlier, Option.bind_some, Option.map_eq_none_iff, hrun]

/-- A thread inside whose program does not fault goes on to its end, and gives the lock back. -/
theorem exists_unlocked {thread : Thread} {rest : Program Shared Result}
    (hpoint : state.points thread = .inside rest) (hrun : rest.run state.shared ≠ none) :
    ∃ final, (serialSystem Thread program start).Continuation (fun _ _ ↦ True) state final ∧
      final.lock = none ∧ final.taken = state.taken := by
  induction rest generalizing state with
  | done result =>
    refine ⟨{ state.goto thread .outside with
      lock := none
      returned := state.returned ++ [(thread, result)] },
      .single ⟨.step thread, trivial, ?_⟩, rfl, rfl⟩
    simp only [serialSystem, serialNext, hpoint]
  | act action next ih =>
    obtain ⟨final, hmore, hfinal⟩ := @ih state.shared
      { state.goto thread (.inside (next state.shared)) with shared := action state.shared }
      (Function.update_self _ _ _) hrun
    refine ⟨final, .head ⟨.step thread, trivial, ?_⟩ hmore, hfinal⟩
    simp only [serialSystem, serialNext, hpoint]
  | faults => exact absurd rfl hrun

/-- A thread has the lock, and what is left of its program faults. -/
def Faulting (state : SerialState Thread Call Shared Result) (thread : Thread) : Prop :=
  state.lock = some thread ∧
    ∃ rest, state.points thread = .inside rest ∧ rest.run state.shared = none

/-- No step takes the lock from a thread whose program faults. -/
theorem Faulting.next (hinvariant : SerialInvariant program start state) {thread : Thread}
    (hfaulting : Faulting state thread) {label : SerialLabel Thread Call}
    {successor : SerialState Thread Call Shared Result}
    (hnext : serialNext program state label = some successor) : Faulting successor thread := by
  obtain ⟨hlock, rest, hpoint, hrun⟩ := hfaulting
  cases label with
  | call mover call =>
    simp only [serialNext] at hnext
    cases hmover : state.points mover with
    | outside =>
      simp only [hmover] at hnext
      obtain rfl := Option.some.inj hnext
      have hne : thread ≠ mover := by
        rintro rfl
        cases hpoint.symm.trans hmover
      exact ⟨hlock, rest, (Function.update_of_ne hne _ _).trans hpoint, hrun⟩
    | locking _ | inside _ =>
      simp only [hmover] at hnext
      cases hnext
  | step mover =>
    simp only [serialNext] at hnext
    cases hmover : state.points mover with
    | outside =>
      simp only [hmover] at hnext
      cases hnext
    | locking call =>
      simp only [hmover, hlock] at hnext
      cases hnext
    | inside current =>
      obtain rfl : thread = mover :=
        Option.some.inj (hlock.symm.trans (hinvariant.1 mover current hmover))
      obtain rfl : rest = current := CallPoint.inside.inj (hpoint.symm.trans hmover)
      cases rest with
      | done result => cases hrun
      | faults =>
        simp only [hmover] at hnext
        cases hnext
      | act action next =>
        simp only [hmover] at hnext
        obtain rfl := Option.some.inj hnext
        exact ⟨hlock, _, Function.update_self _ _ _, hrun⟩

/-- A thread whose program faults keeps the lock for ever. -/
theorem never_unlocked (hreach : (serialSystem Thread program start).Reachable state)
    {thread : Thread} (hfaulting : Faulting state thread)
    {final : SerialState Thread Call Shared Result}
    (hmore : (serialSystem Thread program start).Continuation (fun _ _ ↦ True) state final) :
    final.lock = some thread := by
  have hkept : Faulting final thread := by
    induction hmore with
    | refl => exact hfaulting
    | tail hearlier hlast ih =>
      obtain ⟨label, -, hnext⟩ := hlast
      exact ih.next (serialInvariant_of_reachable (hreach.continue hearlier)) hnext
  exact hkept.1

end Bme680.Concurrency
