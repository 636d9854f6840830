import Bme680.SectionOutcome
import Bme680.Concurrency.TransitionSystem
import Bme680.Concurrency.ThreadTally

/-!
# The generations of the barrier

`barrier.c` keeps one count and one condition variable for all rounds. A call that is not the last
of its round calls `pthread_cond_wait` once, without testing anything when it returns, so what
wakes a call decides when it leaves.

The system is any number of threads calling `barrier_wait` any number of times. A ghost history
numbers the calls and divides them into generations: a generation closes when a call broadcasts,
and the history records which calls had arrived in it and which calls the broadcast let go.
`GenerationsSound` says that calls only return from closed generations, that a closed generation
has as many calls as the barrier waits for, and that its release let go exactly those.

`generations_sound_iff` proves it of every run in which no sleeping call is woken without a
broadcast, and shows that the first such wake-up lets a call return early.
-/

set_option autoImplicit false
set_option relaxedAutoImplicit false

namespace Bme680.Barriers

open Concurrency

/-! ### The barrier -/

/-- `struct barrier`: the calls counted since the last release, and the calls it waits for. -/
structure Barrier where
  count : ℤ
  total : ℤ
  deriving DecidableEq, Repr

/-- `barrier_init`, given whether the allocation succeeds. -/
def barrierInit (total : ℤ) (allocated : Bool) : Except ℤ Barrier :=
  if total ≤ 0 then .error (-EINVAL)
  else if allocated then .ok { count := 0, total := total }
  else .error (-ENOMEM)

/-- The two ways through a call: it sleeps on the condition variable, or it broadcasts to it and
returns zero. -/
inductive BarrierEnd
  | sleeps
  | broadcasts
  deriving DecidableEq, Repr

/-- `barrier_wait` from acquiring the mutex to the wait or the return. -/
def barrierWait (barrier : Barrier) : Barrier × BarrierEnd :=
  let arrived := { barrier with count := barrier.count + 1 }
  if arrived.count < arrived.total then (arrived, .sleeps)
  else ({ arrived with count := 0 }, .broadcasts)

/-- A call that does not complete the count sleeps. -/
theorem barrierWait_sleeps {barrier : Barrier} (hmissing : barrier.count + 1 < barrier.total) :
    barrierWait barrier = ({ barrier with count := barrier.count + 1 }, .sleeps) :=
  if_pos hmissing

/-- A call that completes the count resets it and broadcasts. -/
theorem barrierWait_broadcasts {barrier : Barrier}
    (hcomplete : barrier.total ≤ barrier.count + 1) :
    barrierWait barrier = ({ barrier with count := 0 }, .broadcasts) :=
  if_neg (not_lt.mpr hcomplete)

/-- The barrier an accepted total starts with. -/
theorem barrierInit_ok {total : ℤ} {allocated : Bool} {barrier : Barrier}
    (hinit : barrierInit total allocated = .ok barrier) :
    0 < total ∧ barrier = { count := 0, total := total } := by
  unfold barrierInit at hinit
  split_ifs at hinit with htotal
  exact ⟨not_le.mp htotal, (Except.ok.inj hinit).symm⟩

/-! ### The system -/

/-- Where a thread is: outside, asleep on the condition variable, or awake and about to return. -/
inductive BarrierPhase
  | outside
  | asleep
  | awake
  deriving DecidableEq, Repr

/-- A thread and the number of its current or last call. -/
structure BarrierCaller where
  phase : BarrierPhase
  call : ℕ
  deriving DecidableEq, Repr

namespace BarrierCaller

/-- The thread is asleep on the condition variable. -/
def Asleep (caller : BarrierCaller) : Prop :=
  caller.phase = .asleep

instance : DecidablePred Asleep :=
  fun caller ↦ inferInstanceAs (Decidable (caller.phase = .asleep))

/-- The thread made awake. -/
def awaken (caller : BarrierCaller) : BarrierCaller :=
  { caller with phase := .awake }

/-- A thread outside is not asleep. -/
theorem not_asleep {caller : BarrierCaller} (houtside : caller.phase = .outside) :
    ¬ caller.Asleep := by
  intro hasleep
  cases houtside.symm.trans hasleep

end BarrierCaller

/-- The calls so far, the generations closed so far, the calls that arrived in each generation, the
calls its release let go, and the calls that returned. -/
structure BarrierHistory where
  calls : ℕ
  generation : ℕ
  arrived : ℕ → Finset ℕ
  letGo : ℕ → Finset ℕ
  returned : Finset ℕ

/-- No call yet. -/
def BarrierHistory.empty : BarrierHistory :=
  { calls := 0, generation := 0, arrived := fun _ ↦ ∅, letGo := fun _ ↦ ∅, returned := ∅ }

/-- A new call arrives in the current generation. -/
def BarrierHistory.arrive (history : BarrierHistory) : BarrierHistory :=
  { history with
    calls := history.calls + 1
    arrived := Function.update history.arrived history.generation
      (insert history.calls (history.arrived history.generation)) }

/-- A release closes the current generation and lets calls go. -/
def BarrierHistory.release (history : BarrierHistory) (letGo : Finset ℕ) : BarrierHistory :=
  { history with
    generation := history.generation + 1
    letGo := Function.update history.letGo history.generation letGo }

/-- A call returns. -/
def BarrierHistory.return (history : BarrierHistory) (call : ℕ) : BarrierHistory :=
  { history with returned := insert call history.returned }

/-- The barrier, the threads calling it, and the history. -/
structure BarrierState (Thread : Type*) where
  barrier : Barrier
  callers : Thread → BarrierCaller
  history : BarrierHistory

/-- The steps of the threads: a call up to its wait or its return, a spurious wake-up, and the
return of a call made awake. -/
inductive BarrierLabel (Thread : Type*)
  | wait (thread : Thread)
  | spurious (thread : Thread)
  | resume (thread : Thread)
  deriving DecidableEq

variable {Thread : Type*} [Fintype Thread] [DecidableEq Thread]

omit [DecidableEq Thread] in
/-- The calls asleep on the condition variable. -/
def sleepingCalls (callers : Thread → BarrierCaller) : Finset ℕ :=
  (Finset.univ.filter fun thread ↦ (callers thread).Asleep).image fun thread ↦
    (callers thread).call

/-- One step of threads calling `barrier_wait`. -/
def barrierNext (state : BarrierState Thread) :
    BarrierLabel Thread → Option (BarrierState Thread)
  | .wait thread =>
    if (state.callers thread).phase = .outside then
      let call := state.history.calls
      match barrierWait state.barrier with
      | (barrier, .sleeps) =>
        some
          { barrier := barrier
            callers := Function.update state.callers thread { phase := .asleep, call := call }
            history := state.history.arrive }
      | (barrier, .broadcasts) =>
        let letGo := insert call (sleepingCalls state.callers)
        some
          { barrier := barrier
            callers := Function.update
              (broadcast BarrierCaller.Asleep BarrierCaller.awaken state.callers) thread
              { phase := .outside, call := call }
            history := (state.history.arrive.release letGo).return call }
    else none
  | .spurious thread =>
    if (state.callers thread).phase = .asleep then
      some { state with
        callers := Function.update state.callers thread (state.callers thread).awaken }
    else none
  | .resume thread =>
    if (state.callers thread).phase = .awake then
      some { state with
        callers := Function.update state.callers thread
          { state.callers thread with phase := .outside }
        history := state.history.return (state.callers thread).call }
    else none

/-- Threads calling `barrier_wait` on a barrier initialized for a total, all outside at first. -/
def barrierSystem (Thread : Type*) [Fintype Thread] [DecidableEq Thread] (total : ℤ) :
    TransitionSystem (BarrierState Thread) (BarrierLabel Thread) where
  initial := fun state ↦
    barrierInit total true = .ok state.barrier ∧
      (∀ thread, (state.callers thread).phase = .outside) ∧ state.history = .empty
  next := barrierNext

/-! ### Generations -/

/-- Calls return from closed generations only, and a closed generation is the total of calls its
release let go. -/
structure GenerationsSound (total : ℤ) (history : BarrierHistory) : Prop where
  returns : ∀ call ∈ history.returned, ∃ generation < history.generation,
    call ∈ history.arrived generation ∧ ((history.arrived generation).card : ℤ) = total
  releases : ∀ generation < history.generation,
    history.letGo generation = history.arrived generation ∧
      ((history.arrived generation).card : ℤ) = total

omit [Fintype Thread] [DecidableEq Thread] in
/-- The step is not a wake-up without a broadcast. -/
def WokenByBroadcast (_ : BarrierState Thread) : BarrierLabel Thread → Prop
  | .spurious _ => False
  | _ => True

/-- Calls are numbered in the order they arrive, and each arrives in one generation. -/
structure Numbered (history : BarrierHistory) : Prop where
  below : ∀ generation, ∀ call ∈ history.arrived generation, call < history.calls
  separate : ∀ first second call, call ∈ history.arrived first → call ∈ history.arrived second →
    first = second

/-- What every state of a run without spurious wake-ups satisfies: the count is the number of
calls of the current generation, fewer than the total, all of them asleep, and a call that is
awake belongs to a closed generation. -/
structure BarrierInvariant (total : ℤ) (state : BarrierState Thread) : Prop where
  unchanged : state.barrier.total = total
  counted : state.barrier.count = (state.history.arrived state.history.generation).card
  missing : state.barrier.count < total
  sleepers : state.history.arrived state.history.generation = sleepingCalls state.callers
  numbered : Numbered state.history
  later : ∀ generation > state.history.generation, state.history.arrived generation = ∅
  awake : ∀ thread, (state.callers thread).phase = .awake →
    ∃ generation < state.history.generation,
      (state.callers thread).call ∈ state.history.arrived generation
  sound : GenerationsSound total state.history

omit [Fintype Thread] in
/-- A caller that is not awake changes nothing about the callers that are. -/
theorem awake_update (property : BarrierCaller → Prop) {callers : Thread → BarrierCaller}
    {thread : Thread} {caller : BarrierCaller} (hcaller : caller.phase ≠ .awake)
    (hothers : ∀ other, (callers other).phase = .awake → property (callers other)) :
    ∀ other, (Function.update callers thread caller other).phase = .awake →
      property (Function.update callers thread caller other) := by
  intro other hawake
  by_cases hother : other = thread
  · subst other
    rw [Function.update_self] at hawake
    exact absurd hawake hcaller
  · rw [Function.update_of_ne hother] at hawake ⊢
    exact hothers other hawake

/-- A thread outside that falls asleep adds its call to the sleeping ones. -/
theorem sleepingCalls_sleep {callers : Thread → BarrierCaller} {thread : Thread}
    (houtside : (callers thread).phase = .outside) (call : ℕ) :
    sleepingCalls (Function.update callers thread { phase := .asleep, call := call }) =
      insert call (sleepingCalls callers) := by
  ext other
  simp only [sleepingCalls, Finset.mem_image, Finset.mem_filter, Finset.mem_univ, true_and,
    Finset.mem_insert]
  constructor
  · rintro ⟨sleeper, hasleep, rfl⟩
    by_cases hsame : sleeper = thread
    · subst sleeper
      rw [Function.update_self]
      exact Or.inl rfl
    · rw [Function.update_of_ne hsame] at hasleep ⊢
      exact Or.inr ⟨sleeper, hasleep, rfl⟩
  · rintro (rfl | ⟨sleeper, hasleep, rfl⟩)
    · refine ⟨thread, ?_, ?_⟩ <;> rw [Function.update_self]
      rfl
    · have hother : sleeper ≠ thread := by
        rintro rfl
        cases houtside.symm.trans hasleep
      refine ⟨sleeper, ?_, ?_⟩ <;> rw [Function.update_of_ne hother]
      exact hasleep

omit [DecidableEq Thread] in
/-- Where nobody sleeps no call is asleep. -/
theorem sleepingCalls_eq_empty {callers : Thread → BarrierCaller}
    (hnobody : ∀ thread, ¬ (callers thread).Asleep) : sleepingCalls callers = ∅ := by
  simp [sleepingCalls, hnobody]

/-- A thread that is not asleep moves to a phase that is not asleep and the sleeping calls stay. -/
theorem sleepingCalls_move {callers : Thread → BarrierCaller} {thread : Thread}
    {caller : BarrierCaller} (hbefore : ¬ (callers thread).Asleep) (hafter : ¬ caller.Asleep) :
    sleepingCalls (Function.update callers thread caller) = sleepingCalls callers := by
  ext call
  simp only [sleepingCalls, Finset.mem_image, Finset.mem_filter, Finset.mem_univ, true_and]
  constructor
  · rintro ⟨sleeper, hasleep, rfl⟩
    by_cases hsame : sleeper = thread
    · subst sleeper
      rw [Function.update_self] at hasleep
      exact absurd hasleep hafter
    · rw [Function.update_of_ne hsame] at hasleep ⊢
      exact ⟨sleeper, hasleep, rfl⟩
  · rintro ⟨sleeper, hasleep, rfl⟩
    have hother : sleeper ≠ thread := fun h ↦ hbefore (h ▸ hasleep)
    refine ⟨sleeper, ?_, ?_⟩ <;> rw [Function.update_of_ne hother]
    exact hasleep

/-- The arrivals of a generation after one more call. -/
theorem arrived_arrive (history : BarrierHistory) (generation : ℕ) :
    history.arrive.arrived generation =
      if generation = history.generation then insert history.calls (history.arrived generation)
      else history.arrived generation := by
  unfold BarrierHistory.arrive
  by_cases hcurrent : generation = history.generation
  · subst generation
    rw [if_pos rfl]
    exact Function.update_self _ _ _
  · rw [if_neg hcurrent]
    exact Function.update_of_ne hcurrent _ _

/-- The new call arrives in the current generation. -/
theorem arrived_arrive_current (history : BarrierHistory) :
    history.arrive.arrived history.generation =
      insert history.calls (history.arrived history.generation) := by
  rw [arrived_arrive, if_pos rfl]

/-- The new call arrives in no other generation. -/
theorem arrived_arrive_of_ne {history : BarrierHistory} {generation : ℕ}
    (hother : generation ≠ history.generation) :
    history.arrive.arrived generation = history.arrived generation := by
  rw [arrived_arrive, if_neg hother]

/-- The number of the next call is new. -/
theorem Numbered.calls_notMem {history : BarrierHistory} (hnumbered : Numbered history)
    (generation : ℕ) : history.calls ∉ history.arrived generation :=
  fun hmem ↦ lt_irrefl _ (hnumbered.below generation _ hmem)

/-- A new call keeps the numbering. -/
theorem Numbered.arrive {history : BarrierHistory} (hnumbered : Numbered history) :
    Numbered history.arrive := by
  have hmember (generation call : ℕ) (hmem : call ∈ history.arrive.arrived generation) :
      (generation = history.generation ∧ call = history.calls) ∨
        call ∈ history.arrived generation := by
    rw [arrived_arrive] at hmem
    split_ifs at hmem with hcurrent
    · exact (Finset.mem_insert.mp hmem).imp_left fun hcall ↦ ⟨hcurrent, hcall⟩
    · exact Or.inr hmem
  constructor
  · intro generation call hmem
    rcases hmember generation call hmem with ⟨_, rfl⟩ | hbefore
    · exact Nat.lt_succ_self _
    · exact Nat.lt_succ_of_lt (hnumbered.below generation call hbefore)
  · intro first second call hfirst hsecond
    rcases hmember first call hfirst with ⟨hone, hcall⟩ | hone <;>
      rcases hmember second call hsecond with ⟨htwo, hcall'⟩ | htwo
    · rw [hone, htwo]
    · exact absurd (hcall ▸ htwo) (hnumbered.calls_notMem second)
    · exact absurd (hcall' ▸ hone) (hnumbered.calls_notMem first)
    · exact hnumbered.separate first second call hone htwo

namespace GenerationsSound

variable {total : ℤ} {history : BarrierHistory}

/-- A new call leaves the closed generations as they are. -/
theorem arrive (hsound : GenerationsSound total history) :
    GenerationsSound total history.arrive := by
  have hclosed (generation : ℕ) (hbefore : generation < history.generation) :
      history.arrive.arrived generation = history.arrived generation :=
    arrived_arrive_of_ne hbefore.ne
  constructor
  · intro call hreturned
    obtain ⟨generation, hbefore, hmem, hcard⟩ := hsound.returns call hreturned
    rw [← hclosed generation hbefore] at hmem hcard
    exact ⟨generation, hbefore, hmem, hcard⟩
  · intro generation hbefore
    rw [hclosed generation hbefore]
    exact hsound.releases generation hbefore

/-- A release that lets all calls of a full generation go closes it. -/
theorem release (hsound : GenerationsSound total history) {letGo : Finset ℕ}
    (hletGo : letGo = history.arrived history.generation)
    (hfull : ((history.arrived history.generation).card : ℤ) = total) :
    GenerationsSound total (history.release letGo) := by
  constructor
  · intro call hreturned
    obtain ⟨generation, hbefore, hmem, hcard⟩ := hsound.returns call hreturned
    exact ⟨generation, Nat.lt_succ_of_lt hbefore, hmem, hcard⟩
  · intro generation hbefore
    change Function.update history.letGo history.generation letGo generation =
      history.arrived generation ∧ ((history.arrived generation).card : ℤ) = total
    rcases Nat.lt_succ_iff_lt_or_eq.mp hbefore with hearlier | rfl
    · rw [Function.update_of_ne hearlier.ne]
      exact hsound.releases generation hearlier
    · rw [Function.update_self]
      exact ⟨hletGo, hfull⟩

/-- A call of a closed generation can return. -/
theorem call_returns (hsound : GenerationsSound total history) {call generation : ℕ}
    (hbefore : generation < history.generation) (hmem : call ∈ history.arrived generation) :
    GenerationsSound total (history.return call) := by
  refine ⟨fun other hreturned ↦ ?_, hsound.releases⟩
  rcases Finset.mem_insert.mp hreturned with rfl | hreturned
  · exact ⟨generation, hbefore, hmem, (hsound.releases generation hbefore).2⟩
  · exact hsound.returns other hreturned

end GenerationsSound

namespace BarrierInvariant

variable {total : ℤ} {state successor : BarrierState Thread} {label : BarrierLabel Thread}

/-- A call that does not complete the count keeps the invariant. -/
theorem sleep (hinvariant : BarrierInvariant total state) {thread : Thread}
    (houtside : (state.callers thread).phase = .outside)
    (hmissing : state.barrier.count + 1 < state.barrier.total) :
    BarrierInvariant total
      { barrier := { state.barrier with count := state.barrier.count + 1 }
        callers := Function.update state.callers thread
          { phase := .asleep, call := state.history.calls }
        history := state.history.arrive } := by
  have hfresh := hinvariant.numbered.calls_notMem state.history.generation
  refine ⟨hinvariant.unchanged, ?_, ?_, ?_, hinvariant.numbered.arrive, ?_, ?_,
    hinvariant.sound.arrive⟩
  · show state.barrier.count + 1 =
      ((state.history.arrive.arrived state.history.generation).card : ℤ)
    rw [arrived_arrive_current, Finset.card_insert_of_notMem hfresh, hinvariant.counted]
    rfl
  · rw [← hinvariant.unchanged]
    exact hmissing
  · show state.history.arrive.arrived state.history.generation = _
    rw [arrived_arrive_current, sleepingCalls_sleep houtside, hinvariant.sleepers]
  · show ∀ generation > state.history.generation, state.history.arrive.arrived generation = ∅
    intro generation hlater
    rw [arrived_arrive_of_ne hlater.ne']
    exact hinvariant.later generation hlater
  · apply awake_update fun caller ↦ ∃ generation < state.history.generation,
      caller.call ∈ state.history.arrive.arrived generation
    · exact BarrierPhase.noConfusion
    · intro other hawake
      obtain ⟨generation, hbefore, hmem⟩ := hinvariant.awake other hawake
      rw [← arrived_arrive_of_ne hbefore.ne] at hmem
      exact ⟨generation, hbefore, hmem⟩

/-- A call that completes the count closes the generation with all of its calls. -/
theorem release (hinvariant : BarrierInvariant total state) {thread : Thread}
    (hcomplete : state.barrier.total ≤ state.barrier.count + 1) :
    BarrierInvariant total
      { barrier := { state.barrier with count := 0 }
        callers := Function.update
          (broadcast BarrierCaller.Asleep BarrierCaller.awaken state.callers) thread
          { phase := .outside, call := state.history.calls }
        history := (state.history.arrive.release (insert state.history.calls
          (sleepingCalls state.callers))).return state.history.calls } := by
  have htotal := hinvariant.unchanged
  have hmissing := hinvariant.missing
  have hcounted := hinvariant.counted
  have hcurrent := arrived_arrive_current state.history
  have hfresh := hinvariant.numbered.calls_notMem state.history.generation
  have hfull : ((state.history.arrive.arrived state.history.generation).card : ℤ) = total := by
    rw [hcurrent, Finset.card_insert_of_notMem hfresh]
    push_cast
    omega
  have hletGo : insert state.history.calls (sleepingCalls state.callers) =
      state.history.arrive.arrived state.history.generation := by
    rw [hcurrent, hinvariant.sleepers]
  have hnext : state.history.arrive.arrived (state.history.generation + 1) = ∅ := by
    rw [arrived_arrive_of_ne (Nat.succ_ne_self _)]
    exact hinvariant.later _ (Nat.lt_succ_self _)
  have hpositive : 0 < total := by
    rw [← hfull, hcurrent, Int.natCast_pos]
    exact Finset.card_pos.mpr (Finset.insert_nonempty _ _)
  have hnobody (other : Thread) : ¬ (broadcast BarrierCaller.Asleep BarrierCaller.awaken
      state.callers other).Asleep :=
    not_asleep_broadcast (fun _ ↦ BarrierPhase.noConfusion) state.callers other
  have hnumbered := hinvariant.numbered.arrive
  refine ⟨htotal, ?_, hpositive, ?_, ⟨hnumbered.below, hnumbered.separate⟩, ?_, ?_,
    (hinvariant.sound.arrive.release hletGo hfull).call_returns (Nat.lt_succ_self _) ?_⟩
  · show (0 : ℤ) = ((state.history.arrive.arrived (state.history.generation + 1)).card : ℤ)
    rw [hnext]
    rfl
  · show state.history.arrive.arrived (state.history.generation + 1) = _
    rw [hnext, sleepingCalls_move (hnobody thread) (BarrierCaller.not_asleep rfl),
      sleepingCalls_eq_empty hnobody]
  · show ∀ generation > state.history.generation + 1, state.history.arrive.arrived generation = ∅
    intro generation hlater
    rw [arrived_arrive_of_ne (by omega)]
    exact hinvariant.later generation (by omega)
  · apply awake_update fun caller ↦ ∃ generation < state.history.generation + 1,
      caller.call ∈ state.history.arrive.arrived generation
    · exact BarrierPhase.noConfusion
    · intro other hawake
      -- awake before, in a closed generation, or asleep and in the generation closed now
      rcases broadcast_apply BarrierCaller.Asleep BarrierCaller.awaken state.callers other with
        ⟨_, hsame⟩ | ⟨hasleep, hawoken⟩
      · rw [hsame] at hawake ⊢
        obtain ⟨generation, hbefore, hmem⟩ := hinvariant.awake other hawake
        rw [← arrived_arrive_of_ne hbefore.ne] at hmem
        exact ⟨generation, Nat.lt_succ_of_lt hbefore, hmem⟩
      · rw [hawoken]
        refine ⟨state.history.generation, Nat.lt_succ_self _, ?_⟩
        show (state.callers other).call ∈ state.history.arrive.arrived state.history.generation
        rw [← hletGo]
        refine Finset.mem_insert_of_mem (Finset.mem_image.mpr ⟨other, ?_, rfl⟩)
        exact Finset.mem_filter.mpr ⟨Finset.mem_univ other, hasleep⟩
  · show state.history.calls ∈ state.history.arrive.arrived state.history.generation
    rw [hcurrent]
    exact Finset.mem_insert_self _ _

/-- A call made awake returns from its closed generation. -/
theorem resume (hinvariant : BarrierInvariant total state) {thread : Thread}
    (hawake : (state.callers thread).phase = .awake) :
    BarrierInvariant total
      { state with
        callers := Function.update state.callers thread
          { state.callers thread with phase := .outside }
        history := state.history.return (state.callers thread).call } := by
  have hnot : ¬ (state.callers thread).Asleep := by
    intro hasleep
    cases hawake.symm.trans hasleep
  obtain ⟨generation, hbefore, hmem⟩ := hinvariant.awake thread hawake
  refine ⟨hinvariant.unchanged, hinvariant.counted, hinvariant.missing, ?_,
    ⟨hinvariant.numbered.below, hinvariant.numbered.separate⟩, hinvariant.later, ?_,
    hinvariant.sound.call_returns hbefore hmem⟩
  · rw [sleepingCalls_move hnot (BarrierCaller.not_asleep rfl)]
    exact hinvariant.sleepers
  · apply awake_update fun caller ↦ ∃ generation < state.history.generation,
      caller.call ∈ state.history.arrived generation
    · exact BarrierPhase.noConfusion
    · exact hinvariant.awake

/-- Every step that is not a spurious wake-up keeps the invariant. -/
theorem step (hinvariant : BarrierInvariant total state) (hallowed : WokenByBroadcast state label)
    (hnext : barrierNext state label = some successor) : BarrierInvariant total successor := by
  cases label with
  | wait thread =>
    simp only [barrierNext] at hnext
    split_ifs at hnext with houtside
    by_cases hmissing : state.barrier.count + 1 < state.barrier.total
    · rw [barrierWait_sleeps hmissing] at hnext
      obtain rfl := Option.some.inj hnext
      exact hinvariant.sleep houtside hmissing
    · rw [barrierWait_broadcasts (not_lt.mp hmissing)] at hnext
      obtain rfl := Option.some.inj hnext
      exact hinvariant.release (not_lt.mp hmissing)
  | spurious thread => exact hallowed.elim
  | resume thread =>
    simp only [barrierNext] at hnext
    split_ifs at hnext with hawake
    obtain rfl := Option.some.inj hnext
    exact hinvariant.resume hawake

end BarrierInvariant

/-- Every state of a run without spurious wake-ups satisfies the invariant. -/
theorem barrierInvariant_reachable {total : ℤ} {state : BarrierState Thread}
    (hreach : (barrierSystem Thread total).ReachableUnder WokenByBroadcast state) :
    BarrierInvariant total state := by
  refine hreach.invariant (fun start hstart ↦ ?_) fun _ _ _ hinvariant hallowed hnext ↦
    hinvariant.step hallowed hnext
  obtain ⟨hinit, houtside, hhistory⟩ := hstart
  obtain ⟨hpositive, hbarrier⟩ := barrierInit_ok hinit
  have hnobody (thread : Thread) : ¬ (start.callers thread).Asleep :=
    BarrierCaller.not_asleep (houtside thread)
  constructor
  · rw [hbarrier]
  · rw [hbarrier, hhistory]
    rfl
  · rw [hbarrier]
    exact hpositive
  · rw [sleepingCalls_eq_empty hnobody, hhistory]
    rfl
  · rw [hhistory]
    exact ⟨fun _ call hcall ↦ absurd hcall (Finset.notMem_empty call),
      fun _ _ call hcall ↦ absurd hcall (Finset.notMem_empty call)⟩
  · rw [hhistory]
    exact fun _ _ ↦ rfl
  · intro thread hawake
    cases (houtside thread).symm.trans hawake
  · rw [hhistory]
    exact ⟨fun call hcall ↦ absurd hcall (Finset.notMem_empty call),
      fun generation hbefore ↦ absurd hbefore (Nat.not_lt_zero generation)⟩

/-- A call woken without a broadcast can return from a generation that is not closed. -/
theorem BarrierInvariant.returns_early {total : ℤ} {state successor : BarrierState Thread}
    {thread : Thread} (hinvariant : BarrierInvariant total state)
    (hnext : barrierNext state (.spurious thread) = some successor) :
    ∃ final, barrierNext successor (.resume thread) = some final ∧
      ¬ GenerationsSound total final.history := by
  simp only [barrierNext] at hnext
  split_ifs at hnext with hasleep
  obtain rfl := Option.some.inj hnext
  have hcurrent : (state.callers thread).call ∈
      state.history.arrived state.history.generation := by
    rw [hinvariant.sleepers]
    refine Finset.mem_image.mpr ⟨thread, ?_, rfl⟩
    exact Finset.mem_filter.mpr ⟨Finset.mem_univ thread, hasleep⟩
  refine ⟨{ barrier := state.barrier
            callers := Function.update (Function.update state.callers thread
              (state.callers thread).awaken) thread
              { (state.callers thread).awaken with phase := .outside }
            history := state.history.return (state.callers thread).call }, ?_, fun hsound ↦ ?_⟩
  · simp only [barrierNext, Function.update_self]
    exact if_pos rfl
  · have hreturned : (state.callers thread).call ∈
        insert (state.callers thread).call state.history.returned := Finset.mem_insert_self _ _
    obtain ⟨generation, hclosed, hmem, _⟩ := hsound.returns _ hreturned
    have hsame := hinvariant.numbered.separate _ _ _ hmem hcurrent
    exact absurd hsame hclosed.ne

/-- The barrier releases early exactly through a wake-up without a broadcast. In a run without
such a wake-up every call returns from a closed generation, and every closed generation is the
total of calls that arrived in it and were let go by its release; and after such a wake-up, taken
in a state of such a run, a call returns from a generation that is not closed. -/
theorem generations_sound_iff (Thread : Type*) [Fintype Thread] [DecidableEq Thread]
    (total : ℤ) :
    (barrierSystem Thread total).ExactWithin WokenByBroadcast
      fun state ↦ GenerationsSound total state.history := by
  constructor
  · intro state hreach
    exact (barrierInvariant_reachable hreach).sound
  · intro state label successor hreach hwoken hnext
    cases label with
    | spurious thread =>
      obtain ⟨final, hresume, hunsound⟩ :=
        (barrierInvariant_reachable hreach).returns_early hnext
      exact ⟨final, .single ⟨.resume thread, trivial, hresume⟩, hunsound⟩
    | wait thread => exact absurd trivial hwoken
    | resume thread => exact absurd trivial hwoken

/-- Two threads outside a barrier for two. -/
def twoCallers : BarrierState (Fin 2) :=
  { barrier := { count := 0, total := 2 }
    callers := fun _ ↦ { phase := .outside, call := 0 }
    history := .empty }

/-- Thread 0 alone calls `barrier_wait`, is woken by nobody, and returns. -/
theorem spurious_wakeup_returns_early :
    ¬ ∀ state : BarrierState (Fin 2), (barrierSystem (Fin 2) 2).Reachable state →
      GenerationsSound 2 state.history := by
  intro hclaim
  obtain ⟨final, hrun, hgeneration, hreturned⟩ : ∃ final,
      (barrierSystem (Fin 2) 2).run twoCallers [.wait 0, .spurious 0, .resume 0] = some final ∧
      final.history.generation = 0 ∧ final.history.returned = {0} := ⟨_, rfl, rfl, rfl⟩
  have hreach : (barrierSystem (Fin 2) 2).Reachable final :=
    TransitionSystem.reachable_of_run ⟨rfl, fun _ ↦ rfl, rfl⟩ _ hrun
  obtain ⟨generation, hclosed, _⟩ :=
    (hclaim final hreach).returns 0 (hreturned ▸ Finset.mem_singleton_self 0)
  rw [hgeneration] at hclosed
  exact absurd hclosed (Nat.not_lt_zero generation)

/-- Thread 1 completes the count, thread 0 returns after it, and both calls belong to the closed
generation. -/
theorem generations_sound_iff_two_callers :
    ∃ state : BarrierState (Fin 2),
      (barrierSystem (Fin 2) 2).ReachableUnder WokenByBroadcast state ∧
      state.history.returned = {0, 1} ∧ GenerationsSound 2 state.history := by
  obtain ⟨final, hrun, hreturned⟩ : ∃ final,
      (barrierSystem (Fin 2) 2).run twoCallers [.wait 0, .wait 1, .resume 0] = some final ∧
      final.history.returned = {0, 1} := ⟨_, rfl, by decide⟩
  have hallowed (state : BarrierState (Fin 2)) (label : BarrierLabel (Fin 2))
      (hlabel : label ∈ [BarrierLabel.wait 0, .wait 1, .resume 0]) :
      WokenByBroadcast state label := by
    simp only [List.mem_cons, List.not_mem_nil, or_false] at hlabel
    rcases hlabel with rfl | rfl | rfl <;> exact trivial
  have hreach : (barrierSystem (Fin 2) 2).ReachableUnder WokenByBroadcast final :=
    TransitionSystem.ReachableUnder.run _ hallowed (.initial ⟨rfl, fun _ ↦ rfl, rfl⟩) hrun
  exact ⟨final, hreach, hreturned, (generations_sound_iff (Fin 2) 2).kept final hreach⟩

end Bme680.Barriers
