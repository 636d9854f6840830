import Bme680.Barriers.Generations

/-!
# Every call of the barrier is released

A call of `barrier_wait` that sleeps was counted, and the count is reset by a broadcast only. So
however many calls a spurious wake-up lets go early, as many further calls as the count is short of
the total complete it, and the call that does wakes everybody asleep by then.

The numbers of the calls tell a thread that still sleeps in a call from one that sleeps in a later
one. Along any run the calls that arrive are added to the count until the first broadcast
(`Outstanding`), and the count stays below the total, which bounds how many can arrive before it
(`barrier_releases_sleepers`).
-/

set_option autoImplicit false
set_option relaxedAutoImplicit false

namespace Bme680.Barriers

open Concurrency

variable {Thread : Type*} [Fintype Thread] [DecidableEq Thread]
  {total : ℤ} {state successor : BarrierState Thread} {label : BarrierLabel Thread}

/-! ### The steps -/

/-- What a step can do: a call is counted and sleeps, a call completes the count and wakes all the
sleepers, a sleeper wakes up by itself, or a call returns. -/
inductive BarrierStep (state : BarrierState Thread) :
    BarrierLabel Thread → BarrierState Thread → Prop
  | sleeps {thread : Thread} (houtside : (state.callers thread).phase = .outside)
      (hmissing : state.barrier.count + 1 < state.barrier.total) :
      BarrierStep state (.wait thread)
        { barrier := { state.barrier with count := state.barrier.count + 1 }
          callers := Function.update state.callers thread
            { phase := .asleep, call := state.history.calls }
          history := state.history.arrive }
  | releases {thread : Thread} (houtside : (state.callers thread).phase = .outside)
      (hcomplete : state.barrier.total ≤ state.barrier.count + 1) :
      BarrierStep state (.wait thread)
        { barrier := { state.barrier with count := 0 }
          callers := Function.update
            (broadcast BarrierCaller.Asleep BarrierCaller.awaken state.callers) thread
            { phase := .outside, call := state.history.calls }
          history := (state.history.arrive.release (insert state.history.calls
            (sleepingCalls state.callers))).return state.history.calls }
  | spurious {thread : Thread} (hasleep : (state.callers thread).phase = .asleep) :
      BarrierStep state (.spurious thread)
        { state with
          callers := Function.update state.callers thread (state.callers thread).awaken }
  | resumes {thread : Thread} (hawake : (state.callers thread).phase = .awake) :
      BarrierStep state (.resume thread)
        { state with
          callers := Function.update state.callers thread
            { state.callers thread with phase := .outside }
          history := state.history.return (state.callers thread).call }

/-- Every step of the system is one of these. -/
theorem barrierNext_cases (hnext : barrierNext state label = some successor) :
    BarrierStep state label successor := by
  cases label with
  | wait thread =>
    simp only [barrierNext] at hnext
    split_ifs at hnext with houtside
    by_cases hmissing : state.barrier.count + 1 < state.barrier.total
    · rw [barrierWait_sleeps hmissing] at hnext
      obtain rfl := Option.some.inj hnext
      exact .sleeps houtside hmissing
    · rw [barrierWait_broadcasts (not_lt.mp hmissing)] at hnext
      obtain rfl := Option.some.inj hnext
      exact .releases houtside (not_lt.mp hmissing)
  | spurious thread =>
    simp only [barrierNext] at hnext
    split_ifs at hnext with hasleep
    obtain rfl := Option.some.inj hnext
    exact .spurious hasleep
  | resume thread =>
    simp only [barrierNext] at hnext
    split_ifs at hnext with hawake
    obtain rfl := Option.some.inj hnext
    exact .resumes hawake

/-! ### The count -/

/-- What holds of every state, spurious wake-ups or not: the sleepers are counted, the count is
short of the total, and every call has a number below that of the next one. -/
structure Counted (total : ℤ) (state : BarrierState Thread) : Prop where
  unchanged : state.barrier.total = total
  missing : state.barrier.count < total
  sleepers : (threadCount BarrierCaller.Asleep state.callers : ℤ) ≤ state.barrier.count
  numbered : ∀ thread, (state.callers thread).Asleep →
    (state.callers thread).call < state.history.calls

/-- A thread that moves without falling asleep keeps what holds of the sleepers. -/
theorem Counted.wakes (hcounted : Counted total state) {thread : Thread} {caller : BarrierCaller}
    (hcaller : ¬ caller.Asleep) (history : BarrierHistory)
    (hcalls : history.calls = state.history.calls) :
    Counted total
      { barrier := state.barrier
        callers := Function.update state.callers thread caller
        history := history } := by
  refine ⟨hcounted.unchanged, hcounted.missing, ?_, fun other hasleep ↦ ?_⟩
  · have hcount := threadCount_update_add BarrierCaller.Asleep state.callers thread caller
    have hbound := hcounted.sleepers
    rw [if_neg hcaller] at hcount
    dsimp only
    omega
  · dsimp only at hasleep ⊢
    rw [hcalls]
    by_cases hsame : other = thread
    · subst other
      rw [Function.update_self] at hasleep
      exact absurd hasleep hcaller
    · rw [Function.update_of_ne hsame] at hasleep ⊢
      exact hcounted.numbered other hasleep

/-- Every step keeps the sleepers counted. -/
theorem Counted.step (hcounted : Counted total state)
    (hnext : barrierNext state label = some successor) : Counted total successor := by
  have htotal := hcounted.unchanged
  cases barrierNext_cases hnext with
  | @sleeps thread houtside hmissing =>
    have hcount := threadCount_update_add BarrierCaller.Asleep state.callers thread
      { phase := .asleep, call := state.history.calls }
    have hbound := hcounted.sleepers
    have hasleep : BarrierCaller.Asleep { phase := .asleep, call := state.history.calls } := rfl
    rw [if_neg (BarrierCaller.not_asleep houtside), if_pos hasleep] at hcount
    refine ⟨htotal, htotal ▸ hmissing, ?_, fun other hasleep ↦ ?_⟩
    · dsimp only
      omega
    · show (Function.update state.callers thread _ other).call < state.history.calls + 1
      by_cases hsame : other = thread
      · subst other
        rw [Function.update_self]
        exact Nat.lt_succ_self _
      · dsimp only at hasleep
        rw [Function.update_of_ne hsame] at hasleep ⊢
        exact Nat.lt_succ_of_lt (hcounted.numbered other hasleep)
  | @releases thread houtside hcomplete =>
    have hnobody : ∀ other, ¬ (Function.update
        (broadcast BarrierCaller.Asleep BarrierCaller.awaken state.callers) thread
        { phase := .outside, call := state.history.calls } other).Asleep := by
      intro other
      by_cases hsame : other = thread
      · subst other
        rw [Function.update_self]
        exact BarrierCaller.not_asleep rfl
      · rw [Function.update_of_ne hsame]
        exact not_asleep_broadcast (fun _ ↦ BarrierPhase.noConfusion) state.callers other
    have hpositive : 0 ≤ state.barrier.count := (Int.natCast_nonneg _).trans hcounted.sleepers
    refine ⟨htotal, ?_, ?_, fun other hasleep ↦ absurd hasleep (hnobody other)⟩
    · show (0 : ℤ) < total
      exact hpositive.trans_lt hcounted.missing
    · dsimp only
      rw [threadCount_eq_zero_iff.mpr hnobody]
      rfl
  | @spurious thread hasleep =>
    exact hcounted.wakes (fun hstill ↦ BarrierPhase.noConfusion hstill) _ rfl
  | @resumes thread hawake =>
    exact hcounted.wakes (BarrierCaller.not_asleep rfl) _ rfl

/-- The sleepers are counted in every reachable state. -/
theorem counted_of_reachable (hreach : (barrierSystem Thread total).Reachable state) :
    Counted total state := by
  refine hreach.invariant (fun start hstart ↦ ?_) fun _ _ _ hcounted _ hnext ↦
    hcounted.step hnext
  obtain ⟨hinit, houtside, -⟩ := hstart
  obtain ⟨hpositive, hbarrier⟩ := barrierInit_ok hinit
  have hnobody : ∀ thread, ¬ (start.callers thread).Asleep := fun thread ↦
    BarrierCaller.not_asleep (houtside thread)
  refine ⟨?_, ?_, ?_, fun thread hasleep ↦ absurd hasleep (hnobody thread)⟩
  · rw [hbarrier]
  · rw [hbarrier]
    exact hpositive
  · rw [threadCount_eq_zero_iff.mpr hnobody, hbarrier]
    rfl

/-! ### A sleeping call -/

omit [Fintype Thread] [DecidableEq Thread] in
/-- The thread sleeps in the call of a number. -/
def SleepsIn (state : BarrierState Thread) (thread : Thread) (call : ℕ) : Prop :=
  (state.callers thread).phase = .asleep ∧ (state.callers thread).call = call

/-- A thread that sleeps in an earlier call has slept in it since before the step, and no broadcast
has reset the count. -/
theorem sleepsIn_of_step (hnext : barrierNext state label = some successor) {thread : Thread}
    {call : ℕ} (hcall : call < state.history.calls) (hafter : SleepsIn successor thread call) :
    SleepsIn state thread call ∧
      successor.barrier.count - state.barrier.count =
        (successor.history.calls : ℤ) - state.history.calls := by
  obtain ⟨hasleep, hnumber⟩ := hafter
  cases barrierNext_cases hnext with
  | @sleeps mover houtside hmissing =>
    have hother : thread ≠ mover := by
      rintro rfl
      dsimp only at hnumber
      rw [Function.update_self] at hnumber
      exact absurd hnumber hcall.ne'
    dsimp only at hasleep hnumber
    rw [Function.update_of_ne hother] at hasleep hnumber
    refine ⟨⟨hasleep, hnumber⟩, ?_⟩
    show state.barrier.count + 1 - state.barrier.count =
      ((state.history.calls + 1 : ℕ) : ℤ) - state.history.calls
    push_cast
    omega
  | @releases mover houtside hcomplete =>
    have hnobody : ¬ (broadcast BarrierCaller.Asleep BarrierCaller.awaken state.callers
        thread).Asleep :=
      not_asleep_broadcast (fun _ ↦ BarrierPhase.noConfusion) state.callers thread
    refine absurd hasleep ?_
    dsimp only
    by_cases hsame : thread = mover
    · rw [hsame, Function.update_self]
      exact BarrierPhase.noConfusion
    · rw [Function.update_of_ne hsame]
      exact hnobody
  | @spurious mover hawoken =>
    have hother : thread ≠ mover := by
      rintro rfl
      dsimp only at hasleep
      rw [Function.update_self] at hasleep
      exact BarrierPhase.noConfusion hasleep
    dsimp only at hasleep hnumber
    rw [Function.update_of_ne hother] at hasleep hnumber
    exact ⟨⟨hasleep, hnumber⟩, by simp⟩
  | @resumes mover hawake =>
    have hother : thread ≠ mover := by
      rintro rfl
      dsimp only at hasleep
      rw [Function.update_self] at hasleep
      exact BarrierPhase.noConfusion hasleep
    dsimp only at hasleep hnumber
    rw [Function.update_of_ne hother] at hasleep hnumber
    refine ⟨⟨hasleep, hnumber⟩, ?_⟩
    show state.barrier.count - state.barrier.count =
      (state.history.calls : ℤ) - state.history.calls
    rw [sub_self, sub_self]

/-- Calls are only added. -/
theorem calls_le_of_step (hnext : barrierNext state label = some successor) :
    state.history.calls ≤ successor.history.calls := by
  cases barrierNext_cases hnext with
  | sleeps houtside hmissing => exact Nat.le_succ _
  | releases houtside hcomplete => exact Nat.le_succ _
  | spurious hasleep => exact le_rfl
  | resumes hawake => exact le_rfl

/-- A thread that still sleeps in a call after more steps has slept in it all along, and every call
that arrived meanwhile was added to the count. -/
theorem outstanding_of_continuation {thread : Thread} {call : ℕ}
    (hcall : call < state.history.calls)
    (hmore : (barrierSystem Thread total).Continuation (fun _ _ ↦ True) state successor) :
    state.history.calls ≤ successor.history.calls ∧
      (SleepsIn successor thread call →
        successor.barrier.count - state.barrier.count =
          (successor.history.calls : ℤ) - state.history.calls) := by
  induction hmore with
  | refl => exact ⟨le_rfl, fun _ ↦ by rw [sub_self, sub_self]⟩
  | tail _ hlast ih =>
    obtain ⟨label, -, hnext⟩ := hlast
    obtain ⟨hless, hcount⟩ := ih
    refine ⟨hless.trans (calls_le_of_step hnext), fun hafter ↦ ?_⟩
    obtain ⟨hbefore, hchange⟩ := sleepsIn_of_step hnext (hcall.trans_le hless) hafter
    have hsofar := hcount hbefore
    omega

/-- However calls are woken up, while threads sleep there are no more of them than the count, which
is below the total; and once as many calls have arrived after a state as its count is short of the
total, every call that slept in that state has been woken up. -/
theorem barrier_releases_sleepers (hreach : (barrierSystem Thread total).Reachable state) :
    (threadCount BarrierCaller.Asleep state.callers : ℤ) ≤ state.barrier.count ∧
      state.barrier.count < total ∧
      ∀ successor, (barrierSystem Thread total).Continuation (fun _ _ ↦ True) state successor →
        state.history.calls + total ≤ successor.history.calls + state.barrier.count →
        ∀ thread, (state.callers thread).phase = .asleep →
          ¬ SleepsIn successor thread (state.callers thread).call := by
  have hcounted := counted_of_reachable hreach
  refine ⟨hcounted.sleepers, hcounted.missing, ?_⟩
  intro successor hmore harrived thread hasleep hstill
  have hchange := (outstanding_of_continuation (hcounted.numbered thread hasleep) hmore).2 hstill
  have hmissing := (counted_of_reachable (hreach.continue hmore)).missing
  omega

/-- A call sleeps, a spurious wake-up lets it return, and two further calls complete the count of
three: the one that slept is woken up. -/
theorem barrier_releases_sleepers_after_spurious :
    ∃ state successor : BarrierState (Fin 3), (barrierSystem (Fin 3) 3).Reachable state ∧
      (state.callers 1).phase = .asleep ∧ state.barrier.count = 2 ∧
      threadCount BarrierCaller.Asleep state.callers = 1 ∧
      (barrierSystem (Fin 3) 3).next state (.wait 2) = some successor ∧
      ¬ SleepsIn successor 1 1 := by
  obtain ⟨state, hrun, hasleep, hcall, hcount, hcalls, hsleepers⟩ : ∃ state,
      (barrierSystem (Fin 3) 3).run
        { barrier := { count := 0, total := 3 }
          callers := fun _ ↦ { phase := .outside, call := 0 }
          history := .empty }
        [.wait 0, .wait 1, .spurious 0, .resume 0] = some state ∧
        (state.callers 1).phase = .asleep ∧ (state.callers 1).call = 1 ∧
        state.barrier.count = 2 ∧ state.history.calls = 2 ∧
        threadCount BarrierCaller.Asleep state.callers = 1 :=
    ⟨_, rfl, rfl, rfl, rfl, rfl, by decide⟩
  have hreach : (barrierSystem (Fin 3) 3).Reachable state :=
    TransitionSystem.reachable_of_run ⟨rfl, fun _ ↦ rfl, rfl⟩ _ hrun
  obtain ⟨successor, hnext, hafter⟩ : ∃ successor,
      (barrierSystem (Fin 3) 3).next state (.wait 2) = some successor ∧
        successor.history.calls = 3 := by
    obtain rfl := Option.some.inj hrun
    exact ⟨_, rfl, rfl⟩
  have hreleased := (barrier_releases_sleepers hreach).2.2 successor
    (.single ⟨.wait 2, trivial, hnext⟩) (by rw [hcalls, hafter, hcount]; decide) 1 hasleep
  rw [hcall] at hreleased
  exact ⟨state, successor, hreach, hasleep, hcount, hsleepers, hnext, hreleased⟩

end Bme680.Barriers
