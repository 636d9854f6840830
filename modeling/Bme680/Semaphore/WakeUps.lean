import Bme680.Concurrency.Attendance
import Bme680.Semaphore.CountConservation

/-!
# The FIFO semaphore loses no post

A post signals one sleeper, but the unit it adds can be taken by a thread that has just called
`fifo_semaphore_wait`, and a sleeper may leave `pthread_cond_timedwait` by itself, with or without
an error. Who gets the unit is open (`fifo_order_exact`); that somebody does is not: while a thread
sleeps, the counter is at most the number of threads back from their wait with zero and about to
test it. So a unit never lies about beside sleepers only, and where one does lie about, one of the
awakened threads can take it at once (`semaphore_no_lost_post`).

Nothing is assumed of the counter: a post at the greatest `int` makes it negative, and then there is
no unit to be lost.
-/

set_option autoImplicit false
set_option relaxedAutoImplicit false

namespace Bme680.Semaphore

open Arithmetic Concurrency

/-! ### Awakened threads -/

/-- The thread is asleep on the condition variable. -/
def WaitPhase.Asleep (phase : WaitPhase) : Prop :=
  phase = .asleep

instance : DecidablePred WaitPhase.Asleep :=
  fun phase ↦ inferInstanceAs (Decidable (phase = .asleep))

/-- The thread is back from `pthread_cond_timedwait` with zero, and about to test the counter. -/
def WaitPhase.Retests (phase : WaitPhase) : Prop :=
  phase = .awake 0

instance : DecidablePred WaitPhase.Retests :=
  fun phase ↦ inferInstanceAs (Decidable (phase = .awake 0))

@[simp] theorem WaitPhase.not_retests_outside : ¬ WaitPhase.outside.Retests := by
  simp [WaitPhase.Retests]

@[simp] theorem WaitPhase.not_retests_entering : ¬ WaitPhase.entering.Retests := by
  simp [WaitPhase.Retests]

@[simp] theorem WaitPhase.not_retests_asleep : ¬ WaitPhase.asleep.Retests := by
  simp [WaitPhase.Retests]

/-- A unit added to the counter makes it at most one greater, at the greatest `int` too. -/
theorem toInt_count_succ_le (count : Int32) : (count + 1).toInt ≤ count.toInt + 1 := by
  have hrange := range32 count
  by_cases hmax : count.toInt < 2147483647
  · exact (toInt_count_succ hmax).le
  · have hafter := range32 (count + 1)
    omega

/-- A post leaves a counter at most one greater. -/
theorem fifoSemaphorePost_count_le (sem : FifoSemaphore) :
    (fifoSemaphorePost sem).1.count.toInt ≤ sem.count.toInt + 1 := by
  unfold fifoSemaphorePost
  split_ifs <;> exact toInt_count_succ_le sem.count

variable {Thread : Type*} [DecidableEq Thread] [Fintype Thread]
  {state successor : SemaphoreState Thread}

/-! ### Runs -/

/-- While a thread sleeps, the counter is at most the number of threads about to test it again. -/
def SemaphoreState.Attended (state : SemaphoreState Thread) : Prop :=
  Concurrency.Attended WaitPhase.Asleep WaitPhase.Retests state.sem.count.toInt state.phases

/-- A section of a call keeps the sleepers attended. -/
theorem SemaphoreState.Attended.section (hattended : state.Attended) {thread : Thread}
    (hnext : semaphoreNext state (.section thread) = some successor) : successor.Attended := by
  rcases semaphoreNext_section_cases hnext with
    ⟨hfailed, code, -, rfl⟩ | ⟨-, hempty, rfl⟩ | ⟨hwaits, hunit, rfl⟩
  · -- the wait failed, so that the thread was not about to test the counter
    have hnot : ¬ (state.phases thread).Retests := fun hretests ↦
      hfailed (Or.inr (Or.inr hretests))
    refine hattended.move (fun hasleep ↦ WaitPhase.noConfusion hasleep) ?_
    rw [if_neg hnot, if_neg WaitPhase.not_retests_outside]
    rfl
  · exact .of_nothing (by simpa [Int32.le_iff_toInt_le] using hempty)
  · refine hattended.move (fun hasleep ↦ WaitPhase.noConfusion hasleep) ?_
    have hcount := toInt_count_pred hunit
    rw [if_neg WaitPhase.not_retests_outside]
    show (state.sem.count - 1).toInt + _ ≤ _
    split_ifs <;> omega

/-- Every step keeps the sleepers attended. -/
theorem SemaphoreState.Attended.step (hattended : state.Attended) {label : SemaphoreLabel Thread}
    (hnext : semaphoreNext state label = some successor) : successor.Attended := by
  cases label with
  | enter thread =>
    simp only [semaphoreNext] at hnext
    split_ifs at hnext with houtside
    obtain rfl := Option.some.inj hnext
    refine hattended.move (fun hasleep ↦ WaitPhase.noConfusion hasleep) ?_
    rw [houtside, if_neg WaitPhase.not_retests_outside, if_neg WaitPhase.not_retests_entering]
  | «section» thread => exact hattended.section hnext
  | wakeUp thread ret =>
    simp only [semaphoreNext] at hnext
    split_ifs at hnext with hasleep
    obtain rfl := Option.some.inj hnext
    refine hattended.move (fun hstill ↦ WaitPhase.noConfusion hstill) ?_
    rw [hasleep, if_neg WaitPhase.not_retests_asleep]
    show state.sem.count.toInt + 0 ≤ _
    split_ifs <;> omega
  | post woken =>
    have hcount := fifoSemaphorePost_count_le state.sem
    simp only [semaphoreNext] at hnext
    split_ifs at hnext with hret hnobody
    · obtain ⟨phases, hsignal, rfl⟩ := Option.map_eq_some_iff.mp hnext
      refine hattended.signal hsignal (fun phase hasleep ↦ ?_) hcount
      rw [show phase = .asleep from hasleep]
      exact ⟨WaitPhase.not_retests_asleep, rfl, fun hstill ↦ WaitPhase.noConfusion hstill⟩
    · obtain rfl := Option.some.inj hnext
      -- the post returned an error, and left a negative counter
      refine .of_nothing ?_
      show (fifoSemaphorePost state.sem).1.count.toInt ≤ 0
      unfold fifoSemaphorePost at hret ⊢
      split_ifs at hret ⊢ with hnegative
      · exact (Int32.lt_iff_toInt_lt.mp hnegative).le
      · exact absurd rfl hret

/-- In every reachable state the sleepers are attended. -/
theorem SemaphoreState.attended_of_reachable (hreach : (semaphoreSystem Thread).Reachable state) :
    state.Attended := by
  refine hreach.invariant (fun start hstart ↦ ?_) fun _ _ _ hattended _ hnext ↦
    hattended.step hnext
  rintro ⟨thread, hasleep⟩
  exact WaitPhase.noConfusion ((hstart.2.1 thread).symm.trans hasleep)

omit [Fintype Thread] in
/-- A thread about to test a positive counter takes a unit and returns zero. -/
theorem takes_of_unit (hunit : 0 < state.sem.count) (thread : Thread) :
    state.endSection thread (fifoSemaphoreWaitWoken state.sem 0) =
      { state with sem := { count := state.sem.count - 1 } }.leave thread 0 := by
  rcases fifoSemaphoreWaitWoken_cases state.sem 0 with
    ⟨hfailed, -⟩ | ⟨-, hempty, -⟩ | ⟨-, -, htakes⟩
  · exact absurd rfl hfailed
  · exact absurd hunit (Int32.not_lt.mpr hempty)
  · rw [htakes]
    rfl

/-- In every reachable state in which a thread sleeps in `fifo_semaphore_wait`, the counter is at
most the number of threads that are back from their wait with zero and about to test it. Where it is
positive, one of these threads returns zero from its very next section, and takes the unit. -/
theorem semaphore_no_lost_post (hreach : (semaphoreSystem Thread).Reachable state)
    {sleeper : Thread} (hasleep : state.phases sleeper = .asleep) :
    state.sem.count.toInt ≤ threadCount WaitPhase.Retests state.phases ∧
      (0 < state.sem.count → ∃ thread ≠ sleeper, state.phases thread = .awake 0 ∧
        (semaphoreSystem Thread).next state (.section thread) =
          some ({ state with sem := { count := state.sem.count - 1 } }.leave thread 0)) := by
  have hattended := SemaphoreState.attended_of_reachable hreach
  refine ⟨hattended ⟨sleeper, hasleep⟩, fun hunit ↦ ?_⟩
  have hpositive : 0 < state.sem.count.toInt := by
    simpa [Int32.lt_iff_toInt_lt] using hunit
  obtain ⟨thread, hretests⟩ := hattended.exists_awakened hasleep hpositive
  refine ⟨thread, fun hsame ↦ ?_, hretests, ?_⟩
  · rw [hsame, show state.phases sleeper = _ from hasleep] at hretests
    exact WaitPhase.not_retests_asleep hretests
  · have hphase : state.phases thread = .awake 0 := hretests
    show semaphoreNext state (.section thread) = _
    simp only [semaphoreNext, hphase]
    exact congrArg some (takes_of_unit hunit thread)

/-- Both threads sleep, and a post signals the first one: the second one sleeps beside a unit, which
the first one is about to take. -/
theorem semaphore_no_lost_post_two_sleepers :
    ∃ state : SemaphoreState (Fin 2), (semaphoreSystem (Fin 2)).Reachable state ∧
      state.phases 1 = .asleep ∧ state.sem.count = 1 ∧
      ∃ thread ≠ 1, state.phases thread = .awake 0 := by
  obtain ⟨state, hrun, hasleep, hcount⟩ : ∃ state, (semaphoreSystem (Fin 2)).run emptySemaphore
      [.enter 0, .section 0, .enter 1, .section 1, .post (some 0)] = some state ∧
        state.phases 1 = .asleep ∧ state.sem.count = 1 := ⟨_, rfl, rfl, rfl⟩
  have hinitial : (semaphoreSystem (Fin 2)).initial emptySemaphore :=
    ⟨⟨0, rfl⟩, fun _ ↦ rfl, fun _ _ ↦ rfl, fun _ ↦ rfl, rfl⟩
  have hreach := TransitionSystem.reachable_of_run hinitial _ hrun
  obtain ⟨thread, hother, hawake, -⟩ :=
    (semaphore_no_lost_post hreach hasleep).2 (by rw [hcount]; decide)
  exact ⟨state, hreach, hasleep, hcount, thread, hother, hawake⟩

end Bme680.Semaphore
