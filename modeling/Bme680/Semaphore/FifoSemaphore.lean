import Bme680.Concurrency.ThreadTally
import Bme680.Concurrency.TransitionSystem
import Bme680.SectionOutcome

/-!
# The order in which the FIFO semaphore is acquired

`fifo_semaphore.c` keeps a counter under a mutex and a condition variable. A wait sleeps while the
counter is not positive and takes one off it; a post adds one and signals. Nothing records the order
in which the waits arrived.

The first part translates the functions section by section. The second part is the system of any
number of threads calling `fifo_semaphore_wait`, each post coming from anywhere. States record, for
the call a thread is in, who was asleep when it began; which threads in a call were overtaken by a
call that began while they slept; and whether an overtaken call returned zero.

The semaphore is handed out first-in first-out unless a call finds the counter positive while a
thread that was asleep when it began has not yet returned: it then takes the unit the post left for
the sleeper (`fifo_order_exact`).
-/

set_option autoImplicit false
set_option relaxedAutoImplicit false

namespace Bme680.Semaphore

open Concurrency

/-! ### The functions -/

/-- The data of `struct fifo_semaphore`. The counter is an `int`, taken to wrap around. -/
structure FifoSemaphore where
  count : Int32
  deriving DecidableEq

/-- `fifo_semaphore_init`, given whether the allocation succeeds. -/
def fifoSemaphoreInit (value : Int32) (allocated : Bool) : Except ℤ FifoSemaphore :=
  if ¬ allocated then .error (-ENOMEM)
  else if value < 0 then .error (-EINVAL)
  else .ok { count := value }

/-- `fifo_semaphore_wait` from the head of its wait loop. -/
def fifoSemaphoreWaitLoop (sem : FifoSemaphore) : FifoSemaphore × SectionEnd :=
  if sem.count ≤ 0 then (sem, .sleeps)
  else if sem.count < 0 then (sem, .returns (-EINVAL))
  else ({ sem with count := sem.count - 1 }, .returns 0)

/-- `fifo_semaphore_wait` from the return `ret` of `pthread_cond_timedwait`. -/
def fifoSemaphoreWaitWoken (sem : FifoSemaphore) (ret : ℕ) : FifoSemaphore × SectionEnd :=
  if ret = ETIMEDOUT then (sem, .returns (-ETIMEDOUT))
  else if ret ≠ 0 then (sem, .returns ret)
  else fifoSemaphoreWaitLoop sem

/-- `fifo_semaphore_post`. It signals the condition variable where it returns zero. -/
def fifoSemaphorePost (sem : FifoSemaphore) : FifoSemaphore × ℤ :=
  if sem.count + 1 < 0 then ({ sem with count := sem.count + 1 }, -EINVAL)
  else ({ sem with count := sem.count + 1 }, 0)

/-- A section fails where a wait failed; otherwise it sleeps, or takes a unit off a positive counter
and returns zero. -/
theorem fifoSemaphoreWaitWoken_cases (sem : FifoSemaphore) (ret : ℕ) :
    (ret ≠ 0 ∧ ∃ code : ℤ, code ≠ 0 ∧ fifoSemaphoreWaitWoken sem ret = (sem, .returns code)) ∨
      (ret = 0 ∧ sem.count ≤ 0 ∧ fifoSemaphoreWaitWoken sem ret = (sem, .sleeps)) ∨
      (ret = 0 ∧ 0 < sem.count ∧
        fifoSemaphoreWaitWoken sem ret = ({ count := sem.count - 1 }, .returns 0)) := by
  unfold fifoSemaphoreWaitWoken fifoSemaphoreWaitLoop
  split_ifs with htimeout hret hempty hnegative
  · refine Or.inl ⟨?_, -ETIMEDOUT, by decide, rfl⟩
    rw [htimeout]
    decide
  · exact Or.inl ⟨hret, ret, Int.natCast_ne_zero.mpr hret, rfl⟩
  · exact Or.inr (Or.inl ⟨not_not.mp hret, hempty, rfl⟩)
  · exact absurd (Int32.le_of_lt hnegative) hempty
  · exact Or.inr (Or.inr ⟨not_not.mp hret, Int32.not_le.mp hempty, rfl⟩)

/-- A post after a unit was taken off a positive counter restores it. -/
theorem fifoSemaphorePost_of_taken {count : Int32} (hpos : 0 < count) :
    fifoSemaphorePost { count := count - 1 } = ({ count := count }, 0) := by
  have hnegative : ¬ count < 0 := Int32.lt_asymm hpos
  unfold fifoSemaphorePost
  rw [Int32.sub_add_cancel, if_neg hnegative]

/-! ### The threads in a wait -/

/-- Where a thread is: outside the function; in it, about to lock the mutex for the first time;
asleep on the condition variable; or past `pthread_cond_timedwait`, about to act on what it
returned. -/
inductive WaitPhase
  | outside
  | entering
  | asleep
  | awake (ret : ℕ)
  deriving DecidableEq, Repr

/-- A phase of a call no wait of which has failed, which may still return zero. -/
def WaitPhase.Waits (phase : WaitPhase) : Prop :=
  phase = .entering ∨ phase = .asleep ∨ phase = .awake 0

/-- A phase of a call that has slept. -/
def WaitPhase.Slept (phase : WaitPhase) : Prop :=
  phase = .asleep ∨ ∃ ret, phase = .awake ret

/-- A call that is back from `pthread_cond_timedwait` waits on exactly when that returned zero. -/
theorem WaitPhase.waits_awake {ret : ℕ} : (WaitPhase.awake ret).Waits ↔ ret = 0 := by
  simp [WaitPhase.Waits]

/-- A thread about to make its first test has not slept in the call. -/
theorem WaitPhase.not_slept_entering : ¬ WaitPhase.entering.Slept := by
  rintro (h | ⟨ret, h⟩)
  · exact WaitPhase.noConfusion h
  · exact WaitPhase.noConfusion h

/-- A thread outside the function has not slept in it. -/
theorem WaitPhase.not_slept_outside : ¬ WaitPhase.outside.Slept := by
  rintro (h | ⟨ret, h⟩)
  · exact WaitPhase.noConfusion h
  · exact WaitPhase.noConfusion h

/-- The semaphore and the position of every thread. Of the run so far: for the call a thread is in,
which threads were asleep when it began and have not left their call since; which threads in a call
were overtaken, a call that began while they slept having returned zero; and whether a call returned
zero that had been overtaken. -/
structure SemaphoreState (Thread : Type*) where
  sem : FifoSemaphore
  phases : Thread → WaitPhase
  sleptBefore : Thread → Thread → Bool
  overtaken : Thread → Bool
  unfair : Bool

/-- The steps: a thread calls `fifo_semaphore_wait`; it runs a section of the call; a sleeper leaves
`pthread_cond_timedwait` of its own accord; a post, waking the sleeper `woken`. -/
inductive SemaphoreLabel (Thread : Type*)
  | enter (thread : Thread)
  | section (thread : Thread)
  | wakeUp (thread : Thread) (ret : ℕ)
  | post (woken : Option Thread)

section System

variable {Thread : Type*} [DecidableEq Thread]

/-- The state after a thread's call returned. -/
def SemaphoreState.leave (state : SemaphoreState Thread) (thread : Thread) (ret : ℤ) :
    SemaphoreState Thread where
  sem := state.sem
  phases := Function.update state.phases thread .outside
  sleptBefore := fun caller sleeper ↦
    caller ≠ thread ∧ sleeper ≠ thread ∧ state.sleptBefore caller sleeper
  overtaken := fun sleeper ↦
    sleeper ≠ thread ∧ (state.overtaken sleeper ∨ ret = 0 ∧ state.sleptBefore thread sleeper)
  unfair := state.unfair ∨ ret = 0 ∧ state.overtaken thread

/-- The other threads are where they were when a call returns. -/
theorem SemaphoreState.leave_phases_of_ne (state : SemaphoreState Thread) {thread other : Thread}
    (hother : other ≠ thread) {ret : ℤ} :
    (state.leave thread ret).phases other = state.phases other :=
  Function.update_of_ne hother _ _

/-- The state after a section of a thread's call. -/
def SemaphoreState.endSection (state : SemaphoreState Thread) (thread : Thread) :
    FifoSemaphore × SectionEnd → SemaphoreState Thread
  | (sem, .sleeps) =>
    { state with sem := sem, phases := Function.update state.phases thread .asleep }
  | (sem, .returns ret) => { state with sem := sem }.leave thread ret

variable [Fintype Thread]

/-- The state after a step, where the step is possible. -/
def semaphoreNext (state : SemaphoreState Thread) :
    SemaphoreLabel Thread → Option (SemaphoreState Thread)
  | .enter thread =>
    if state.phases thread = .outside then
      some { state with
        phases := Function.update state.phases thread .entering
        sleptBefore := Function.update state.sleptBefore thread fun sleeper ↦
          decide (state.phases sleeper = .asleep) }
    else none
  | .section thread =>
    match state.phases thread with
    | .entering => some (state.endSection thread (fifoSemaphoreWaitLoop state.sem))
    | .awake ret => some (state.endSection thread (fifoSemaphoreWaitWoken state.sem ret))
    | .outside | .asleep => none
  | .wakeUp thread ret =>
    if state.phases thread = .asleep then
      some { state with phases := Function.update state.phases thread (.awake ret) }
    else none
  | .post woken =>
    match fifoSemaphorePost state.sem with
    | (sem, ret) =>
      if ret = 0 then
        (signal (fun phase ↦ phase = WaitPhase.asleep) (fun _ ↦ .awake 0) state.phases woken).map
          fun phases ↦ { state with sem := sem, phases := phases }
      else if woken = none then some { state with sem := sem }
      else none

/-- Any number of threads and a semaphore that `fifo_semaphore_init` set up. -/
def semaphoreSystem (Thread : Type*) [DecidableEq Thread] [Fintype Thread] :
    TransitionSystem (SemaphoreState Thread) (SemaphoreLabel Thread) where
  initial := fun state ↦ (∃ value, fifoSemaphoreInit value true = .ok state.sem) ∧
    (∀ thread, state.phases thread = .outside) ∧
    (∀ caller sleeper, state.sleptBefore caller sleeper = false) ∧
    (∀ thread, state.overtaken thread = false) ∧ state.unfair = false
  next := semaphoreNext

/-! ### Overtaking -/

/-- The step does not run a section that finds the counter positive while a thread that was asleep
when the call began still waits. -/
def TakesInOrder (state : SemaphoreState Thread) : SemaphoreLabel Thread → Prop
  | .section thread => 0 < state.sem.count → (state.phases thread).Waits →
    ∀ sleeper, state.sleptBefore thread sleeper → ¬ (state.phases sleeper).Waits
  | _ => True

/-- The threads that slept before a call are other threads, still in the call they slept in, as are
the threads that were overtaken. -/
structure SleepersRecorded (state : SemaphoreState Thread) : Prop where
  slept : ∀ caller sleeper, state.sleptBefore caller sleeper → (state.phases sleeper).Slept
  overtaken : ∀ sleeper, state.overtaken sleeper → (state.phases sleeper).Slept
  other : ∀ caller, state.sleptBefore caller caller = false

/-- No call was overtaken that may still return zero, and none that returned zero. -/
structure FirstInFirstOut (state : SemaphoreState Thread) : Prop where
  waiting : ∀ thread, state.overtaken thread → ¬ (state.phases thread).Waits
  returned : state.unfair = false

variable {state successor : SemaphoreState Thread} {thread : Thread}

/-- A post changes the counter; where it succeeds, it signals. -/
theorem semaphoreNext_post {woken : Option Thread}
    (hnext : semaphoreNext state (.post woken) = some successor) :
    (∃ sem phases, signal (fun phase ↦ phase = WaitPhase.asleep) (fun _ ↦ .awake 0) state.phases
        woken = some phases ∧ successor = { state with sem := sem, phases := phases }) ∨
      ∃ sem, successor = { state with sem := sem } := by
  simp only [semaphoreNext] at hnext
  split_ifs at hnext with hret hnobody
  · obtain ⟨phases, hsignal, rfl⟩ := Option.map_eq_some_iff.mp hnext
    exact Or.inl ⟨_, phases, hsignal, rfl⟩
  · exact Or.inr ⟨_, (Option.some.inj hnext).symm⟩

/-- A section is run by a thread that enters or that came back from `pthread_cond_timedwait`. -/
theorem semaphoreNext_section (hnext : semaphoreNext state (.section thread) = some successor) :
    ∃ ret, (state.phases thread = .awake ret ∨ (state.phases thread = .entering ∧ ret = 0)) ∧
      successor = state.endSection thread (fifoSemaphoreWaitWoken state.sem ret) := by
  simp only [semaphoreNext] at hnext
  split at hnext
  · rename_i hphase
    exact ⟨0, Or.inr ⟨hphase, rfl⟩, (Option.some.inj hnext).symm⟩
  · rename_i ret hphase
    exact ⟨ret, Or.inl hphase, (Option.some.inj hnext).symm⟩
  · exact absurd hnext (by simp)
  · exact absurd hnext (by simp)

/-- A section of a call no wait of which failed sleeps, or takes a unit off a positive counter and
returns zero; any other section fails. -/
theorem semaphoreNext_section_cases
    (hnext : semaphoreNext state (.section thread) = some successor) :
    (¬ (state.phases thread).Waits ∧
        ∃ code : ℤ, code ≠ 0 ∧ successor = state.leave thread code) ∨
      ((state.phases thread).Waits ∧ state.sem.count ≤ 0 ∧
        successor = { state with phases := Function.update state.phases thread .asleep }) ∨
      ((state.phases thread).Waits ∧ 0 < state.sem.count ∧
        successor = { state with sem := { count := state.sem.count - 1 } }.leave thread 0) := by
  obtain ⟨ret, hphase, rfl⟩ := semaphoreNext_section hnext
  have hwaits : ret = 0 ↔ (state.phases thread).Waits := by
    rcases hphase with hawake | ⟨hentering, hzero⟩
    · rw [hawake, WaitPhase.waits_awake]
    · rw [hentering]
      exact iff_of_true hzero (Or.inl rfl)
  rcases fifoSemaphoreWaitWoken_cases state.sem ret with
    ⟨hret, code, hcode, hsection⟩ | ⟨hret, hempty, hsection⟩ | ⟨hret, hpos, hsection⟩
  · rw [hsection]
    exact Or.inl ⟨fun hwaiting ↦ hret (hwaits.mpr hwaiting), code, hcode, rfl⟩
  · rw [hsection]
    exact Or.inr (Or.inl ⟨hwaits.mp hret, hempty, rfl⟩)
  · rw [hsection]
    exact Or.inr (Or.inr ⟨hwaits.mp hret, hpos, rfl⟩)

omit [DecidableEq Thread] [Fintype Thread] in
/-- A step that changes phases only keeps the record of sleepers where whoever slept still has. -/
theorem SleepersRecorded.of_phases (hrecorded : SleepersRecorded state)
    (hsame : successor.sleptBefore = state.sleptBefore)
    (hovertaken : successor.overtaken = state.overtaken)
    (hslept : ∀ sleeper, (state.phases sleeper).Slept → (successor.phases sleeper).Slept) :
    SleepersRecorded successor where
  slept := fun caller sleeper hbefore ↦ by
    rw [hsame] at hbefore
    exact hslept sleeper (hrecorded.slept caller sleeper hbefore)
  overtaken := fun sleeper hsleeper ↦ by
    rw [hovertaken] at hsleeper
    exact hslept sleeper (hrecorded.overtaken sleeper hsleeper)
  other := fun caller ↦ by rw [hsame, hrecorded.other]

omit [Fintype Thread] in
/-- The return of a call keeps the record of sleepers. -/
theorem SleepersRecorded.leave (hrecorded : SleepersRecorded state) (thread : Thread) (ret : ℤ) :
    SleepersRecorded (state.leave thread ret) where
  slept := fun caller sleeper hbefore ↦ by
    obtain ⟨-, hother, hslept⟩ := of_decide_eq_true hbefore
    rw [state.leave_phases_of_ne hother]
    exact hrecorded.slept caller sleeper hslept
  overtaken := fun sleeper hsleeper ↦ by
    obtain ⟨hother, hbefore⟩ := of_decide_eq_true hsleeper
    rw [state.leave_phases_of_ne hother]
    rcases hbefore with halready | ⟨-, hnow⟩
    · exact hrecorded.overtaken sleeper halready
    · exact hrecorded.slept thread sleeper hnow
  other := fun caller ↦ by
    refine decide_eq_false fun hown ↦ ?_
    rw [hrecorded.other] at hown
    exact absurd hown.2.2 Bool.false_ne_true

omit [Fintype Thread] in
/-- A thread that comes to a phase of a call that has slept keeps the record of sleepers. -/
theorem SleepersRecorded.of_phase (hrecorded : SleepersRecorded state) {phase : WaitPhase}
    (hphase : phase.Slept) (thread : Thread) :
    SleepersRecorded { state with phases := Function.update state.phases thread phase } := by
  refine hrecorded.of_phases rfl rfl fun sleeper hslept ↦ ?_
  dsimp only
  by_cases hsame : sleeper = thread
  · rwa [hsame, Function.update_self]
  · rwa [Function.update_of_ne hsame]

/-- Every step keeps the record of sleepers. -/
theorem semaphoreNext_recorded (hrecorded : SleepersRecorded state)
    {label : SemaphoreLabel Thread} (hnext : semaphoreNext state label = some successor) :
    SleepersRecorded successor := by
  cases label with
  | enter thread =>
    simp only [semaphoreNext, Option.ite_none_right_eq_some, Option.some.injEq] at hnext
    obtain ⟨houtside, rfl⟩ := hnext
    have hnotSlept : ¬ (state.phases thread).Slept := by
      rw [houtside]
      exact WaitPhase.not_slept_outside
    have hphase : ∀ sleeper, (state.phases sleeper).Slept →
        (Function.update state.phases thread .entering sleeper).Slept := by
      intro sleeper hslept
      rw [Function.update_of_ne]
      · exact hslept
      · rintro rfl
        exact hnotSlept hslept
    constructor
    · intro caller sleeper hbefore
      refine hphase sleeper ?_
      by_cases hcaller : caller = thread
      · subst caller
        dsimp only at hbefore
        rw [Function.update_self] at hbefore
        exact Or.inl (of_decide_eq_true hbefore)
      · dsimp only at hbefore
        rw [Function.update_of_ne hcaller] at hbefore
        exact hrecorded.slept caller sleeper hbefore
    · intro sleeper hsleeper
      exact hphase sleeper (hrecorded.overtaken sleeper hsleeper)
    · intro caller
      dsimp only
      by_cases hcaller : caller = thread
      · subst caller
        rw [Function.update_self, houtside]
        rfl
      · rw [Function.update_of_ne hcaller]
        exact hrecorded.other caller
  | «section» thread =>
    rcases semaphoreNext_section_cases hnext with
      ⟨-, code, -, rfl⟩ | ⟨-, -, rfl⟩ | ⟨-, -, rfl⟩
    · exact hrecorded.leave thread code
    · exact hrecorded.of_phase (Or.inl rfl) thread
    · have htaken : SleepersRecorded { state with sem := { count := state.sem.count - 1 } } :=
        hrecorded.of_phases rfl rfl fun _ hslept ↦ hslept
      exact htaken.leave thread 0
  | wakeUp thread ret =>
    simp only [semaphoreNext, Option.ite_none_right_eq_some, Option.some.injEq] at hnext
    obtain ⟨-, rfl⟩ := hnext
    exact hrecorded.of_phase (Or.inr ⟨ret, rfl⟩) thread
  | post woken =>
    rcases semaphoreNext_post hnext with ⟨sem, phases, hsignal, rfl⟩ | ⟨sem, rfl⟩
    · refine hrecorded.of_phases rfl rfl fun sleeper hslept ↦ ?_
      rcases signal_apply hsignal sleeper with hsame | ⟨-, hawake⟩
      · dsimp only
        rw [hsame]
        exact hslept
      · exact Or.inr ⟨0, hawake⟩
    · exact hrecorded.of_phases rfl rfl fun _ hslept ↦ hslept

omit [DecidableEq Thread] [Fintype Thread] in
/-- A step that changes phases only keeps the order where an overtaken call that does not wait does
not come to wait. -/
theorem FirstInFirstOut.of_phases (horder : FirstInFirstOut state)
    (hsame : successor.overtaken = state.overtaken) (hunfair : successor.unfair = state.unfair)
    (hwaits : ∀ thread, (successor.phases thread).Waits → state.overtaken thread →
      (state.phases thread).Waits) :
    FirstInFirstOut successor where
  waiting := fun thread hovertaken hafter ↦ by
    rw [hsame] at hovertaken
    exact horder.waiting thread hovertaken (hwaits thread hafter hovertaken)
  returned := hunfair.trans horder.returned

omit [Fintype Thread] in
/-- The return of a call keeps the order, where a call that returns zero leaves nobody waiting who
slept before it and was not overtaken itself. -/
theorem FirstInFirstOut.leave (horder : FirstInFirstOut state) {ret : ℤ}
    (hslept : ret = 0 → ∀ sleeper, state.sleptBefore thread sleeper →
      ¬ (state.phases sleeper).Waits)
    (hovertaken : ret = 0 → ¬ state.overtaken thread) :
    FirstInFirstOut (state.leave thread ret) where
  waiting := fun sleeper hsleeper ↦ by
    obtain ⟨hother, hbefore⟩ := of_decide_eq_true hsleeper
    rw [state.leave_phases_of_ne hother]
    rcases hbefore with halready | ⟨hret, hnow⟩
    · exact horder.waiting sleeper halready
    · exact hslept hret sleeper hnow
  returned := by
    refine decide_eq_false fun hunfair ↦ ?_
    rcases hunfair with halready | ⟨hret, hnow⟩
    · rw [horder.returned] at halready
      exact absurd halready Bool.false_ne_true
    · exact hovertaken hret hnow

omit [Fintype Thread] in
/-- A thread that comes to wait only where it waited before keeps the order. -/
theorem FirstInFirstOut.of_phase (horder : FirstInFirstOut state) {phase : WaitPhase}
    (hwaits : phase.Waits → (state.phases thread).Waits) :
    FirstInFirstOut { state with phases := Function.update state.phases thread phase } := by
  refine horder.of_phases rfl rfl fun other hafter _ ↦ ?_
  dsimp only at hafter
  by_cases hsame : other = thread
  · rw [hsame, Function.update_self] at hafter
    rw [hsame]
    exact hwaits hafter
  · rwa [Function.update_of_ne hsame] at hafter

/-- A step that takes in order keeps the order. -/
theorem semaphoreNext_inOrder (horder : FirstInFirstOut state) {label : SemaphoreLabel Thread}
    (hrecorded : SleepersRecorded state) (hallowed : TakesInOrder state label)
    (hnext : semaphoreNext state label = some successor) : FirstInFirstOut successor := by
  cases label with
  | enter thread =>
    simp only [semaphoreNext, Option.ite_none_right_eq_some, Option.some.injEq] at hnext
    obtain ⟨houtside, rfl⟩ := hnext
    refine horder.of_phases rfl rfl fun other hwaits hovertaken ↦ ?_
    dsimp only at hwaits
    rwa [Function.update_of_ne] at hwaits
    rintro rfl
    have hslept := hrecorded.overtaken other hovertaken
    rw [houtside] at hslept
    exact WaitPhase.not_slept_outside hslept
  | «section» thread =>
    rcases semaphoreNext_section_cases hnext with
      ⟨-, code, hcode, rfl⟩ | ⟨hwaits, -, rfl⟩ | ⟨hwaits, hpos, rfl⟩
    · exact horder.leave (fun hzero ↦ absurd hzero hcode) fun hzero ↦ absurd hzero hcode
    · exact horder.of_phase fun _ ↦ hwaits
    · have htaken : FirstInFirstOut { state with sem := { count := state.sem.count - 1 } } :=
        horder.of_phases rfl rfl fun _ hafter _ ↦ hafter
      refine htaken.leave (fun _ sleeper hbefore ↦ hallowed hpos hwaits sleeper hbefore) ?_
      exact fun _ hovertaken ↦ horder.waiting thread hovertaken hwaits
  | wakeUp thread ret =>
    simp only [semaphoreNext, Option.ite_none_right_eq_some, Option.some.injEq] at hnext
    obtain ⟨hasleep, rfl⟩ := hnext
    refine horder.of_phase fun _ ↦ ?_
    rw [hasleep]
    exact Or.inr (Or.inl rfl)
  | post woken =>
    rcases semaphoreNext_post hnext with ⟨sem, phases, hsignal, rfl⟩ | ⟨sem, rfl⟩
    · refine horder.of_phases rfl rfl fun other hafter _ ↦ ?_
      rcases signal_apply hsignal other with hsame | ⟨hasleep, -⟩
      · dsimp only at hafter
        rwa [hsame] at hafter
      · exact Or.inr (Or.inl hasleep)
    · exact horder.of_phases rfl rfl fun _ hafter _ ↦ hafter

/-- In a run that takes in order, the sleepers are recorded and the order is kept. -/
theorem inOrder_reachable (hreach : (semaphoreSystem Thread).ReachableUnder TakesInOrder state) :
    SleepersRecorded state ∧ FirstInFirstOut state := by
  have hinitial : ∀ start, (semaphoreSystem Thread).initial start →
      SleepersRecorded start ∧ FirstInFirstOut start := by
    rintro start ⟨-, -, hnobody, hnone, hfair⟩
    refine ⟨⟨fun caller sleeper hbefore ↦ ?_, fun sleeper hsleeper ↦ ?_, fun caller ↦ ?_⟩,
      fun thread hthread ↦ ?_, hfair⟩
    · rw [hnobody] at hbefore
      exact absurd hbefore Bool.false_ne_true
    · rw [hnone] at hsleeper
      exact absurd hsleeper Bool.false_ne_true
    · exact hnobody caller caller
    · rw [hnone] at hthread
      exact absurd hthread Bool.false_ne_true
  exact hreach.invariant hinitial fun _ _ _ hbefore hallowed hnext ↦
    ⟨semaphoreNext_recorded hbefore.1 hnext,
      semaphoreNext_inOrder hbefore.2 hbefore.1 hallowed hnext⟩

/-- A post can bring a sleeper back, or leave a thread that is back already as it is. -/
theorem exists_signal_awake {phases : Thread → WaitPhase} {sleeper : Thread}
    (hwaits : phases sleeper = .asleep ∨ phases sleeper = .awake 0) :
    ∃ woken after, signal (fun phase ↦ phase = WaitPhase.asleep) (fun _ ↦ .awake 0) phases
      woken = some after ∧ after sleeper = .awake 0 := by
  rcases hwaits with hasleep | hawake
  · exact ⟨some sleeper, _, if_pos hasleep, Function.update_self _ _ _⟩
  · by_cases hnobody : ∀ thread, phases thread ≠ .asleep
    · exact ⟨none, phases, if_pos hnobody, hawake⟩
    · obtain ⟨other, hother⟩ := not_forall_not.mp hnobody
      refine ⟨some other, _, if_pos hother, ?_⟩
      rw [Function.update_of_ne]
      · exact hawake
      · rintro rfl
        exact WaitPhase.noConfusion (hawake.symm.trans hother)

/-- After a unit was taken off a positive counter, an overtaken thread that waits can still acquire
the semaphore: a post restores the counter and the thread finds it so. -/
theorem overtaken_acquires {count : Int32} {sleeper : Thread} (hpos : 0 < count)
    (hcount : state.sem.count = count - 1)
    (hwaits : state.phases sleeper = .asleep ∨ state.phases sleeper = .awake 0)
    (hovertaken : state.overtaken sleeper) :
    ∃ final, (semaphoreSystem Thread).Continuation (fun _ _ ↦ True) state final ∧
      final.unfair := by
  obtain ⟨woken, after, hsignal, hawake⟩ := exists_signal_awake hwaits
  have hsem : state.sem = { count := count - 1 } := by rw [← hcount]
  have hpost : semaphoreNext state (.post woken) =
      some { state with sem := { count := count }, phases := after } := by
    simp only [semaphoreNext, hsem, fifoSemaphorePost_of_taken hpos, hsignal]
    rfl
  refine ⟨_, .tail (.single ⟨.post woken, trivial, hpost⟩)
    ⟨.section sleeper, trivial, by simp only [semaphoreSystem, semaphoreNext, hawake]; rfl⟩, ?_⟩
  rcases fifoSemaphoreWaitWoken_cases { count := count } 0 with
    ⟨hret, -⟩ | ⟨-, hempty, -⟩ | ⟨-, -, hsection⟩
  · exact absurd rfl hret
  · exact absurd hpos (Int32.not_lt.mpr hempty)
  · rw [hsection]
    exact decide_eq_true (Or.inr ⟨rfl, hovertaken⟩)

/-- A thread that slept when another called `fifo_semaphore_wait`, and whose own call does not fail,
acquires the semaphore first, as long as no call finds the counter positive while a thread that
slept when it began still waits; from the first section where one does, the run can go on so that
the overtaken call returns zero. -/
theorem fifo_order_exact :
    (∀ state, (semaphoreSystem Thread).ReachableUnder TakesInOrder state →
      FirstInFirstOut state) ∧
    ∀ state label successor, (semaphoreSystem Thread).ReachableUnder TakesInOrder state →
      ¬ TakesInOrder state label → (semaphoreSystem Thread).next state label = some successor →
      ¬ FirstInFirstOut successor ∧
        ∃ final, (semaphoreSystem Thread).Continuation (fun _ _ ↦ True) successor final ∧
          final.unfair := by
  refine ⟨fun state hreach ↦ (inOrder_reachable hreach).2,
    fun state label successor hreach hnot hnext ↦ ?_⟩
  have hrecorded := (inOrder_reachable hreach).1
  cases label with
  | enter thread | wakeUp thread ret | post woken => exact absurd trivial hnot
  | «section» thread =>
    simp only [TakesInOrder, not_forall, not_not] at hnot
    obtain ⟨hpos, hwaits, sleeper, hbefore, hsleeper⟩ := hnot
    have hother : sleeper ≠ thread := by
      rintro rfl
      rw [hrecorded.other] at hbefore
      exact absurd hbefore Bool.false_ne_true
    -- a thread that slept before the call is not about to make its first test
    have hasleep : state.phases sleeper = .asleep ∨ state.phases sleeper = .awake 0 := by
      rcases hsleeper with hentering | hasleep
      · have hslept := hrecorded.slept thread sleeper hbefore
        rw [hentering] at hslept
        exact absurd hslept WaitPhase.not_slept_entering
      · exact hasleep
    rcases semaphoreNext_section_cases hnext with
      ⟨hfailed, -⟩ | ⟨-, hempty, -⟩ | ⟨-, -, rfl⟩
    · exact absurd hwaits hfailed
    · exact absurd hpos (Int32.not_lt.mpr hempty)
    · have hovertaken : ∀ taken : SemaphoreState Thread, taken.sleptBefore = state.sleptBefore →
          (taken.leave thread 0).overtaken sleeper := by
        intro taken hsame
        refine decide_eq_true ⟨hother, Or.inr ⟨rfl, ?_⟩⟩
        rw [hsame]
        exact hbefore
      refine ⟨fun horder ↦ horder.waiting sleeper (hovertaken _ rfl) ?_,
        overtaken_acquires hpos rfl ?_ (hovertaken _ rfl)⟩
      · rw [SemaphoreState.leave_phases_of_ne _ hother]
        exact hsleeper
      · rw [SemaphoreState.leave_phases_of_ne _ hother]
        exact hasleep

end System

/-- Two threads outside the function, and a semaphore with a counter of zero. -/
def emptySemaphore : SemaphoreState (Fin 2) where
  sem := { count := 0 }
  phases := fun _ ↦ .outside
  sleptBefore := fun _ _ ↦ false
  overtaken := fun _ ↦ false
  unfair := false

/-- The first thread sleeps; the second one calls the function; a post wakes the first thread, and
the second one takes the unit before it; after another post the first thread returns. -/
def overtakingLabels : List (SemaphoreLabel (Fin 2)) :=
  [.enter 0, .section 0, .enter 1, .post (some 0), .section 1, .section 0, .post (some 0),
    .section 0]

/-- A sleeper is overtaken by a call that began while it slept, and returns zero after it. -/
theorem late_caller_overtakes_sleeper :
    ¬ ∀ state, (semaphoreSystem (Fin 2)).Reachable state → FirstInFirstOut state := by
  intro hall
  obtain ⟨final, hrun, hunfair⟩ : ∃ final, (semaphoreSystem (Fin 2)).run emptySemaphore
      overtakingLabels = some final ∧ final.unfair = true :=
    ⟨_, rfl, rfl⟩
  have hinitial : (semaphoreSystem (Fin 2)).initial emptySemaphore :=
    ⟨⟨0, rfl⟩, fun _ ↦ rfl, fun _ _ ↦ rfl, fun _ ↦ rfl, rfl⟩
  have horder := hall final (TransitionSystem.reachable_of_run hinitial _ hrun)
  rw [horder.returned] at hunfair
  exact Bool.false_ne_true hunfair

end Bme680.Semaphore
