import Bme680.Tasks.TaskProgram

/-!
# A bounded number of readings

Two loops of `1.c` take readings: that of `producer_task`, from the device, and that of `main` in
sysfs mode, from four files it opens each time. Both have the test
`keep_running && (num_reads == 0 || num_reads-- > 0)`, in which zero stands for no bound and is also
what the counter comes to when the readings asked for have been taken.

`readingLoop` is such a loop with a bound on its iterations, what `keep_running` shows at each test,
and whether the body goes on or leaves the loop. With a bound on the readings it never ends
(`readingLoop_eq_none`), so that a run takes the number of readings asked for exactly when it was
not asked for a number (`takesRequested_iff`). The same of the program with all its tasks is
`producer_stays_running`: no interleaving ends the loop of `producer_task` by its counter.
-/

set_option autoImplicit false
set_option relaxedAutoImplicit false

namespace Bme680.Tasks

open Concurrency

/-! ### The loops -/

/-- How a loop is left: `keep_running` was zero, the counter ended it, or its body left it. -/
inductive LoopEnd
  | stopped
  | counted
  | broken
  deriving DecidableEq, Repr

/-- A loop with the test of `producer_task`, for a number of tests at most: how it was left and
after how many iterations. -/
def readingLoop (keepRunning goesOn : ℕ → Bool) :
    (tests iteration : ℕ) → (numReads : ℤ) → Option (LoopEnd × ℕ)
  | 0, _, _ => none
  | tests + 1, iteration, numReads =>
    let test := producerTest (keepRunning iteration) numReads
    if test.1 then
      if goesOn iteration then readingLoop keepRunning goesOn tests (iteration + 1) test.2
      else some (.broken, iteration)
    else some (if keepRunning iteration then .counted else .stopped, iteration)

/-- The files of the sysfs mode. -/
inductive SysfsFile
  | temp
  | press
  | humid
  | gas
  deriving DecidableEq, Repr

/-- The files in the order they are opened and closed. -/
def sysfsFiles : List SysfsFile :=
  [.temp, .press, .humid, .gas]

/-- The body of the loop in sysfs mode, given which files could be opened: whether it goes on, and
what it does with the files. -/
def sysfsBody (opened : SysfsFile → Bool) : Bool × List (ResourceAction SysfsFile) :=
  let creations := (sysfsFiles.filter opened).map ResourceAction.create
  let closings := (sysfsFiles.filter opened).map ResourceAction.release
  if sysfsFiles.any (fun file ↦ !opened file) then (false, creations ++ closings)
  else (true, creations ++ sysfsFiles.map ResourceAction.use ++ closings)

/-- The two loops. -/
inductive ReadingLoop
  | producerTask
  | sysfs
  deriving DecidableEq, Repr

/-- The loop of `producer_task`, whose body never leaves it, and that of `main`. -/
def ReadingLoop.run (keepRunning : ℕ → Bool) (opened : ℕ → SysfsFile → Bool) (tests : ℕ)
    (numReads : ℤ) : ReadingLoop → Option (LoopEnd × ℕ)
  | .producerTask => readingLoop keepRunning (fun _ ↦ true) tests 0 numReads
  | .sysfs =>
    readingLoop keepRunning (fun iteration ↦ (sysfsBody (opened iteration)).1) tests 0 numReads

/-- What a run is to take: a number of readings above zero, if `keep_running` stays and the files
can be opened, ends the loop after as many iterations; and with zero the counter never ends it. -/
def ReadingLoop.TakesRequested (loop : ReadingLoop) (numReads : ℕ) : Prop :=
  (0 < numReads → ∃ tests,
    loop.run (fun _ ↦ true) (fun _ _ ↦ true) tests numReads = some (.counted, numReads)) ∧
  (numReads = 0 → ∀ keepRunning opened tests iterations,
    loop.run keepRunning opened tests numReads ≠ some (.counted, iterations))

/-! ### The counter -/

/-- A counter that is not negative lets the loop go on, and does not become negative. -/
theorem producerTest_of_nonneg {numReads : ℤ} (hnonneg : 0 ≤ numReads) :
    (producerTest true numReads).1 = true ∧ 0 ≤ (producerTest true numReads).2 := by
  unfold producerTest
  rw [if_neg (Ne.symm Bool.false_ne_true)]
  split_ifs with hzero
  · exact ⟨rfl, hnonneg⟩
  · have hpositive : numReads > 0 := lt_of_le_of_ne hnonneg (Ne.symm hzero)
    exact ⟨decide_eq_true hpositive, Int.sub_nonneg_of_le hpositive⟩

/-- A loop that is started with a number of readings that is not negative is not ended by its
counter. -/
theorem readingLoop_ne_counted (keepRunning goesOn : ℕ → Bool) (tests iteration : ℕ)
    {numReads : ℤ} (hnonneg : 0 ≤ numReads) (iterations : ℕ) :
    readingLoop keepRunning goesOn tests iteration numReads ≠ some (.counted, iterations) := by
  induction tests generalizing iteration numReads with
  | zero => exact nofun
  | succ tests ih =>
    unfold readingLoop
    cases hrunning : keepRunning iteration with
    | false =>
      have htest : (producerTest false numReads).1 = false := by
        unfold producerTest
        rw [if_pos rfl]
      simp [htest]
    | true =>
      obtain ⟨htest, hafter⟩ := producerTest_of_nonneg hnonneg
      simp only [htest, if_true]
      split_ifs
      · exact ih (iteration + 1) hafter
      · simp

/-- While `keep_running` stays and the body goes on, a loop that is started with a number of
readings that is not negative does not end, however many tests it makes. -/
theorem readingLoop_eq_none (tests iteration : ℕ) {numReads : ℤ} (hnonneg : 0 ≤ numReads) :
    readingLoop (fun _ ↦ true) (fun _ ↦ true) tests iteration numReads = none := by
  induction tests generalizing iteration numReads with
  | zero => rfl
  | succ tests ih =>
    obtain ⟨htest, hafter⟩ := producerTest_of_nonneg hnonneg
    unfold readingLoop
    simp only [htest, if_true]
    exact ih (iteration + 1) hafter

/-- The counter ends neither loop. -/
theorem ReadingLoop.run_ne_counted (loop : ReadingLoop) (keepRunning : ℕ → Bool)
    (opened : ℕ → SysfsFile → Bool) (tests numReads iterations : ℕ) :
    loop.run keepRunning opened tests numReads ≠ some (.counted, iterations) := by
  have hnonneg : 0 ≤ (numReads : ℤ) := Int.natCast_nonneg numReads
  cases loop with
  | producerTask => exact readingLoop_ne_counted _ _ tests 0 hnonneg iterations
  | sysfs => exact readingLoop_ne_counted _ _ tests 0 hnonneg iterations

/-- A loop takes the number of readings asked for exactly where none was asked for: with a number
above zero its counter comes to zero, which stands for no bound. -/
theorem takesRequested_iff (loop : ReadingLoop) (numReads : ℕ) :
    loop.TakesRequested numReads ↔ numReads = 0 := by
  constructor
  · rintro ⟨hends, -⟩
    by_contra hbounded
    obtain ⟨tests, hended⟩ := hends (Nat.pos_of_ne_zero hbounded)
    exact loop.run_ne_counted _ _ tests numReads numReads hended
  · intro hzero
    refine ⟨fun hpositive ↦ absurd hzero hpositive.ne', fun _ keepRunning opened tests iterations ↦
      ?_⟩
    exact loop.run_ne_counted keepRunning opened tests numReads iterations

/-- Asked for one reading, neither loop ends after it. -/
theorem one_reading_never_ends :
    ¬ ReadingLoop.producerTask.TakesRequested 1 ∧ ¬ ReadingLoop.sysfs.TakesRequested 1 := by
  constructor
  · rintro ⟨hends, -⟩
    obtain ⟨tests, hended⟩ := hends Nat.one_pos
    exact ReadingLoop.run_ne_counted .producerTask _ _ tests 1 1 hended
  · rintro ⟨hends, -⟩
    obtain ⟨tests, hended⟩ := hends Nat.one_pos
    exact ReadingLoop.run_ne_counted .sysfs _ _ tests 1 1 hended

/-! ### The files of the sysfs mode -/

/-- An iteration in sysfs mode closes the files it could open, each once, whether it goes on or
not. -/
theorem sysfsBody_settled (opened : SysfsFile → Bool) :
    (ResourceLedger.empty.perform (sysfsBody opened).2).Settled := by
  rw [ResourceLedger.settled_perform_iff]
  intro file
  unfold sysfsBody
  split_ifs <;> simp

/-- An iteration in sysfs mode reads no file that is not open. -/
theorem sysfsBody_reads_open (opened : SysfsFile → Bool) :
    (ResourceLedger.empty.perform (sysfsBody opened).2).strayUses = 0 := by
  unfold sysfsBody
  split_ifs with hfailed
  · exact ResourceLedger.strayUses_perform _ (by simp) _
  · have hall : sysfsFiles.filter opened = sysfsFiles := by
      simpa using hfailed
    rw [hall, ResourceLedger.perform_append, ResourceLedger.perform_append,
      ResourceLedger.perform_uses, ResourceLedger.strayUses_perform _ (by simp),
      ResourceLedger.strayUses_perform _ (by simp)]
    · rfl
    · decide

/-! ### The producer among the other tasks -/

/-- The step neither clears `keep_running` nor cancels the producer. -/
def ProducerUndisturbed : TaskLabel → Prop
  | .stop | .cancel .producer => False
  | _ => True

/-- A run that is to go on has a producer in its loop and a counter that is not negative. -/
structure ProducerLooping (state : TaskState) : Prop where
  keepRunning : state.keepRunning = true
  numReads : 0 ≤ state.numReads
  producer : ∃ position, state.producer = .running position

variable {capacity : ℤ} {state successor : TaskState}

/-- A step of the producer keeps it in its loop. -/
theorem ProducerLooping.producerTask (hlooping : ProducerLooping state) {ret : ℤ}
    {data : Bme680FifoData} (hstep : producerTask capacity state ret data = some successor) :
    ProducerLooping successor := by
  obtain ⟨hrunning, hnonneg, position, hphase⟩ := hlooping
  cases position with
  | testing =>
    obtain ⟨htest, hafter⟩ := producerTest_of_nonneg hnonneg
    simp only [Tasks.producerTask, hphase, hrunning, htest, if_true] at hstep
    obtain rfl := Option.some.inj hstep
    exact ⟨rfl, hafter, _, rfl⟩
  | writing fdata =>
    simp only [Tasks.producerTask, hphase] at hstep
    obtain ⟨history, -, rfl⟩ := Option.map_eq_some_iff.mp hstep
    exact ⟨hrunning, hnonneg, _, rfl⟩
  | _ =>
    simp only [Tasks.producerTask, hphase] at hstep
    obtain rfl := Option.some.inj hstep
    exact ⟨hrunning, hnonneg, _, rfl⟩

/-- Every step that does not disturb the producer keeps it in its loop. -/
theorem ProducerLooping.taskStep (hlooping : ProducerLooping state) {label : TaskLabel}
    (hallowed : ProducerUndisturbed label)
    (hstep : taskStep capacity state label = some successor) : ProducerLooping successor := by
  cases label with
  | stop => exact hallowed.elim
  | producer ret data => exact hlooping.producerTask hstep
  | consumer ret data =>
    obtain ⟨_, _, _, rfl⟩ := consumerTask_effect hstep
    exact ⟨hlooping.keepRunning, hlooping.numReads, hlooping.producer⟩
  | netlink ret =>
    obtain ⟨_, _, rfl, -⟩ := netlinkTask_effect hstep
    exact ⟨hlooping.keepRunning, hlooping.numReads, hlooping.producer⟩
  | sysv ret =>
    obtain ⟨_, rfl⟩ := sysvMsgTask_effect hstep
    exact ⟨hlooping.keepRunning, hlooping.numReads, hlooping.producer⟩
  | cancel task =>
    cases task with
    | producer => exact hallowed.elim
    | consumer | netlink | sysv =>
      obtain ⟨_, -, rfl⟩ := Option.map_eq_some_iff.mp hstep
      exact ⟨hlooping.keepRunning, hlooping.numReads, hlooping.producer⟩

/-- The arguments keep the number of readings asked for. -/
theorem taskStep_targ_numReads {label : TaskLabel}
    (hstep : taskStep capacity state label = some successor) :
    successor.targ.numReads = state.targ.numReads := by
  cases label with
  | stop =>
    obtain rfl := Option.some.inj hstep
    rfl
  | producer ret data =>
    obtain ⟨_, _, _, rfl, -⟩ := producerTask_effect hstep
    rfl
  | consumer ret data =>
    obtain ⟨_, _, _, rfl⟩ := consumerTask_effect hstep
    rfl
  | netlink ret =>
    by_cases hopening : state.netlink = .running .opening
    · simp only [Tasks.taskStep, netlinkTask, hopening, Option.some.injEq] at hstep
      rw [← hstep]
    · obtain ⟨_, _, rfl, hkept⟩ := netlinkTask_effect hstep
      rw [hkept hopening]
  | sysv ret =>
    obtain ⟨_, rfl⟩ := sysvMsgTask_effect hstep
    rfl
  | cancel task =>
    cases task with
    | producer | consumer | netlink | sysv =>
      obtain ⟨_, -, rfl⟩ := Option.map_eq_some_iff.mp hstep
      rfl

/-- Unless it is stopped or cancelled, the producer of a program started with a number of readings
that is not negative is in its loop in every state. -/
theorem producer_stays_running
    (hreach : (taskSystem capacity).ReachableUnder (fun _ ↦ ProducerUndisturbed) state)
    (hnonneg : 0 ≤ state.targ.numReads) : ∃ position, state.producer = .running position := by
  have hlooping : ProducerLooping state := by
    induction hreach with
    | initial hinitial =>
      obtain ⟨hrunning, -, hcounter, -, -, hproducer, -⟩ := hinitial
      exact ⟨hrunning, by rwa [hcounter], .testing, hproducer⟩
    | step _ hallowed hnext ih =>
      obtain ⟨reached, hstep, rfl⟩ := Option.map_eq_some_iff.mp hnext
      have hbefore := ih (by rwa [← taskStep_targ_numReads hstep])
      obtain ⟨hrunning, hcounter, hproducer⟩ := hbefore.taskStep hallowed hstep
      exact ⟨hrunning, hcounter, hproducer⟩
  exact hlooping.producer

end Bme680.Tasks
