import Bme680.Arithmetic.SignedWords
import Bme680.Semaphore.FifoSemaphore

/-!
# The counter of the FIFO semaphore

The counter of a semaphore is its initial value, plus the posts that succeeded, minus the waits that
did. The system is that of the FIFO semaphore, any number of threads in `fifo_semaphore_wait` and
posts from anywhere, with a count of the calls that returned zero and a note whether a call changed
the counter and returned an error.

A wait takes its unit only where it returns zero. A post adds its unit first and tests the counter
afterwards, so that at the greatest `int` it leaves a negative counter behind with its error:
`count_conserved_exact` says that the balance is kept exactly as long as no post finds the counter
there.
-/

set_option autoImplicit false
set_option relaxedAutoImplicit false

namespace Bme680.Semaphore

open Arithmetic Concurrency

/-! ### The system with its calls counted -/

/-- The semaphore and its threads; how many posts and how many waits returned zero; the threads in
a call that has changed the counter; and whether a call that had changed the counter returned an
error. -/
structure CountedState (Thread : Type*) where
  base : SemaphoreState Thread
  posts : ℕ
  waits : ℕ
  touched : Thread → Bool
  errorChanged : Bool

section System

variable {Thread : Type*}

/-- The section of `fifo_semaphore_wait` a thread is about to run. -/
def SemaphoreState.waitSection (state : SemaphoreState Thread) (thread : Thread) :
    Option (FifoSemaphore × SectionEnd) :=
  match state.phases thread with
  | .entering => some (fifoSemaphoreWaitLoop state.sem)
  | .awake ret => some (fifoSemaphoreWaitWoken state.sem ret)
  | .outside | .asleep => none

variable [DecidableEq Thread]

/-- The counts after a step that led to a state of the semaphore and its threads. -/
def CountedState.count (state : CountedState Thread) (base : SemaphoreState Thread) :
    SemaphoreLabel Thread → CountedState Thread
  | .enter thread =>
    { state with base := base, touched := Function.update state.touched thread false }
  | .section thread =>
    let changed := state.touched thread || decide (base.sem ≠ state.base.sem)
    match (state.base.waitSection thread).map Prod.snd with
    | some (.returns ret) =>
      { base := base
        posts := state.posts
        waits := if ret = 0 then state.waits + 1 else state.waits
        touched := Function.update state.touched thread false
        errorChanged := state.errorChanged || (decide (ret ≠ 0) && changed) }
    | _ => { state with base := base, touched := Function.update state.touched thread changed }
  | .wakeUp _ _ => { state with base := base }
  | .post _ =>
    if (fifoSemaphorePost state.base.sem).2 = 0 then
      { state with base := base, posts := state.posts + 1 }
    else
      { state with
        base := base
        errorChanged := state.errorChanged || decide (base.sem ≠ state.base.sem) }

/-- Any number of threads and a semaphore that `fifo_semaphore_init` set up with a value, their
calls counted. -/
def countedSystem (Thread : Type*) [DecidableEq Thread] [Fintype Thread] (value : Int32) :
    TransitionSystem (CountedState Thread) (SemaphoreLabel Thread) where
  initial := fun state ↦ fifoSemaphoreInit value true = .ok state.base.sem ∧
    (semaphoreSystem Thread).initial state.base ∧ state.posts = 0 ∧ state.waits = 0 ∧
    (∀ thread, state.touched thread = false) ∧ state.errorChanged = false
  next := fun state label ↦ (semaphoreNext state.base label).map fun base ↦ state.count base label

/-- The counter is not negative, and it is the initial value with the posts that returned zero added
and the waits that did taken off. No call in progress has changed it, and no call that returned an
error. -/
structure CountConserved (value : Int32) (state : CountedState Thread) : Prop where
  nonneg : 0 ≤ state.base.sem.count.toInt
  balance : state.base.sem.count.toInt = value.toInt + state.posts - state.waits
  untouched : ∀ thread, state.touched thread = false
  error_unchanged : state.errorChanged = false

/-- A post does not find the counter at the greatest `int`. -/
def PostsBelowMax (state : CountedState Thread) : SemaphoreLabel Thread → Prop
  | .post _ => state.base.sem.count.toInt < 2147483647
  | _ => True

/-! ### Single calls -/

/-- A unit added to a counter that is not at its greatest value. -/
theorem toInt_count_succ {count : Int32} (hcount : count.toInt < 2147483647) :
    (count + 1).toInt = count.toInt + 1 := by
  have hrange := range32 count
  have hone : (1 : Int32).toInt = 1 := by decide
  rw [Int32.toInt_add, hone]
  exact bmod_of_range32 (by omega) (by omega)

/-- A unit taken off a positive counter. -/
theorem toInt_count_pred {count : Int32} (hcount : 0 < count) :
    (count - 1).toInt = count.toInt - 1 := by
  have hpositive : 0 < count.toInt := by simpa [Int32.lt_iff_toInt_lt] using hcount
  have hrange := range32 count
  have hone : (1 : Int32).toInt = 1 := by decide
  rw [Int32.toInt_sub, hone]
  exact bmod_of_range32 (by omega) (by omega)

/-- A post of a counter that is not negative returns zero exactly where the counter is not at its
greatest value; there it leaves a negative one. -/
theorem fifoSemaphorePost_cases {sem : FifoSemaphore} (hnonneg : 0 ≤ sem.count.toInt) :
    (sem.count.toInt < 2147483647 ∧
        fifoSemaphorePost sem = ({ count := sem.count + 1 }, 0)) ∨
      (sem.count.toInt = 2147483647 ∧ (fifoSemaphorePost sem).1.count.toInt = -2147483648) := by
  have hrange := range32 sem.count
  rcases lt_or_ge sem.count.toInt 2147483647 with hbelow | hmax
  · have hcount := toInt_count_succ hbelow
    have hnotNegative : ¬ sem.count + 1 < 0 := by
      have hzero : (0 : Int32).toInt = 0 := by decide
      rw [Int32.lt_iff_toInt_lt, hcount, hzero]
      omega
    exact .inl ⟨hbelow, if_neg hnotNegative⟩
  · have hgreatest : sem.count.toInt = 2147483647 := by omega
    have hsame : sem.count = 2147483647 := Int32.toInt.inj hgreatest
    have hcount : (fifoSemaphorePost sem).1.count = sem.count + 1 := by
      unfold fifoSemaphorePost
      split_ifs <;> rfl
    refine .inr ⟨hgreatest, ?_⟩
    rw [hcount, hsame]
    decide

variable [Fintype Thread] {state successor : CountedState Thread} {base : SemaphoreState Thread}
  {thread : Thread} {value : Int32}

/-- A post leaves the counter it computes, whether it signals or not. -/
theorem semaphoreNext_post_sem {before : SemaphoreState Thread} {woken : Option Thread}
    (hnext : semaphoreNext before (.post woken) = some base) :
    base.sem = (fifoSemaphorePost before.sem).1 := by
  simp only [semaphoreNext] at hnext
  split_ifs at hnext
  · obtain ⟨phases, -, rfl⟩ := Option.map_eq_some_iff.mp hnext
    rfl
  · rw [← Option.some.inj hnext]

/-- A section sleeps and leaves the counter, returns an error and leaves the counter, or takes a
unit off a positive counter and returns zero. -/
theorem waitSection_cases {before : SemaphoreState Thread}
    (hnext : semaphoreNext before (.section thread) = some base) :
    (base.sem = before.sem ∧ ((before.waitSection thread).map Prod.snd = some .sleeps ∨
        ∃ code ≠ 0, (before.waitSection thread).map Prod.snd = some (.returns code))) ∨
      (0 < before.sem.count ∧ base.sem = { count := before.sem.count - 1 } ∧
        (before.waitSection thread).map Prod.snd = some (.returns 0)) := by
  obtain ⟨ret, hphase, rfl⟩ := semaphoreNext_section hnext
  have hsection : before.waitSection thread = some (fifoSemaphoreWaitWoken before.sem ret) := by
    rcases hphase with hawake | ⟨hentering, rfl⟩
    · simp only [SemaphoreState.waitSection, hawake]
    · simp only [SemaphoreState.waitSection, hentering]
      rfl
  rw [hsection]
  rcases fifoSemaphoreWaitWoken_cases before.sem ret with
    ⟨-, code, hcode, hresult⟩ | ⟨-, -, hresult⟩ | ⟨-, hpositive, hresult⟩
  · rw [hresult]
    exact .inl ⟨rfl, .inr ⟨code, hcode, rfl⟩⟩
  · rw [hresult]
    exact .inl ⟨rfl, .inl rfl⟩
  · rw [hresult]
    exact .inr ⟨hpositive, rfl, rfl⟩

/-! ### The balance -/

namespace CountConserved

/-- A section of a wait keeps the balance. -/
theorem waitSection (hconserved : CountConserved value state)
    (hnext : semaphoreNext state.base (.section thread) = some base) :
    CountConserved value (state.count base (.section thread)) := by
  have huntouched (other : Thread) :
      Function.update state.touched thread false other = false := by
    by_cases hsame : other = thread
    · rw [hsame, Function.update_self]
    · rw [Function.update_of_ne hsame]
      exact hconserved.untouched other
  have hbalance := hconserved.balance
  rcases waitSection_cases hnext with
    ⟨hsem, hsleeps | ⟨code, hcode, hreturns⟩⟩ | ⟨hpositive, hsem, hreturns⟩
  · have hafter : state.count base (.section thread) =
        { state with base := base, touched := Function.update state.touched thread false } := by
      simp [CountedState.count, hsleeps, hsem, hconserved.untouched thread]
    rw [hafter]
    exact ⟨hsem ▸ hconserved.nonneg, hsem ▸ hbalance, huntouched, hconserved.error_unchanged⟩
  · have hafter : state.count base (.section thread) =
        { state with base := base, touched := Function.update state.touched thread false } := by
      simp [CountedState.count, hreturns, hsem, hconserved.untouched thread, hcode]
    rw [hafter]
    exact ⟨hsem ▸ hconserved.nonneg, hsem ▸ hbalance, huntouched, hconserved.error_unchanged⟩
  · have hafter : state.count base (.section thread) =
        { state with
          base := base
          waits := state.waits + 1
          touched := Function.update state.touched thread false } := by
      simp [CountedState.count, hreturns]
    have hcount : base.sem.count.toInt = state.base.sem.count.toInt - 1 := by
      rw [hsem]
      exact toInt_count_pred hpositive
    have hpositiveInt : 0 < state.base.sem.count.toInt := by
      simpa [Int32.lt_iff_toInt_lt] using hpositive
    rw [hafter]
    refine ⟨?_, ?_, huntouched, hconserved.error_unchanged⟩
    · dsimp only
      omega
    · push_cast
      omega

/-- A post keeps the balance exactly where it does not find the counter at its greatest value. -/
theorem post_iff (hconserved : CountConserved value state) {woken : Option Thread}
    (hnext : semaphoreNext state.base (.post woken) = some base) :
    CountConserved value (state.count base (.post woken)) ↔
      state.base.sem.count.toInt < 2147483647 := by
  have hsem := semaphoreNext_post_sem hnext
  have hbalance := hconserved.balance
  have hnonneg := hconserved.nonneg
  rcases fifoSemaphorePost_cases hconserved.nonneg with ⟨hbelow, hpost⟩ | ⟨hmax, hwrapped⟩
  · refine iff_of_true ?_ hbelow
    rw [hpost] at hsem
    have hcount : base.sem.count.toInt = state.base.sem.count.toInt + 1 := by
      rw [hsem]
      exact toInt_count_succ hbelow
    have hafter : state.count base (.post woken) =
        { state with base := base, posts := state.posts + 1 } := by
      simp [CountedState.count, hpost]
    rw [hafter]
    refine ⟨?_, ?_, hconserved.untouched, hconserved.error_unchanged⟩
    · dsimp only
      omega
    · push_cast
      omega
  · refine iff_of_false (fun hafter ↦ ?_) (by omega)
    have hbase : (state.count base (.post woken)).base = base := by
      unfold CountedState.count
      split_ifs <;> rfl
    have hnegative := hafter.nonneg
    rw [hbase, hsem, hwrapped] at hnegative
    omega

/-- A step keeps the balance exactly where it is not a post that finds the counter at its greatest
value. -/
theorem next_iff (hconserved : CountConserved value state) {label : SemaphoreLabel Thread}
    (hnext : (countedSystem Thread value).next state label = some successor) :
    CountConserved value successor ↔ PostsBelowMax state label := by
  obtain ⟨base, hbase, rfl⟩ := Option.map_eq_some_iff.mp hnext
  cases label with
  | enter thread =>
    refine iff_of_true ?_ trivial
    simp only [semaphoreNext, Option.ite_none_right_eq_some, Option.some.injEq] at hbase
    obtain ⟨-, rfl⟩ := hbase
    refine ⟨hconserved.nonneg, hconserved.balance, fun other ↦ ?_, hconserved.error_unchanged⟩
    simp only [CountedState.count]
    by_cases hsame : other = thread
    · rw [hsame, Function.update_self]
    · rw [Function.update_of_ne hsame]
      exact hconserved.untouched other
  | «section» thread => exact iff_of_true (hconserved.waitSection hbase) trivial
  | wakeUp thread ret =>
    refine iff_of_true ?_ trivial
    simp only [semaphoreNext, Option.ite_none_right_eq_some, Option.some.injEq] at hbase
    obtain ⟨-, rfl⟩ := hbase
    exact ⟨hconserved.nonneg, hconserved.balance, hconserved.untouched, hconserved.error_unchanged⟩
  | post woken => exact hconserved.post_iff hbase

end CountConserved

/-- The counter is the initial value with the successful posts added and the successful waits taken
off, never negative, and unchanged by calls that fail, as long as no post finds it at the greatest
`int`; such a post leaves it negative and returns an error. -/
theorem count_conserved_exact (value : Int32) :
    (countedSystem Thread value).ExactFor PostsBelowMax (CountConserved value) := by
  refine .of_step_iff (fun state hstart ↦ ?_) fun state label successor hconserved hnext ↦
    hconserved.next_iff hnext
  obtain ⟨hinit, -, hposts, hwaits, huntouched, hunchanged⟩ := hstart
  unfold fifoSemaphoreInit at hinit
  split_ifs at hinit with hallocated hnegative
  have hcount : state.base.sem.count = value := by rw [← Except.ok.inj hinit]
  have hnonneg : 0 ≤ value.toInt := by
    simpa [Int32.lt_iff_toInt_lt] using hnegative
  refine ⟨?_, ?_, huntouched, hunchanged⟩
  · rw [hcount]
    exact hnonneg
  · rw [hcount, hposts, hwaits]
    simp

end System

/-- A semaphore initialized with the greatest `int`. -/
def fullSemaphore : CountedState (Fin 1) where
  base :=
    { sem := { count := 2147483647 }
      phases := fun _ ↦ .outside
      sleptBefore := fun _ _ ↦ false
      overtaken := fun _ ↦ false
      unfair := false }
  posts := 0
  waits := 0
  touched := fun _ ↦ false
  errorChanged := false

/-- A post of a semaphore that was initialized with the greatest `int` returns an error and leaves
the counter at the least one. -/
theorem post_wraps_counter :
    ¬ ∀ (value : Int32) (state : CountedState (Fin 1)),
      (countedSystem (Fin 1) value).Reachable state → CountConserved value state := by
  intro hall
  obtain ⟨final, hrun, hcount⟩ : ∃ final,
      (countedSystem (Fin 1) 2147483647).run fullSemaphore [.post none] = some final ∧
        final.base.sem.count = -2147483648 :=
    ⟨_, rfl, rfl⟩
  have hstart : (countedSystem (Fin 1) 2147483647).initial fullSemaphore :=
    ⟨rfl, ⟨⟨2147483647, rfl⟩, fun _ ↦ rfl, fun _ _ ↦ rfl, fun _ ↦ rfl, rfl⟩, rfl, rfl,
      fun _ ↦ rfl, rfl⟩
  have hconserved := hall 2147483647 final (TransitionSystem.reachable_of_run hstart _ hrun)
  have hnonneg := hconserved.nonneg
  rw [hcount] at hnonneg
  exact absurd hnonneg (by decide)

end Bme680.Semaphore
