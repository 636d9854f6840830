import Bme680.Concurrency.DestroyableMutex
import Bme680.Concurrency.TransitionSystem
import Mathlib.Data.Int.Notation
import Mathlib.Tactic.Common

/-!
# The lock of the logger

Every function of `logger.c` may log a message of its own through `logger_log`, which takes
`logger.mutex` where the level of the message is not below that of the logger. `logger_set_level`
and `logger_destroy` do so while they hold that mutex, and it is not a recursive one. None of the
functions looks at what a lock or unlock returns, so that a thread goes on without the mutex where
it has been destroyed, and a thread that gets it after its destruction cannot release it.

The system is any number of threads calling the four functions at any time, with any levels and any
outcome of the file operations. Beside the logger itself each thread records whether it has
acquired the mutex and not released it, so that a `pthread_mutex_init` that makes the mutex free
under a holder does not hide that the holder still has it.

`logger_lock_balanced_iff` says when no thread requests the mutex twice and none returns with it:
exactly while the messages logged under the mutex are below the level of the logger, and the mutex
is destroyed only while no thread has it or waits for it.
-/

set_option autoImplicit false
set_option relaxedAutoImplicit false

namespace Bme680.Logging

open Concurrency

/-! ### The logger and the calls -/

def LOG_DEBUG : ℤ := 0
def LOG_INFO : ℤ := 1
def LOG_WARNING : ℤ := 2
def LOG_ERROR : ℤ := 3

/-- Who calls `logger_log`: a client, `logger_init` with a bad file descriptor or at its end,
`logger_set_level` with an invalid level, or `logger_set_level` and `logger_destroy` between their
lock and their unlock. -/
inductive LogCaller
  | client
  | initBadFile
  | initDone
  | invalidLevel
  | setLevel
  | destroy
  deriving DecidableEq, Repr

/-- The callers between a lock and an unlock of the mutex. -/
def LogCaller.holding : LogCaller → Bool
  | .client | .initBadFile | .initDone | .invalidLevel => false
  | .setLevel | .destroy => true

/-- What a thread is about to do in the functions of `logger.c`. A lock call is in two parts: at its
beginning, and at its wait for a mutex that was not destroyed then. -/
inductive LoggerPhase
  | outside
  | initMutex
  | initLevel
  | initOpens
  | initFails
  | initFileno
  | initCloses
  | initDestroysMutex
  | destroyLocks
  | destroyWaits
  | destroyTestsFile
  | destroyCloses
  | destroyUnlocks
  | destroyMutex
  | setLocks (level : ℤ)
  | setWaits (level : ℤ)
  | setWrites (level : ℤ)
  | setUnlocks
  | logTests (caller : LogCaller) (level : ℤ)
  | logLocks (caller : LogCaller)
  | logWaits (caller : LogCaller)
  | logTestsFile (caller : LogCaller)
  | logWrites (caller : LogCaller)
  | logUnlocks (caller : LogCaller)
  deriving DecidableEq, Repr

/-- Where a call of `logger_log` returns to. -/
def LogCaller.return : LogCaller → LoggerPhase
  | .client | .initBadFile | .initDone | .invalidLevel => .outside
  | .setLevel => .setUnlocks
  | .destroy => .destroyCloses

/-- A thread: where it is, and whether it has acquired the mutex and not released it. -/
structure LoggerThread where
  phase : LoggerPhase
  holds : Bool
  deriving DecidableEq, Repr

/-- `struct logger`: whether the log file is open, the mutex, and the level. -/
structure Logger (Thread : Type*) where
  logFile : Bool
  mutex : DestroyableMutex Thread
  level : ℤ

/-- The logger and the threads. -/
structure LoggerState (Thread : Type*) where
  logger : Logger Thread
  threads : Thread → LoggerThread

/-- A thread calls one of the functions, or takes its next step, with the outcome of the file
operation that step makes, if any. -/
inductive LoggerLabel (Thread : Type*)
  | init (thread : Thread)
  | destroy (thread : Thread)
  | setLevel (thread : Thread) (level : ℤ)
  | log (thread : Thread) (level : ℤ)
  | step (thread : Thread) (succeeds : Bool)
  deriving DecidableEq

variable {Thread : Type*} [DecidableEq Thread]

/-! ### The system -/

omit [DecidableEq Thread] in
/-- The beginning of `pthread_mutex_lock` on the mutex of the logger: a destroyed mutex is refused,
which no caller looks at. -/
def Logger.lock (logger : Logger Thread) (waits next : LoggerPhase) : LoggerPhase :=
  if logger.mutex.destroyed then next else waits

omit [DecidableEq Thread] in
/-- The end of `pthread_mutex_lock`: it waits while the mutex has a holder, whoever that is. -/
def Logger.acquire (logger : Logger Thread) (current : Thread) (next : LoggerPhase) :
    Option (Logger Thread × LoggerThread) :=
  (logger.mutex.acquire current).map fun mutex ↦
    ({ logger with mutex := mutex }, { phase := next, holds := true })

omit [DecidableEq Thread] in
/-- `pthread_mutex_unlock`, which fails on a destroyed mutex. -/
def Logger.unlock (logger : Logger Thread) (thread : LoggerThread) (next : LoggerPhase) :
    Logger Thread × LoggerThread :=
  ({ logger with mutex := logger.mutex.unlock },
    { phase := next, holds := thread.holds && logger.mutex.destroyed })

omit [DecidableEq Thread] in
/-- The next step of a thread in the functions of `logger.c`. -/
def loggerStep (current : Thread) (logger : Logger Thread) (thread : LoggerThread)
    (succeeds : Bool) : Option (Logger Thread × LoggerThread) :=
  let goto (phase : LoggerPhase) : LoggerThread := { thread with phase := phase }
  match thread.phase with
  | .outside => none
  -- logger_init
  | .initMutex => some ({ logger with mutex := .intact }, goto .initLevel)
  | .initLevel => some ({ logger with level := LOG_INFO }, goto .initOpens)
  | .initOpens =>
    some ({ logger with logFile := succeeds }, goto (if succeeds then .initFileno else .initFails))
  -- the mutex is destroyed and -1 returned
  | .initFails => some ({ logger with mutex := logger.mutex.destroy }, goto .outside)
  | .initFileno =>
    some (logger, goto (if succeeds then .logTests .initDone LOG_INFO else .initCloses))
  | .initCloses => some (logger, goto .initDestroysMutex)
  | .initDestroysMutex =>
    some ({ logger with mutex := logger.mutex.destroy }, goto (.logTests .initBadFile LOG_ERROR))
  -- logger_destroy
  | .destroyLocks => some (logger, goto (logger.lock .destroyWaits .destroyTestsFile))
  | .destroyWaits => logger.acquire current .destroyTestsFile
  | .destroyTestsFile =>
    some (logger, goto (if logger.logFile then .logTests .destroy LOG_INFO else .destroyUnlocks))
  | .destroyCloses => some ({ logger with logFile := false }, goto .destroyUnlocks)
  | .destroyUnlocks => some (logger.unlock thread .destroyMutex)
  | .destroyMutex => some ({ logger with mutex := logger.mutex.destroy }, goto .outside)
  -- logger_set_level
  | .setLocks level => some (logger, goto (logger.lock (.setWaits level) (.setWrites level)))
  | .setWaits level => logger.acquire current (.setWrites level)
  | .setWrites level =>
    some ({ logger with level := level }, goto (.logTests .setLevel LOG_INFO))
  | .setUnlocks => some (logger.unlock thread .outside)
  -- logger_log
  | .logTests caller level =>
    some (logger, goto (if level < logger.level then caller.return else .logLocks caller))
  | .logLocks caller => some (logger, goto (logger.lock (.logWaits caller) (.logTestsFile caller)))
  | .logWaits caller => logger.acquire current (.logTestsFile caller)
  | .logTestsFile caller =>
    some (logger, goto (if logger.logFile then .logWrites caller else .logUnlocks caller))
  -- each exit of the write releases the mutex
  | .logWrites caller => some (logger, goto (.logUnlocks caller))
  | .logUnlocks caller => some (logger.unlock thread caller.return)

/-- The state after a step of a thread. -/
def LoggerState.after (state : LoggerState Thread) (thread : Thread)
    (result : Logger Thread × LoggerThread) : LoggerState Thread :=
  { logger := result.1, threads := Function.update state.threads thread result.2 }

/-- The state after a thread outside has called a function. -/
def LoggerState.call (state : LoggerState Thread) (thread : Thread) (phase : LoggerPhase) :
    Option (LoggerState Thread) :=
  if (state.threads thread).phase = .outside then
    some (state.after thread (state.logger, { state.threads thread with phase := phase }))
  else none

/-- One step of the threads. -/
def loggerNext (state : LoggerState Thread) : LoggerLabel Thread → Option (LoggerState Thread)
  | .init thread => state.call thread .initMutex
  | .destroy thread => state.call thread .destroyLocks
  | .setLevel thread level =>
    if level < LOG_DEBUG ∨ LOG_ERROR < level then
      state.call thread (.logTests .invalidLevel LOG_ERROR)
    else state.call thread (.setLocks level)
  | .log thread level => state.call thread (.logTests .client level)
  | .step thread succeeds =>
    (loggerStep thread state.logger (state.threads thread) succeeds).map (state.after thread)

/-- Any threads using the logger from the start of the program on, with its mutex as the start of
the program leaves it. -/
def loggerSystem (Thread : Type*) [DecidableEq Thread] :
    TransitionSystem (LoggerState Thread) (LoggerLabel Thread) where
  initial state :=
    state = { logger := { logFile := false, mutex := .intact, level := LOG_DEBUG }
              threads := fun _ ↦ { phase := .outside, holds := false } }
  next := loggerNext

/-! ### The balance of the lock -/

/-- The thread is inside its lock call, waiting for the mutex. -/
def LoggerPhase.Waits : LoggerPhase → Prop
  | .destroyWaits | .setWaits _ | .logWaits _ => True
  | _ => False

/-- The thread is about to request the mutex, or has done so and waits for it. -/
def LoggerPhase.Requesting : LoggerPhase → Prop
  | .destroyLocks | .setLocks _ | .logLocks _ => True
  | phase => phase.Waits

/-- The thread is about to destroy the mutex. -/
def LoggerPhase.Destroys : LoggerPhase → Prop
  | .initFails | .initDestroysMutex | .destroyMutex => True
  | _ => False

omit [DecidableEq Thread] in
/-- No thread requests the mutex while it holds it, and none is outside with it. -/
def LockBalanced (state : LoggerState Thread) : Prop :=
  ∀ thread, (state.threads thread).phase.Requesting ∨ (state.threads thread).phase = .outside →
    (state.threads thread).holds = false

omit [DecidableEq Thread] in
/-- The messages `logger_set_level` and `logger_destroy` log while they hold the mutex are below the
level of the logger. -/
def LogsBelowLevel (state : LoggerState Thread) : LoggerLabel Thread → Prop
  | .step thread _ =>
    ∀ caller level, (state.threads thread).phase = .logTests caller level →
      (state.threads thread).holds = true → level < state.logger.level
  | _ => True

omit [DecidableEq Thread] in
/-- The mutex is destroyed only while no thread holds it or waits for it. -/
def DestroysUnused (state : LoggerState Thread) : LoggerLabel Thread → Prop
  | .step thread _ =>
    (state.threads thread).phase.Destroys → state.logger.mutex.users = 0 →
      ∀ other, (state.threads other).holds = false ∧ ¬ (state.threads other).phase.Waits
  | _ => True

omit [DecidableEq Thread] in
/-- Both conditions on a step. -/
def BalancedUse (state : LoggerState Thread) (label : LoggerLabel Thread) : Prop :=
  LogsBelowLevel state label ∧ DestroysUnused state label

/-! ### One step -/

/-- The phases at which a thread may have the mutex. -/
def LoggerPhase.MayHold : LoggerPhase → Prop
  | .destroyTestsFile | .destroyCloses | .destroyUnlocks | .setWrites _ | .setUnlocks => True
  | .logTests caller _ => caller.holding = true
  | .logTestsFile _ | .logWrites _ | .logUnlocks _ => True
  | _ => False

/-- Where a thread requests the mutex, or is outside, it may not have it. -/
theorem LoggerPhase.not_mayHold {phase : LoggerPhase}
    (hfree : phase.Requesting ∨ phase = .outside) : ¬ phase.MayHold := by
  rcases hfree with hrequesting | rfl
  · cases phase <;> first | exact id | exact hrequesting.elim
  · exact id

/-- Where `logger_log` returns to with the mutex, its caller may have it. -/
theorem LogCaller.return_mayHold {caller : LogCaller} (hholding : caller.holding = true) :
    caller.return.MayHold := by
  cases caller <;> first | exact trivial | cases hholding

/-- `logger_log` does not return to a lock call. -/
theorem LogCaller.return_not_waits (caller : LogCaller) : ¬ caller.return.Waits := by
  cases caller <;> exact id

/-- What a step of a thread does to the mutex: nothing, where it begins to wait only for a mutex
that is not destroyed; the initialization, the end of a lock call, an unlock or the destruction. -/
inductive MutexMove (current : Thread) (logger logger' : Logger Thread)
    (thread thread' : LoggerThread) : Prop
  | keeps (hmutex : logger'.mutex = logger.mutex) (hholds : thread'.holds = thread.holds)
      (hwaits : thread'.phase.Waits → logger.mutex.destroyed = false)
  | renews (hphase : thread.phase = .initMutex) (hmutex : logger'.mutex = .intact)
      (hholds : thread'.holds = thread.holds) (hwaits : ¬ thread'.phase.Waits)
  | takes (hphase : thread.phase.Waits) (hmutex : logger.mutex.acquire current = some logger'.mutex)
      (hholds : thread'.holds = true) (hwaits : ¬ thread'.phase.Waits)
  | releases (hphase : thread.phase.MayHold) (hmutex : logger'.mutex = logger.mutex.unlock)
      (hholds : thread'.holds = (thread.holds && logger.mutex.destroyed))
      (hwaits : ¬ thread'.phase.Waits)
  | destroys (hphase : thread.phase.Destroys) (hmutex : logger'.mutex = logger.mutex.destroy)
      (hholds : thread'.holds = thread.holds) (hwaits : ¬ thread'.phase.Waits)

omit [DecidableEq Thread] in
/-- A lock call that is refused or begins to wait. -/
theorem Logger.lock_moves (logger : Logger Thread) {current : Thread} {thread : LoggerThread}
    {waits next : LoggerPhase} (hnext : ¬ next.Waits) :
    MutexMove current logger logger thread
      { thread with phase := logger.lock waits next } := by
  refine .keeps rfl rfl fun hwaits ↦ ?_
  by_contra hdestroyed
  rw [Logger.lock, if_pos (eq_true_of_ne_false hdestroyed)] at hwaits
  exact hnext hwaits

omit [DecidableEq Thread] in
/-- A lock call that ends. -/
theorem Logger.acquire_moves {logger logger' : Logger Thread} {current : Thread}
    {thread thread' : LoggerThread} {next : LoggerPhase} (hphase : thread.phase.Waits)
    (hnext : ¬ next.Waits) (hacquire : logger.acquire current next = some (logger', thread')) :
    MutexMove current logger logger' thread thread' ∧ thread'.phase = next := by
  obtain ⟨mutex, hmutex, hresult⟩ := Option.map_eq_some_iff.mp hacquire
  obtain ⟨rfl, rfl⟩ := Prod.mk.inj hresult
  exact ⟨.takes hphase hmutex rfl hnext, rfl⟩

omit [DecidableEq Thread] in
/-- A step moves the mutex in one of these ways. -/
theorem loggerStep_moves {current : Thread} {logger logger' : Logger Thread}
    {thread thread' : LoggerThread} {succeeds : Bool}
    (hstep : loggerStep current logger thread succeeds = some (logger', thread')) :
    MutexMove current logger logger' thread thread' := by
  unfold loggerStep at hstep
  cases hphase : thread.phase with
  | outside => simp [hphase] at hstep
  | initMutex =>
    simp only [hphase] at hstep
    obtain ⟨rfl, rfl⟩ := Prod.mk.inj (Option.some.inj hstep)
    exact .renews hphase rfl rfl id
  | initLevel | initCloses | destroyCloses | setWrites level | logWrites caller =>
    simp only [hphase] at hstep
    obtain ⟨rfl, rfl⟩ := Prod.mk.inj (Option.some.inj hstep)
    exact .keeps rfl rfl False.elim
  | initOpens | initFileno | destroyTestsFile | logTestsFile caller =>
    simp only [hphase] at hstep
    obtain ⟨rfl, rfl⟩ := Prod.mk.inj (Option.some.inj hstep)
    refine .keeps rfl rfl fun hwaits ↦ ?_
    dsimp only at hwaits
    split_ifs at hwaits <;> exact hwaits.elim
  | logTests caller level =>
    simp only [hphase] at hstep
    obtain ⟨rfl, rfl⟩ := Prod.mk.inj (Option.some.inj hstep)
    refine .keeps rfl rfl fun hwaits ↦ ?_
    dsimp only at hwaits
    split_ifs at hwaits
    · exact (caller.return_not_waits hwaits).elim
    · exact hwaits.elim
  | initFails | initDestroysMutex | destroyMutex =>
    simp only [hphase] at hstep
    obtain ⟨rfl, rfl⟩ := Prod.mk.inj (Option.some.inj hstep)
    exact .destroys (by rw [hphase]; trivial) rfl rfl id
  | destroyLocks | setLocks level | logLocks caller =>
    simp only [hphase] at hstep
    obtain ⟨rfl, rfl⟩ := Prod.mk.inj (Option.some.inj hstep)
    exact Logger.lock_moves _ id
  | destroyWaits | setWaits level | logWaits caller =>
    simp only [hphase] at hstep
    exact (Logger.acquire_moves (by rw [hphase]; trivial) id hstep).1
  | destroyUnlocks | setUnlocks =>
    simp only [hphase] at hstep
    obtain ⟨rfl, rfl⟩ := Prod.mk.inj (Option.some.inj hstep)
    exact .releases (by rw [hphase]; trivial) rfl rfl id
  | logUnlocks caller =>
    simp only [hphase] at hstep
    obtain ⟨rfl, rfl⟩ := Prod.mk.inj (Option.some.inj hstep)
    exact .releases (by rw [hphase]; trivial) rfl rfl caller.return_not_waits

omit [DecidableEq Thread] in
/-- A thread has the mutex only where it may, after a step as before, where a message logged with
the mutex is below the level and the thread does not have a destroyed mutex. -/
theorem loggerStep_placed {current : Thread} {logger logger' : Logger Thread}
    {thread thread' : LoggerThread} {succeeds : Bool}
    (hplaced : thread.holds = true → thread.phase.MayHold)
    (hintact : thread.holds = true → logger.mutex.destroyed = false)
    (hbelow : ∀ caller level, thread.phase = .logTests caller level → thread.holds = true →
      level < logger.level)
    (hstep : loggerStep current logger thread succeeds = some (logger', thread'))
    (hholds : thread'.holds = true) : thread'.phase.MayHold := by
  unfold loggerStep at hstep
  cases hphase : thread.phase with
  | outside => simp [hphase] at hstep
  | initMutex | initLevel | initFails | initCloses | initDestroysMutex | destroyMutex =>
    simp only [hphase] at hstep hplaced
    obtain ⟨-, rfl⟩ := Prod.mk.inj (Option.some.inj hstep)
    exact (hplaced hholds).elim
  | initOpens | initFileno | destroyLocks | setLocks level | logLocks caller =>
    simp only [hphase] at hstep hplaced
    obtain ⟨-, rfl⟩ := Prod.mk.inj (Option.some.inj hstep)
    exact (hplaced hholds).elim
  | destroyWaits | setWaits level | logWaits caller =>
    simp only [hphase] at hstep
    rw [(Logger.acquire_moves (by rw [hphase]; trivial) id hstep).2]
    trivial
  | destroyTestsFile | logTestsFile caller =>
    simp only [hphase] at hstep
    obtain ⟨-, rfl⟩ := Prod.mk.inj (Option.some.inj hstep)
    dsimp only
    split_ifs
    · first | exact rfl | exact trivial
    · exact trivial
  | destroyCloses | logWrites caller =>
    simp only [hphase] at hstep
    obtain ⟨-, rfl⟩ := Prod.mk.inj (Option.some.inj hstep)
    exact trivial
  | setWrites level =>
    simp only [hphase] at hstep
    obtain ⟨-, rfl⟩ := Prod.mk.inj (Option.some.inj hstep)
    exact rfl
  | logTests caller level =>
    simp only [hphase] at hstep hplaced
    obtain ⟨-, rfl⟩ := Prod.mk.inj (Option.some.inj hstep)
    dsimp only at hholds ⊢
    rw [if_pos (hbelow caller level hphase hholds)]
    exact LogCaller.return_mayHold (hplaced hholds)
  | destroyUnlocks | setUnlocks | logUnlocks caller =>
    -- the mutex is not destroyed, so the unlock releases it
    simp only [hphase] at hstep
    obtain ⟨-, rfl⟩ := Prod.mk.inj (Option.some.inj hstep)
    obtain ⟨hheld, hdestroyed⟩ := Bool.and_eq_true_iff.mp hholds
    rw [hintact hheld] at hdestroyed
    cases hdestroyed

/-! ### Every run -/

@[simp] theorem LoggerState.after_logger (state : LoggerState Thread) (thread : Thread)
    (result : Logger Thread × LoggerThread) : (state.after thread result).logger = result.1 :=
  rfl

@[simp] theorem LoggerState.after_threads_self (state : LoggerState Thread) (thread : Thread)
    (result : Logger Thread × LoggerThread) :
    (state.after thread result).threads thread = result.2 :=
  Function.update_self _ _ _

theorem LoggerState.after_threads_of_ne (state : LoggerState Thread) {thread other : Thread}
    (hother : other ≠ thread) (result : Logger Thread × LoggerThread) :
    (state.after thread result).threads other = state.threads other :=
  Function.update_of_ne hother _ _

omit [DecidableEq Thread] in
/-- Every thread has the mutex only where it may; a destroyed mutex is with no thread, and no thread
waits for it; and the holder has the mutex by its own account. -/
structure LoggerInvariant (state : LoggerState Thread) : Prop where
  placed : ∀ thread, (state.threads thread).holds = true → (state.threads thread).phase.MayHold
  unused : state.logger.mutex.destroyed = true → ∀ thread,
    (state.threads thread).holds = false ∧ ¬ (state.threads thread).phase.Waits
  recorded : state.logger.mutex.Recorded fun thread ↦ (state.threads thread).holds

namespace LoggerInvariant

variable {state successor : LoggerState Thread} {thread : Thread} {logger : Logger Thread}
  {moved : LoggerThread}

omit [DecidableEq Thread] in
/-- A thread that may not have the mutex does not. -/
theorem holds_eq_false (hinv : LoggerInvariant state)
    (hphase : ¬ (state.threads thread).phase.MayHold) : (state.threads thread).holds = false :=
  eq_false_of_ne_true fun hholds ↦ hphase (hinv.placed thread hholds)

omit [DecidableEq Thread] in
/-- A thread that has the mutex has one that is not destroyed. -/
theorem intact_of_holds (hinv : LoggerInvariant state)
    (hholds : (state.threads thread).holds = true) : state.logger.mutex.destroyed = false := by
  refine eq_false_of_ne_true fun hdestroyed ↦ ?_
  rw [(hinv.unused hdestroyed thread).1] at hholds
  cases hholds

/-- The holder has the mutex by its own account after a step as before. -/
theorem recorded_after (hinv : LoggerInvariant state)
    (hmove : MutexMove thread state.logger logger (state.threads thread) moved) :
    (state.after thread (logger, moved)).logger.mutex.Recorded fun other ↦
      ((state.after thread (logger, moved)).threads other).holds := by
  intro holder hholder
  rw [LoggerState.after_logger] at hholder
  have hrecorded (hsame : state.logger.mutex.holder = some holder)
      (hkept : moved.holds = (state.threads thread).holds) :
      ((state.after thread (logger, moved)).threads holder).holds = true := by
    have hholds := hinv.recorded holder hsame
    by_cases hself : holder = thread
    · subst hself
      rw [LoggerState.after_threads_self, hkept]
      exact hholds
    · rw [LoggerState.after_threads_of_ne state hself]
      exact hholds
  cases hmove with
  | keeps hmutex hholds hwaits => exact hrecorded (by rwa [hmutex] at hholder) hholds
  | renews hphase hmutex hholds hwaits =>
    rw [hmutex] at hholder
    cases hholder
  | takes hphase hmutex hholds hwaits =>
    obtain ⟨-, hmutex⟩ := DestroyableMutex.acquire_eq_some_iff.mp hmutex
    rw [hmutex] at hholder
    obtain rfl := Option.some.inj hholder
    dsimp only
    rw [LoggerState.after_threads_self]
    exact hholds
  | releases hphase hmutex hholds hwaits =>
    rw [hmutex] at hholder
    obtain ⟨hdestroyed, hsame⟩ := DestroyableMutex.unlock_holder_eq_some hholder
    exact hrecorded hsame (by rw [hholds, hdestroyed, Bool.and_true])
  | destroys hphase hmutex hholds hwaits =>
    rw [hmutex, DestroyableMutex.destroy_holder] at hholder
    exact hrecorded hholder hholds

/-- A destroyed mutex is with no thread after a step as before, where it is destroyed only while no
thread has it or waits for it. -/
theorem unused_after (hinv : LoggerInvariant state)
    (hmove : MutexMove thread state.logger logger (state.threads thread) moved)
    (hdestroys : (state.threads thread).phase.Destroys → state.logger.mutex.users = 0 →
      ∀ other, (state.threads other).holds = false ∧ ¬ (state.threads other).phase.Waits)
    (hdestroyed : logger.mutex.destroyed = true) (other : Thread) :
    ((state.after thread (logger, moved)).threads other).holds = false ∧
      ¬ ((state.after thread (logger, moved)).threads other).phase.Waits := by
  have hbefore (hunused : ∀ other, (state.threads other).holds = false ∧
        ¬ (state.threads other).phase.Waits)
      (hholds : (state.threads thread).holds = false → moved.holds = false)
      (hwaits : ¬ moved.phase.Waits) :
      ((state.after thread (logger, moved)).threads other).holds = false ∧
        ¬ ((state.after thread (logger, moved)).threads other).phase.Waits := by
    by_cases hself : other = thread
    · subst hself
      rw [LoggerState.after_threads_self]
      exact ⟨hholds (hunused other).1, hwaits⟩
    · rw [LoggerState.after_threads_of_ne state hself]
      exact hunused other
  cases hmove with
  | keeps hmutex hholds hwaits =>
    rw [hmutex] at hdestroyed
    refine hbefore (hinv.unused hdestroyed) hholds.trans fun hwaiting ↦ ?_
    rw [hwaits hwaiting] at hdestroyed
    cases hdestroyed
  | renews hphase hmutex hholds hwaits =>
    rw [hmutex] at hdestroyed
    cases hdestroyed
  | takes hphase hmutex hholds hwaits =>
    obtain ⟨-, hmutex⟩ := DestroyableMutex.acquire_eq_some_iff.mp hmutex
    rw [hmutex] at hdestroyed
    exact absurd hphase (hinv.unused hdestroyed thread).2
  | releases hphase hmutex hholds hwaits =>
    rw [hmutex, DestroyableMutex.unlock_destroyed] at hdestroyed
    exact hbefore (hinv.unused hdestroyed) (fun hfree ↦ by rw [hholds, hfree, Bool.false_and])
      hwaits
  | destroys hphase hmutex hholds hwaits =>
    rw [hmutex, DestroyableMutex.destroy_destroyed] at hdestroyed
    rcases hdestroyed with hbeforehand | husers
    · exact hbefore (hinv.unused hbeforehand) hholds.trans hwaits
    · exact hbefore (hdestroys hphase husers) hholds.trans hwaits

/-- A call keeps the invariant if it does not begin inside a lock call. -/
theorem call (hinv : LoggerInvariant state) {phase : LoggerPhase}
    (hnext : state.call thread phase = some successor) (hphase : ¬ phase.Waits) :
    LoggerInvariant successor := by
  unfold LoggerState.call at hnext
  split_ifs at hnext with houtside
  obtain rfl := Option.some.inj hnext
  have hfree : (state.threads thread).holds = false :=
    hinv.holds_eq_false (LoggerPhase.not_mayHold (.inr houtside))
  have hmove : MutexMove thread state.logger state.logger (state.threads thread)
      { state.threads thread with phase := phase } :=
    .keeps rfl rfl fun hwaits ↦ absurd hwaits hphase
  refine ⟨fun other hholds ↦ ?_, fun hdestroyed other ↦ ?_, hinv.recorded_after hmove⟩
  · by_cases hself : other = thread
    · subst hself
      rw [LoggerState.after_threads_self] at hholds
      exact absurd hholds (by simp [hfree])
    · rw [LoggerState.after_threads_of_ne state hself] at hholds ⊢
      exact hinv.placed other hholds
  · refine hinv.unused_after hmove (fun hdestroys ↦ ?_) hdestroyed other
    rw [houtside] at hdestroys
    exact hdestroys.elim

/-- Every step in balanced use keeps the invariant. -/
theorem next {label : LoggerLabel Thread} (hinv : LoggerInvariant state)
    (hallowed : BalancedUse state label) (hnext : loggerNext state label = some successor) :
    LoggerInvariant successor := by
  cases label with
  | init thread => exact hinv.call hnext id
  | destroy thread => exact hinv.call hnext id
  | setLevel thread level =>
    simp only [loggerNext] at hnext
    split_ifs at hnext
    · exact hinv.call hnext id
    · exact hinv.call hnext id
  | log thread level => exact hinv.call hnext id
  | step thread succeeds =>
    obtain ⟨⟨logger, moved⟩, hstep, rfl⟩ := Option.map_eq_some_iff.mp hnext
    have hmove := loggerStep_moves hstep
    refine ⟨fun other hholds ↦ ?_, hinv.unused_after hmove hallowed.2, hinv.recorded_after hmove⟩
    by_cases hself : other = thread
    · subst hself
      rw [LoggerState.after_threads_self] at hholds ⊢
      exact loggerStep_placed (hinv.placed other) hinv.intact_of_holds hallowed.1 hstep hholds
    · rw [LoggerState.after_threads_of_ne state hself] at hholds ⊢
      exact hinv.placed other hholds

omit [DecidableEq Thread] in
/-- The lock is balanced. -/
theorem balanced (hinv : LoggerInvariant state) : LockBalanced state := fun _ hfree ↦
  hinv.holds_eq_false (LoggerPhase.not_mayHold hfree)

end LoggerInvariant

/-- The invariant holds in every run in balanced use. -/
theorem loggerInvariant_reachable {state : LoggerState Thread}
    (hreach : (loggerSystem Thread).ReachableUnder BalancedUse state) : LoggerInvariant state := by
  refine hreach.invariant ?_ fun _ _ _ hinv hallowed hnext ↦ hinv.next hallowed hnext
  rintro start rfl
  refine ⟨fun thread hholds ↦ ?_, fun hdestroyed ↦ ?_, fun thread hholder ↦ ?_⟩
  · cases hholds
  · cases hdestroyed
  · cases hholder

/-! ### A destroyed mutex that a thread has -/

/-- How many steps a thread that has the mutex makes at most before it requests it or is outside. -/
def LoggerPhase.distance : LoggerPhase → ℕ
  | .destroyMutex | .setUnlocks => 1
  | .destroyUnlocks => 2
  | .destroyCloses => 3
  | .logTests _ _ | .logUnlocks _ => 4
  | .destroyTestsFile | .setWrites _ | .logWrites _ => 5
  | .logTestsFile _ => 6
  | _ => 0

/-- The caller of `logger_log` that it returns to is nearer to its end. -/
theorem LogCaller.return_distance (caller : LogCaller) : caller.return.distance < 4 := by
  cases caller <;> decide

/-- The phases of a thread that may have the mutex, and the destruction that follows an unlock. -/
def LoggerPhase.Keeps (phase : LoggerPhase) : Prop :=
  phase.MayHold ∨ phase = .destroyMutex

omit [DecidableEq Thread] in
/-- A thread that has a destroyed mutex keeps it in its next step, and that brings it nearer to its
end, or to a request for the mutex. -/
theorem loggerStep_keeps (current : Thread) {logger : Logger Thread} {thread : LoggerThread}
    (hdestroyed : logger.mutex.destroyed = true) (hholds : thread.holds = true)
    (hphase : thread.phase.Keeps) :
    ∃ logger' thread', loggerStep current logger thread true = some (logger', thread') ∧
      logger'.mutex.destroyed = true ∧ thread'.holds = true ∧
      (thread'.phase.Keeps ∨ thread'.phase.Requesting ∨ thread'.phase = .outside) ∧
      thread'.phase.distance < thread.phase.distance := by
  have hunlock (next : LoggerPhase) :
      (logger.unlock thread next).1.mutex.destroyed = true ∧
        (logger.unlock thread next).2.holds = true := by
    simp [Logger.unlock, hdestroyed, hholds]
  unfold loggerStep
  cases hthread : thread.phase with
  | destroyTestsFile =>
    cases hfile : logger.logFile with
    | true => exact ⟨_, _, rfl, hdestroyed, hholds, .inl (.inl rfl), by simp [LoggerPhase.distance]⟩
    | false =>
      exact ⟨_, _, rfl, hdestroyed, hholds, .inl (.inl trivial), by simp [LoggerPhase.distance]⟩
  | destroyCloses =>
    exact ⟨_, _, rfl, hdestroyed, hholds, .inl (.inl trivial), by simp [LoggerPhase.distance]⟩
  | destroyUnlocks =>
    exact ⟨_, _, rfl, (hunlock .destroyMutex).1, (hunlock .destroyMutex).2,
      .inl (.inr rfl), by simp [LoggerPhase.distance]⟩
  | destroyMutex =>
    exact ⟨_, _, rfl, DestroyableMutex.destroy_destroyed.mpr (.inl hdestroyed), hholds,
      .inr (.inr rfl), by simp [LoggerPhase.distance]⟩
  | setWrites level =>
    exact ⟨_, _, rfl, hdestroyed, hholds, .inl (.inl rfl), by simp [LoggerPhase.distance]⟩
  | setUnlocks =>
    exact ⟨_, _, rfl, (hunlock .outside).1, (hunlock .outside).2,
      .inr (.inr rfl), by simp [LoggerPhase.distance]⟩
  | logTests caller level =>
    rw [hthread] at hphase
    have hholding : caller.holding = true := hphase.resolve_right LoggerPhase.noConfusion
    refine ⟨_, _, rfl, hdestroyed, hholds, ?_⟩
    dsimp only
    split_ifs
    · exact ⟨.inl (.inl (LogCaller.return_mayHold hholding)), caller.return_distance⟩
    · exact ⟨.inr (.inl trivial), by simp [LoggerPhase.distance]⟩
  | logTestsFile caller =>
    cases hfile : logger.logFile with
    | true =>
      exact ⟨_, _, rfl, hdestroyed, hholds, .inl (.inl trivial), by simp [LoggerPhase.distance]⟩
    | false =>
      exact ⟨_, _, rfl, hdestroyed, hholds, .inl (.inl trivial), by simp [LoggerPhase.distance]⟩
  | logWrites caller =>
    exact ⟨_, _, rfl, hdestroyed, hholds, .inl (.inl trivial), by simp [LoggerPhase.distance]⟩
  | logUnlocks caller =>
    refine ⟨_, _, rfl, (hunlock caller.return).1, (hunlock caller.return).2, ?_,
      caller.return_distance⟩
    cases caller <;>
      first | exact .inr (.inr rfl) | exact .inl (.inl trivial)
  | _ =>
    rw [hthread] at hphase
    rcases hphase with hmay | hsame
    · exact hmay.elim
    · cases hsame

/-- A thread that has a destroyed mutex can go on until it requests the mutex or returns with it. -/
theorem exists_unbalanced_of_holds {state : LoggerState Thread} (thread : Thread)
    (hdestroyed : state.logger.mutex.destroyed = true)
    (hholds : (state.threads thread).holds = true)
    (hphase : (state.threads thread).phase.Keeps ∨ (state.threads thread).phase.Requesting ∨
      (state.threads thread).phase = .outside) :
    ∃ final, (loggerSystem Thread).Continuation (fun _ _ ↦ True) state final ∧
      ¬ LockBalanced final := by
  induction hdistance : (state.threads thread).phase.distance using Nat.strongRecOn
    generalizing state with
  | ind distance ih =>
    rcases hphase with hkeeps | hended
    · obtain ⟨logger, moved, hstep, hdestroyed', hholds', hphase', hless⟩ :=
        loggerStep_keeps thread hdestroyed hholds hkeeps
      have hnext : loggerNext state (.step thread true) =
          some (state.after thread (logger, moved)) := by
        simp only [loggerNext, hstep, Option.map_some]
      have hself : (state.after thread (logger, moved)).threads thread = moved :=
        LoggerState.after_threads_self _ _ _
      obtain ⟨final, hmore, hfinal⟩ : ∃ final, (loggerSystem Thread).Continuation (fun _ _ ↦ True)
          (state.after thread (logger, moved)) final ∧ ¬ LockBalanced final :=
        ih _ (hdistance ▸ hless) hdestroyed' (by rwa [hself]) (by rwa [hself]) (by rw [hself])
      exact ⟨final, .head ⟨.step thread true, trivial, hnext⟩ hmore, hfinal⟩
    · refine ⟨state, .refl, fun hbalanced ↦ ?_⟩
      rw [hbalanced thread hended] at hholds
      cases hholds

/-- A thread that waits for a free mutex gets it. -/
theorem exists_acquire_of_waits (thread : Thread) (state : LoggerState Thread)
    (hwaits : (state.threads thread).phase.Waits) (hfree : state.logger.mutex.holder = none) :
    ∃ successor, loggerNext state (.step thread true) = some successor ∧
      successor.logger.mutex.destroyed = state.logger.mutex.destroyed ∧
      (successor.threads thread).holds = true ∧ (successor.threads thread).phase.MayHold := by
  have hacquire : state.logger.mutex.acquire thread = some _ :=
    DestroyableMutex.acquire_eq_some_iff.mpr ⟨hfree, rfl⟩
  cases hphase : (state.threads thread).phase with
  | destroyWaits | setWaits level | logWaits caller =>
    simp only [loggerNext, loggerStep, hphase, Logger.acquire, hacquire, Option.map_some]
    exact ⟨_, rfl, rfl, by rw [LoggerState.after_threads_self], by
      rw [LoggerState.after_threads_self]; trivial⟩
  | _ =>
    rw [hphase] at hwaits
    exact hwaits.elim

omit [DecidableEq Thread] in
/-- A step that destroys the mutex moves its thread and does nothing else. -/
theorem loggerStep_destroys (logger : Logger Thread) {thread : LoggerThread}
    (hphase : thread.phase.Destroys) (current : Thread) (succeeds : Bool) :
    ∃ next, loggerStep current logger thread succeeds =
      some ({ logger with mutex := logger.mutex.destroy }, { thread with phase := next }) := by
  unfold loggerStep
  cases hthread : thread.phase with
  | initFails | initDestroysMutex | destroyMutex => exact ⟨_, rfl⟩
  | _ =>
    rw [hthread] at hphase
    exact hphase.elim

/-- A thread that destroys the mutex neither has it nor waits for it. -/
theorem LoggerPhase.Destroys.not_mayHold_not_waits {phase : LoggerPhase}
    (hdestroys : phase.Destroys) : ¬ phase.MayHold ∧ ¬ phase.Waits := by
  cases phase <;> first | exact ⟨id, id⟩ | exact hdestroys.elim

/-- After a destruction while a thread has the mutex or waits for it, the run can go on to a state
in which the lock is not balanced. -/
theorem LoggerInvariant.exists_unbalanced {state successor : LoggerState Thread}
    (hinv : LoggerInvariant state) {thread : Thread} (other : Thread) {succeeds : Bool}
    (hdestroys : (state.threads thread).phase.Destroys) (husers : state.logger.mutex.users = 0)
    (hother : (state.threads other).holds = true ∨ (state.threads other).phase.Waits)
    (hnext : loggerNext state (.step thread succeeds) = some successor) :
    ∃ final, (loggerSystem Thread).Continuation (fun _ _ ↦ True) successor final ∧
      ¬ LockBalanced final := by
  obtain ⟨next, hstep⟩ := loggerStep_destroys state.logger hdestroys thread succeeds
  simp only [loggerNext, hstep, Option.map_some] at hnext
  obtain rfl := Option.some.inj hnext
  obtain ⟨hnohold, hnowait⟩ := hdestroys.not_mayHold_not_waits
  have hdestroyed : state.logger.mutex.destroy.destroyed = true :=
    DestroyableMutex.destroy_destroyed.mpr (.inr husers)
  have hof_holds (holder : Thread) (hholds : (state.threads holder).holds = true) :
      ∃ final, (loggerSystem Thread).Continuation (fun _ _ ↦ True) (state.after thread
        ({ state.logger with mutex := state.logger.mutex.destroy },
          { state.threads thread with phase := next })) final ∧ ¬ LockBalanced final := by
    have hne : holder ≠ thread := by
      rintro rfl
      exact hnohold (hinv.placed holder hholds)
    refine exists_unbalanced_of_holds holder hdestroyed ?_ ?_
    · rwa [LoggerState.after_threads_of_ne state hne]
    · rw [LoggerState.after_threads_of_ne state hne]
      exact .inl (.inl (hinv.placed holder hholds))
  rcases hother with hholds | hwaits
  · exact hof_holds other hholds
  · cases hholder : state.logger.mutex.holder with
    | some holder => exact hof_holds holder (hinv.recorded holder hholder)
    | none =>
      -- the waiting thread takes the destroyed mutex
      have hne : other ≠ thread := by
        rintro rfl
        exact hnowait hwaits
      obtain ⟨successor, hnext, hkept, hholds, hphase⟩ :=
        exists_acquire_of_waits other
          (state.after thread ({ state.logger with mutex := state.logger.mutex.destroy },
            { state.threads thread with phase := next }))
          (by rwa [LoggerState.after_threads_of_ne state hne])
          (by rwa [LoggerState.after_logger, DestroyableMutex.destroy_holder])
      obtain ⟨final, hmore, hfinal⟩ :=
        exists_unbalanced_of_holds other (hkept.trans hdestroyed) hholds (.inl (.inl hphase))
      exact ⟨final, .head ⟨.step other true, trivial, hnext⟩ hmore, hfinal⟩

end Bme680.Logging
