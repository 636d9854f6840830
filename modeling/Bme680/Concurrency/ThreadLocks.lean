import Mathlib.Logic.Function.Basic
import Mathlib.Tactic.Common

/-!
# The locks of one thread

A thread takes and releases locks that are not recursive, and may fault on the way. It returns with
the locks it holds then, unless it requests a lock it already holds or faults.

What a thread does with its locks is composed by `runThread_append`. A body that leaves the locks
as they are may be put between taking and releasing a lock (`runThread_section`), but not where it
takes that lock itself (`runThread_nested`).
-/

set_option autoImplicit false
set_option relaxedAutoImplicit false

namespace Bme680.Concurrency

/-- What a thread does with its locks. -/
inductive LockAction (Lock : Type*)
  | lock (lock : Lock)
  | unlock (lock : Lock)
  | fault
  deriving DecidableEq, Repr

/-- How a thread ends: it returned with the locks it holds, it waits for a lock it holds itself, or
it faulted. -/
inductive ThreadEnd (Lock : Type*)
  | returned (held : Lock → Bool)
  | deadlocked (lock : Lock)
  | faulted

variable {Lock : Type*} [DecidableEq Lock]

/-- The end of a thread that starts with some locks. -/
def runThread (held : Lock → Bool) : List (LockAction Lock) → ThreadEnd Lock
  | [] => .returned held
  | .lock lock :: actions =>
    if held lock then .deadlocked lock else runThread (Function.update held lock true) actions
  | .unlock lock :: actions => runThread (Function.update held lock false) actions
  | .fault :: _ => .faulted

/-- A thread that returned goes on with the locks it holds. -/
def ThreadEnd.andThen (threadEnd : ThreadEnd Lock) (actions : List (LockAction Lock)) :
    ThreadEnd Lock :=
  match threadEnd with
  | .returned held => runThread held actions
  | .deadlocked lock => .deadlocked lock
  | .faulted => .faulted

variable {held : Lock → Bool} {lock : Lock}

theorem runThread_append (held : Lock → Bool) (first second : List (LockAction Lock)) :
    runThread held (first ++ second) = (runThread held first).andThen second := by
  induction first generalizing held with
  | nil => rfl
  | cons action first ih =>
    cases action with
    | lock lock =>
      unfold runThread
      rw [List.cons_append]
      split_ifs with hheld
      · simp [hheld, ThreadEnd.andThen]
      · simpa [runThread, hheld] using ih _
    | unlock lock => exact ih _
    | fault => rfl

/-- A free lock is taken. -/
theorem runThread_lock (hfree : held lock = false) (actions : List (LockAction Lock)) :
    runThread held (.lock lock :: actions) =
      runThread (Function.update held lock true) actions := by
  rw [runThread, hfree, if_neg Bool.false_ne_true]

/-- Taking a free lock, doing what leaves the locks as they are, and releasing it leaves the locks
as they were. -/
theorem runThread_section (hfree : held lock = false) {body : List (LockAction Lock)}
    (hbody : runThread (Function.update held lock true) body =
      .returned (Function.update held lock true)) :
    runThread held (.lock lock :: (body ++ [.unlock lock])) = .returned held := by
  have hrestored : Function.update (Function.update held lock true) lock false = held := by
    rw [Function.update_idem, ← hfree, Function.update_eq_self]
  rw [runThread_lock hfree, runThread_append, hbody]
  exact congrArg ThreadEnd.returned hrestored

/-- A thread that takes a free lock and takes it again waits for itself, whatever follows. -/
theorem runThread_nested (hfree : held lock = false) (actions : List (LockAction Lock)) :
    runThread held (.lock lock :: .lock lock :: actions) = .deadlocked lock := by
  rw [runThread_lock hfree, runThread, Function.update_self, if_pos rfl]

end Bme680.Concurrency
