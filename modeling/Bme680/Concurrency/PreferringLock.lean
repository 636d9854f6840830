import Bme680.Concurrency.TransitionSystem
import Mathlib.Data.Set.Insert
import Mathlib.Logic.Function.Basic

/-!
# A lock for readers or one writer that prefers writers

The lock as its users see it: how many times each thread holds it for reading and for writing, and
which threads wait to write. It is given to a reader while nobody writes and nobody waits to write,
and to a writer while nobody holds it. Whoever waits to write may stop waiting, and may be overtaken
by another writer.

A writer excludes every other holder (`Exclusive`), and while a thread waits to write no reader is
let in, so that the holds for reading only go down (`reads_le_of_awaiting`).
-/

set_option autoImplicit false
set_option relaxedAutoImplicit false

namespace Bme680.Concurrency

/-- The holds of each thread for reading and for writing, and the threads that wait to write. -/
structure PreferringLock (Thread : Type*) where
  reads : Thread → ℕ
  writes : Thread → ℕ
  awaiting : Set Thread

namespace PreferringLock

/-- What happens to the lock: a thread starts to wait for writing or stops, and the lock is given to
a thread or back. -/
inductive Label (Thread : Type*)
  | await (thread : Thread)
  | withdraw (thread : Thread)
  | read (thread : Thread)
  | write (thread : Thread)
  | releaseRead (thread : Thread)
  | releaseWrite (thread : Thread)

variable {Thread : Type*} [DecidableEq Thread]

open Classical in
/-- The lock after a step, where the step is possible. -/
noncomputable def next (lock : PreferringLock Thread) :
    Label Thread → Option (PreferringLock Thread)
  | .await thread => some { lock with awaiting := insert thread lock.awaiting }
  | .withdraw thread => some { lock with awaiting := lock.awaiting \ {thread} }
  | .read thread =>
    if (∀ other, lock.writes other = 0) ∧ lock.awaiting = ∅ then
      some { lock with reads := Function.update lock.reads thread (lock.reads thread + 1) }
    else none
  | .write thread =>
    if ∀ other, lock.reads other = 0 ∧ lock.writes other = 0 then
      some { lock with
        writes := Function.update lock.writes thread 1
        awaiting := lock.awaiting \ {thread} }
    else none
  | .releaseRead thread =>
    if 0 < lock.reads thread then
      some { lock with reads := Function.update lock.reads thread (lock.reads thread - 1) }
    else none
  | .releaseWrite thread =>
    if 0 < lock.writes thread then
      some { lock with writes := Function.update lock.writes thread (lock.writes thread - 1) }
    else none

/-- The lock with any threads using it, free at first. -/
noncomputable def system (Thread : Type*) [DecidableEq Thread] :
    TransitionSystem (PreferringLock Thread) (Label Thread) where
  initial lock := lock = { reads := fun _ ↦ 0, writes := fun _ ↦ 0, awaiting := ∅ }
  next := next

/-! ### Exclusion -/

/-- A thread that holds the lock for writing holds it once and nobody else holds it. -/
structure Exclusive (lock : PreferringLock Thread) : Prop where
  once : ∀ thread, lock.writes thread ≤ 1
  readers : ∀ thread, 0 < lock.writes thread → ∀ other, lock.reads other = 0
  writers : ∀ thread, 0 < lock.writes thread → ∀ other, 0 < lock.writes other → other = thread

variable {lock successor : PreferringLock Thread} {label : Label Thread}

omit [DecidableEq Thread] in
/-- A lock with fewer holds excludes as well. -/
theorem Exclusive.of_le (hexclusive : Exclusive lock)
    (hreads : ∀ thread, successor.reads thread ≤ lock.reads thread)
    (hwrites : ∀ thread, successor.writes thread ≤ lock.writes thread) :
    Exclusive successor := by
  have hbefore : ∀ thread, 0 < successor.writes thread → 0 < lock.writes thread :=
    fun thread hheld ↦ hheld.trans_le (hwrites thread)
  refine ⟨fun thread ↦ (hwrites thread).trans (hexclusive.once thread), ?_, ?_⟩
  · intro thread hheld other
    have hnone := hexclusive.readers thread (hbefore thread hheld) other
    have hless := hreads other
    omega
  · intro thread hheld other hother
    exact hexclusive.writers thread (hbefore thread hheld) other (hbefore other hother)

/-- Giving back a hold leaves at most as many. -/
theorem update_pred_le (holds : Thread → ℕ) (thread other : Thread) :
    Function.update holds thread (holds thread - 1) other ≤ holds other := by
  by_cases hsame : other = thread
  · subst other
    rw [Function.update_self]
    exact Nat.sub_le _ _
  · rw [Function.update_of_ne hsame]

/-- A step keeps the exclusion. -/
theorem Exclusive.step (hexclusive : Exclusive lock) (hnext : next lock label = some successor) :
    Exclusive successor := by
  cases label with
  | await thread =>
    obtain rfl := Option.some.inj hnext
    exact ⟨hexclusive.once, hexclusive.readers, hexclusive.writers⟩
  | withdraw thread =>
    obtain rfl := Option.some.inj hnext
    exact ⟨hexclusive.once, hexclusive.readers, hexclusive.writers⟩
  | read thread =>
    simp only [next] at hnext
    split_ifs at hnext with hfree
    obtain rfl := Option.some.inj hnext
    refine ⟨hexclusive.once, fun holder hheld ↦ ?_, hexclusive.writers⟩
    exact absurd (hfree.1 holder) hheld.ne'
  | write thread =>
    simp only [next] at hnext
    split_ifs at hnext with hfree
    obtain rfl := Option.some.inj hnext
    have honly : ∀ other, 0 < Function.update lock.writes thread 1 other → other = thread := by
      intro other hheld
      by_contra hother
      rw [Function.update_of_ne hother, (hfree other).2] at hheld
      exact absurd hheld (lt_irrefl 0)
    refine ⟨fun other ↦ ?_, fun _ _ other ↦ (hfree other).1, fun holder hheld other hother ↦ ?_⟩
    · show Function.update lock.writes thread 1 other ≤ 1
      by_cases hother : other = thread
      · subst other
        rw [Function.update_self]
      · rw [Function.update_of_ne hother, (hfree other).2]
        exact Nat.zero_le 1
    · rw [honly holder hheld, honly other hother]
  | releaseRead thread =>
    simp only [next] at hnext
    split_ifs at hnext
    obtain rfl := Option.some.inj hnext
    exact hexclusive.of_le (fun other ↦ update_pred_le _ _ _) fun _ ↦ le_rfl
  | releaseWrite thread =>
    simp only [next] at hnext
    split_ifs at hnext
    obtain rfl := Option.some.inj hnext
    exact hexclusive.of_le (fun _ ↦ le_rfl) fun other ↦ update_pred_le _ _ _

/-- In every reachable state a writer excludes every other holder. -/
theorem exclusive_of_reachable (hreach : (system Thread).Reachable lock) : Exclusive lock := by
  refine hreach.invariant (fun start hstart ↦ ?_) fun _ _ _ hexclusive _ hnext ↦
    hexclusive.step hnext
  rw [show start = _ from hstart]
  exact ⟨fun _ ↦ Nat.zero_le 1, fun _ hheld ↦ absurd hheld (lt_irrefl 0),
    fun _ hheld ↦ absurd hheld (lt_irrefl 0)⟩

/-! ### Preference -/

/-- While a thread waits to write, a step gives the lock to no reader. -/
theorem next_reads_le (hawaiting : lock.awaiting.Nonempty)
    (hnext : next lock label = some successor) (thread : Thread) :
    successor.reads thread ≤ lock.reads thread := by
  cases label with
  | await other =>
    obtain rfl := Option.some.inj hnext
    exact le_rfl
  | withdraw other =>
    obtain rfl := Option.some.inj hnext
    exact le_rfl
  | read other =>
    simp only [next] at hnext
    split_ifs at hnext with hfree
    exact absurd hfree.2 hawaiting.ne_empty
  | write other =>
    simp only [next] at hnext
    split_ifs at hnext
    obtain rfl := Option.some.inj hnext
    exact le_rfl
  | releaseRead other =>
    simp only [next] at hnext
    split_ifs at hnext
    obtain rfl := Option.some.inj hnext
    exact update_pred_le _ _ _
  | releaseWrite other =>
    simp only [next] at hnext
    split_ifs at hnext
    obtain rfl := Option.some.inj hnext
    exact le_rfl

/-- As long as a thread waits to write, the holds for reading only go down. -/
theorem reads_le_of_awaiting {waiter : Thread}
    (hmore : (system Thread).Continuation (fun before _ ↦ waiter ∈ before.awaiting) lock
      successor) (thread : Thread) : successor.reads thread ≤ lock.reads thread := by
  induction hmore with
  | refl => exact le_rfl
  | tail _ hlast ih =>
    obtain ⟨label, hwaits, hnext⟩ := hlast
    exact (next_reads_le ⟨waiter, hwaits⟩ hnext thread).trans ih

end PreferringLock

end Bme680.Concurrency
