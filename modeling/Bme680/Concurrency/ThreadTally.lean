import Mathlib.Algebra.BigOperators.Group.Finset.Basic
import Mathlib.Algebra.BigOperators.Group.Finset.Piecewise
import Mathlib.Algebra.Order.BigOperators.Group.Finset
import Mathlib.Algebra.BigOperators.Ring.Finset
import Mathlib.Data.Fintype.Basic
import Mathlib.Data.Fintype.Card

/-!
# Tallies over the threads of a system, and the sleepers of a condition variable

A shared counter of a concurrent program usually counts threads: those that hold, those that wait,
those that have arrived. `tally` sums a weight of the thread-local states, and `threadCount` is the
number of threads whose local state has a property. `tally_update_add` is the one fact the
counting arguments need: when one thread moves, the tally changes by the difference of its weights.

A condition variable is the set of the threads asleep on it, read off their local states.
`signal` wakes one sleeper, chosen by the label of the step, and does nothing where nobody sleeps;
`broadcast` wakes them all. Both keep every tally that weighs a sleeper and an awakened thread
alike (`tally_signal`, `tally_broadcast`).
-/

set_option autoImplicit false
set_option relaxedAutoImplicit false

namespace Bme680.Concurrency

variable {Thread Local : Type*} [Fintype Thread]

/-- The sum over all threads of a weight of their local states. -/
def tally (weight : Local → ℕ) (locals : Thread → Local) : ℕ :=
  ∑ thread, weight (locals thread)

/-- The number of threads whose local state has a property. -/
def threadCount (property : Local → Prop) [DecidablePred property] (locals : Thread → Local) :
    ℕ :=
  (Finset.univ.filter fun thread ↦ property (locals thread)).card

/-- The number of threads with a property is the tally of its indicator. -/
theorem threadCount_eq_tally (property : Local → Prop) [DecidablePred property]
    (locals : Thread → Local) :
    threadCount property locals = tally (fun value ↦ if property value then 1 else 0) locals := by
  rw [threadCount, tally, Finset.card_filter]

/-- The weight of one thread is at most the tally. -/
theorem le_tally (weight : Local → ℕ) (locals : Thread → Local) (thread : Thread) :
    weight (locals thread) ≤ tally weight locals :=
  Finset.single_le_sum (f := fun other ↦ weight (locals other)) (fun _ _ ↦ Nat.zero_le _)
    (Finset.mem_univ thread)

/-- The weights of two threads together are at most the tally. -/
theorem add_le_tally (weight : Local → ℕ) (locals : Thread → Local) {first second : Thread}
    (hne : first ≠ second) :
    weight (locals first) + weight (locals second) ≤ tally weight locals :=
  Finset.add_le_sum (f := fun other ↦ weight (locals other)) (fun _ _ ↦ Nat.zero_le _)
    (Finset.mem_univ first) (Finset.mem_univ second) hne

/-- A tally vanishes when every thread weighs nothing. -/
theorem tally_eq_zero {weight : Local → ℕ} {locals : Thread → Local}
    (hzero : ∀ thread, weight (locals thread) = 0) : tally weight locals = 0 :=
  Finset.sum_eq_zero fun thread _ ↦ hzero thread

/-- Two assignments of local states that weigh alike in every thread have the same tally. -/
theorem tally_congr {weight : Local → ℕ} {first second : Thread → Local}
    (hweight : ∀ thread, weight (first thread) = weight (second thread)) :
    tally weight first = tally weight second :=
  Finset.sum_congr rfl fun thread _ ↦ hweight thread

/-- A thread with the property makes the count positive, and conversely. -/
theorem threadCount_pos_iff {property : Local → Prop} [DecidablePred property]
    {locals : Thread → Local} :
    0 < threadCount property locals ↔ ∃ thread, property (locals thread) := by
  simp [threadCount, Finset.card_pos, Finset.Nonempty]

/-- No thread has the property exactly when the count is zero. -/
theorem threadCount_eq_zero_iff {property : Local → Prop} [DecidablePred property]
    {locals : Thread → Local} :
    threadCount property locals = 0 ↔ ∀ thread, ¬ property (locals thread) := by
  simp [threadCount, Finset.card_eq_zero, Finset.filter_eq_empty_iff]

/-- A thread without the property keeps the count below the number of threads. -/
theorem threadCount_lt_card {property : Local → Prop} [DecidablePred property]
    {locals : Thread → Local} {thread : Thread} (hnot : ¬ property (locals thread)) :
    threadCount property locals < Fintype.card Thread := by
  refine Finset.card_lt_univ_of_notMem (x := thread) ?_
  simp [hnot]

/-- Where the weights are at most one, the tally counts the threads of positive weight. -/
theorem tally_eq_threadCount {weight : Local → ℕ} {locals : Thread → Local}
    (hone : ∀ thread, weight (locals thread) ≤ 1) :
    tally weight locals = threadCount (fun value ↦ 0 < weight value) locals := by
  rw [threadCount_eq_tally]
  refine Finset.sum_congr rfl fun thread _ ↦ ?_
  have hbound := hone thread
  change weight (locals thread) = if 0 < weight (locals thread) then 1 else 0
  split_ifs <;> omega

section Update

variable [DecidableEq Thread]

/-- When one thread moves, the tally changes by the difference of its weights. -/
theorem tally_update_add (weight : Local → ℕ) (locals : Thread → Local) (thread : Thread)
    (value : Local) :
    tally weight (Function.update locals thread value) + weight (locals thread) =
      tally weight locals + weight value := by
  have hupdate : (fun other ↦ weight (Function.update locals thread value other)) =
      Function.update (fun other ↦ weight (locals other)) thread (weight value) := by
    funext other
    by_cases hother : other = thread
    · subst other
      simp
    · simp [hother]
  have hsplit := Finset.add_sum_erase Finset.univ (fun other ↦ weight (locals other))
    (Finset.mem_univ thread)
  unfold tally
  rw [hupdate, Finset.sum_update_of_mem (Finset.mem_univ thread),
    Finset.sdiff_singleton_eq_erase]
  omega

/-- When one thread moves, the count changes by the difference of its indicators. -/
theorem threadCount_update_add (property : Local → Prop) [DecidablePred property]
    (locals : Thread → Local) (thread : Thread) (value : Local) :
    threadCount property (Function.update locals thread value) +
        (if property (locals thread) then 1 else 0) =
      threadCount property locals + (if property value then 1 else 0) := by
  rw [threadCount_eq_tally, threadCount_eq_tally]
  exact tally_update_add (fun value ↦ if property value then 1 else 0) locals thread value

/-- Waking one sleeper of a condition variable: the sleeper the label names, or nobody where
nobody sleeps. -/
def signal (asleep : Local → Prop) [DecidablePred asleep] (awaken : Local → Local)
    (locals : Thread → Local) : Option Thread → Option (Thread → Local)
  | none => if ∀ thread, ¬ asleep (locals thread) then some locals else none
  | some thread =>
    if asleep (locals thread) then
      some (Function.update locals thread (awaken (locals thread)))
    else none

omit [DecidableEq Thread] [Fintype Thread] in
/-- Waking every sleeper of a condition variable. -/
def broadcast (asleep : Local → Prop) [DecidablePred asleep] (awaken : Local → Local)
    (locals : Thread → Local) (thread : Thread) : Local :=
  if asleep (locals thread) then awaken (locals thread) else locals thread

variable {asleep : Local → Prop} [DecidablePred asleep] {awaken : Local → Local}
  {locals successors : Thread → Local} {woken : Option Thread}

/-- A signal either finds nobody asleep and changes nothing, or awakens one sleeper. -/
theorem signal_cases (hsignal : signal asleep awaken locals woken = some successors) :
    ((∀ thread, ¬ asleep (locals thread)) ∧ successors = locals) ∨
      ∃ thread, asleep (locals thread) ∧
        successors = Function.update locals thread (awaken (locals thread)) := by
  cases woken with
  | none =>
    simp only [signal] at hsignal
    split_ifs at hsignal with hnobody
    exact Or.inl ⟨hnobody, (Option.some.inj hsignal).symm⟩
  | some thread =>
    simp only [signal] at hsignal
    split_ifs at hsignal with hasleep
    exact Or.inr ⟨thread, hasleep, (Option.some.inj hsignal).symm⟩

/-- Every local state after a signal is the one before it or an awakened sleeper. -/
theorem signal_apply (hsignal : signal asleep awaken locals woken = some successors)
    (thread : Thread) :
    successors thread = locals thread ∨
      (asleep (locals thread) ∧ successors thread = awaken (locals thread)) := by
  rcases signal_cases hsignal with ⟨_, rfl⟩ | ⟨sleeper, hasleep, rfl⟩
  · exact Or.inl rfl
  · by_cases hsame : thread = sleeper
    · subst thread
      exact Or.inr ⟨hasleep, Function.update_self _ _ _⟩
    · exact Or.inl (Function.update_of_ne hsame _ _)

/-- A signal keeps a tally that weighs a sleeper and an awakened thread alike. -/
theorem tally_signal (weight : Local → ℕ)
    (hweight : ∀ value, asleep value → weight (awaken value) = weight value)
    (hsignal : signal asleep awaken locals woken = some successors) :
    tally weight successors = tally weight locals := by
  refine tally_congr fun thread ↦ ?_
  rcases signal_apply hsignal thread with hsame | ⟨hasleep, hawake⟩
  · rw [hsame]
  · rw [hawake, hweight _ hasleep]

/-- A signal keeps a count that counts a sleeper and an awakened thread alike. -/
theorem threadCount_signal (property : Local → Prop) [DecidablePred property]
    (hproperty : ∀ value, asleep value → (property (awaken value) ↔ property value))
    (hsignal : signal asleep awaken locals woken = some successors) :
    threadCount property successors = threadCount property locals := by
  rw [threadCount_eq_tally, threadCount_eq_tally]
  refine tally_signal _ (fun value hasleep ↦ ?_) hsignal
  simp only [hproperty value hasleep]

omit [DecidableEq Thread] [Fintype Thread] in
/-- Every local state after a broadcast is the one before it, of a thread not asleep, or an
awakened sleeper. -/
theorem broadcast_apply (asleep : Local → Prop) [DecidablePred asleep] (awaken : Local → Local)
    (locals : Thread → Local) (thread : Thread) :
    (¬ asleep (locals thread) ∧ broadcast asleep awaken locals thread = locals thread) ∨
      (asleep (locals thread) ∧
        broadcast asleep awaken locals thread = awaken (locals thread)) := by
  by_cases hasleep : asleep (locals thread)
  · exact Or.inr ⟨hasleep, if_pos hasleep⟩
  · exact Or.inl ⟨hasleep, if_neg hasleep⟩

omit [DecidableEq Thread] [Fintype Thread] in
/-- After a broadcast nobody is asleep. -/
theorem not_asleep_broadcast (hawaken : ∀ value, ¬ asleep (awaken value))
    (locals : Thread → Local) (thread : Thread) :
    ¬ asleep (broadcast asleep awaken locals thread) := by
  rcases broadcast_apply asleep awaken locals thread with ⟨hnot, hsame⟩ | ⟨_, hawake⟩
  · rw [hsame]
    exact hnot
  · rw [hawake]
    exact hawaken _

omit [DecidableEq Thread] in
/-- A broadcast keeps a tally that weighs a sleeper and an awakened thread alike. -/
theorem tally_broadcast (weight : Local → ℕ)
    (hweight : ∀ value, asleep value → weight (awaken value) = weight value) :
    tally weight (broadcast asleep awaken locals) = tally weight locals := by
  refine tally_congr fun thread ↦ ?_
  rcases broadcast_apply asleep awaken locals thread with ⟨_, hsame⟩ | ⟨hasleep, hawake⟩
  · rw [hsame]
  · rw [hawake, hweight _ hasleep]

omit [DecidableEq Thread] in
/-- A broadcast keeps a count that counts a sleeper and an awakened thread alike. -/
theorem threadCount_broadcast (property : Local → Prop) [DecidablePred property]
    (hproperty : ∀ value, asleep value → (property (awaken value) ↔ property value)) :
    threadCount property (broadcast asleep awaken locals) = threadCount property locals := by
  rw [threadCount_eq_tally, threadCount_eq_tally]
  refine tally_broadcast _ fun value hasleep ↦ ?_
  simp only [hproperty value hasleep]

end Update

end Bme680.Concurrency
