import Bme680.Concurrency.ThreadTally

/-!
# Sleepers that are not forgotten

Units of something are handed out under a lock, and a thread that finds none sleeps on a condition
variable until a signal. A thread that arrives may take the unit a signal announced, and a sleeper
may leave by itself, so what a sleeper can rely on is a count: while a thread sleeps, there are no
more units than threads that were awakened and have not looked yet (`Attended`).

One inequality covers every move of a thread (`Attended.move`): the units grow by no more than the
awakened threads do. A signal pays for one more unit (`Attended.signal`), and a thread that finds
nothing may go to sleep (`Attended.of_nothing`).
-/

set_option autoImplicit false
set_option relaxedAutoImplicit false

namespace Bme680.Concurrency

variable {Thread Local : Type*} [Fintype Thread]

/-- While a thread is asleep, the units available are no more than the threads awakened. -/
def Attended (asleep awakened : Local → Prop) [DecidablePred awakened] (available : ℤ)
    (locals : Thread → Local) : Prop :=
  (∃ thread, asleep (locals thread)) → available ≤ threadCount awakened locals

variable {asleep awakened : Local → Prop} [DecidablePred awakened] {available after : ℤ}
  {locals : Thread → Local}

namespace Attended

/-- Where nothing is available nobody is forgotten. -/
theorem of_nothing (hnothing : available ≤ 0) : Attended asleep awakened available locals :=
  fun _ ↦ hnothing.trans (Int.natCast_nonneg _)

/-- Where a unit is available and a thread sleeps, some thread was awakened. -/
theorem exists_awakened (hattended : Attended asleep awakened available locals) {thread : Thread}
    (hasleep : asleep (locals thread)) (hunit : 0 < available) :
    ∃ other, awakened (locals other) := by
  have hbound := hattended ⟨thread, hasleep⟩
  exact threadCount_pos_iff.mp (Int.natCast_pos.mp (hunit.trans_le hbound))

variable [DecidableEq Thread]

/-- A move of one thread that does not send it to sleep keeps the sleepers attended, if the units
grow by no more than the awakened threads do. -/
theorem move (hattended : Attended asleep awakened available locals) {thread : Thread}
    {value : Local} (hasleep : asleep value → asleep (locals thread))
    (hbalance : after + (if awakened (locals thread) then 1 else 0) ≤
      available + (if awakened value then 1 else 0)) :
    Attended asleep awakened after (Function.update locals thread value) := by
  rintro ⟨sleeper, hsleeper⟩
  have hbefore : ∃ other, asleep (locals other) := by
    by_cases hsame : sleeper = thread
    · subst sleeper
      rw [Function.update_self] at hsleeper
      exact ⟨thread, hasleep hsleeper⟩
    · rw [Function.update_of_ne hsame] at hsleeper
      exact ⟨sleeper, hsleeper⟩
  have hbound := hattended hbefore
  have hcount := threadCount_update_add awakened locals thread value
  split_ifs at hcount hbalance <;> omega

/-- A signal that awakens a sleeper, or finds none, pays for one more unit. -/
theorem signal [DecidablePred asleep] (hattended : Attended asleep awakened available locals)
    {awaken : Local → Local} {woken : Option Thread} {successors : Thread → Local}
    (hsignal : signal asleep awaken locals woken = some successors)
    (hawake : ∀ value, asleep value → ¬ awakened value ∧ awakened (awaken value) ∧
      ¬ asleep (awaken value))
    (hgrowth : after ≤ available + 1) : Attended asleep awakened after successors := by
  rcases signal_cases hsignal with ⟨hnobody, rfl⟩ | ⟨sleeper, hasleep, rfl⟩
  · rintro ⟨thread, hthread⟩
    exact absurd hthread (hnobody thread)
  · obtain ⟨hnot, hawakened, hup⟩ := hawake _ hasleep
    refine hattended.move (fun hstill ↦ absurd hstill hup) ?_
    rw [if_neg hnot, if_pos hawakened]
    simpa only [add_zero] using hgrowth

end Attended

end Bme680.Concurrency
