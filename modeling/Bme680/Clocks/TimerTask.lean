import Bme680.Arithmetic.ExactWords
import Bme680.Arithmetic.Timespecs
import Bme680.Concurrency.TransitionSystem
import Mathlib.Data.List.Chain

/-!
# The distance of timer callbacks

`timer_task` reads the monotonic clock, adds the interval to the reading, runs the callback, and
sleeps until the sum. The interval is a `long` number of milliseconds, which `timer_init` does not
check: the addition multiplies it into nanoseconds in one `long`, whose greatest value depends on
the machine, and carries full seconds out of a sum that it takes not to be negative. What
`clock_nanosleep` returns is ignored.

The system is one timer with the clock beside it: time passes in any step, the sleep ends when its
deadline has come, at once where the deadline is not normalised, and at any time by a signal. It
records the deadlines passed to `clock_nanosleep`, each with the reading it was computed from, and
the starts of the callbacks.

`timer_exact` says when the deadlines are right and the callbacks keep their distance: the sum has
to be one of the machine's and not negative, and the delay of a callback behind the reading before
it may not shrink by more than the reading came late. So a delay that stays the same keeps the
distance, and a signal that ends a sleep early has to be made up for by the delay after it.
-/

set_option autoImplicit false
set_option relaxedAutoImplicit false

namespace Bme680.Clocks

open Arithmetic Concurrency

/-! ### The deadline -/

/-- The widths of a `long`. -/
inductive LongWidth
  | bits32
  | bits64
  deriving DecidableEq, Repr

/-- The greatest `long` of a width. -/
def LongWidth.greatest : LongWidth → ℤ
  | .bits32 => 2147483647
  | .bits64 => 9223372036854775807

/-- The range of a `long`. -/
def LongWidth.Fits (width : LongWidth) (value : ℤ) : Prop :=
  -width.greatest - 1 ≤ value ∧ value ≤ width.greatest

instance (width : LongWidth) : DecidablePred width.Fits :=
  fun value ↦ inferInstanceAs (Decidable (-width.greatest - 1 ≤ value ∧ value ≤ width.greatest))

/-- A `long`. -/
structure Long (width : LongWidth) where
  value : ℤ
  fits : width.Fits value

/-- The result of an operation on `long`s; none where it overflows. -/
def LongWidth.checked (width : LongWidth) (value : ℤ) : Option ℤ :=
  if width.Fits value then some value else none

/-- The deadline `timer_task` computes from a reading of the clock; none where an operation
overflows. -/
def timerDeadline {width : LongWidth} (intervalMs : Long width) (reading : ClockReading) :
    Option Timespec := do
  let added ← width.checked (intervalMs.value * 1000000)
  let nsec ← width.checked (reading.tvNsec + added)
  if nsec ≥ 1000000000 then
    let sec ← width.checked (reading.tvSec + nsec.tdiv 1000000000)
    return { tvSec := sec, tvNsec := nsec.tmod 1000000000 }
  else return { tvSec := reading.tvSec, tvNsec := nsec }

/-- A deadline is normalised, and the reading with the interval added. -/
def DeadlineRight {width : LongWidth} (intervalMs : Long width) (reading : ClockReading)
    (deadline : Timespec) : Prop :=
  deadline.Normalised ∧
    deadline.nanoseconds = reading.nanoseconds + intervalMs.value * 1000000

/-- The nanoseconds of a reading with the interval added are not negative and a `long`, as are the
seconds where some are carried. -/
structure DeadlineFits {width : LongWidth} (intervalMs : Long width) (reading : ClockReading) :
    Prop where
  nonneg : 0 ≤ reading.tvNsec + intervalMs.value * 1000000
  fits : reading.tvNsec + intervalMs.value * 1000000 ≤ width.greatest
  carried : 1000000000 ≤ reading.tvNsec + intervalMs.value * 1000000 →
    reading.tvSec + (reading.tvNsec + intervalMs.value * 1000000) / 1000000000 ≤ width.greatest

/-- Every `long` has room for the nanoseconds of two seconds. -/
theorem LongWidth.le_greatest (width : LongWidth) : 2147483647 ≤ width.greatest := by
  cases width <;> decide

theorem LongWidth.checked_eq_some {width : LongWidth} {value result : ℤ} :
    width.checked value = some result ↔ width.Fits value ∧ result = value := by
  unfold checked
  split_ifs with hfits
  · simp [hfits, eq_comm]
  · simp [hfits]

variable {width : LongWidth} {intervalMs : Long width} {reading : ClockReading}

/-- Where the computation gives a deadline, it has carried full seconds out of a sum that is a
`long`, or there were none. -/
theorem timerDeadline_eq_some {deadline : Timespec}
    (hdeadline : timerDeadline intervalMs reading = some deadline) :
    reading.tvNsec + intervalMs.value * 1000000 ≤ width.greatest ∧
      (1000000000 ≤ reading.tvNsec + intervalMs.value * 1000000 ∧
          reading.tvSec + (reading.tvNsec + intervalMs.value * 1000000) / 1000000000 ≤
            width.greatest ∨
        reading.tvNsec + intervalMs.value * 1000000 < 1000000000 ∧
          deadline.tvNsec = reading.tvNsec + intervalMs.value * 1000000) := by
  obtain ⟨added, hadded, hrest⟩ := Option.bind_eq_some_iff.mp hdeadline
  obtain ⟨-, rfl⟩ := LongWidth.checked_eq_some.mp hadded
  obtain ⟨nsec, hnsec, hrest⟩ := Option.bind_eq_some_iff.mp hrest
  obtain ⟨hfits, rfl⟩ := LongWidth.checked_eq_some.mp hnsec
  refine ⟨hfits.2, ?_⟩
  split_ifs at hrest with hcarry
  · obtain ⟨sec, hsec, -⟩ := Option.bind_eq_some_iff.mp hrest
    obtain ⟨hsecFits, rfl⟩ := LongWidth.checked_eq_some.mp hsec
    have hdiv := hsecFits.2
    rw [Int.tdiv_eq_ediv_of_nonneg (by omega)] at hdiv
    exact .inl ⟨hcarry, hdiv⟩
  · rw [← Option.some.inj hrest]
    exact .inr ⟨by omega, rfl⟩

/-- A sum that fits gives the deadline with its full seconds carried. -/
theorem timerDeadline_of_fits (hfits : DeadlineFits intervalMs reading) :
    timerDeadline intervalMs reading = some
      { tvSec := reading.tvSec + (reading.tvNsec + intervalMs.value * 1000000) / 1000000000
        tvNsec := (reading.tvNsec + intervalMs.value * 1000000) % 1000000000 } := by
  obtain ⟨hnonneg, hgreatest, hcarried⟩ := hfits
  obtain ⟨hnsecLow, hnsecHigh⟩ := reading.normalised
  have hsecLow := reading.nonneg
  have hroom := width.le_greatest
  have hadded : width.checked (intervalMs.value * 1000000) =
      some (intervalMs.value * 1000000) :=
    LongWidth.checked_eq_some.mpr ⟨⟨by omega, by omega⟩, rfl⟩
  have hnsec : width.checked (reading.tvNsec + intervalMs.value * 1000000) =
      some (reading.tvNsec + intervalMs.value * 1000000) :=
    LongWidth.checked_eq_some.mpr ⟨⟨by omega, hgreatest⟩, rfl⟩
  simp only [timerDeadline, hadded, hnsec, Option.bind_eq_bind, Option.bind_some]
  split_ifs with hcarry
  · have hsec : width.checked
        (reading.tvSec + (reading.tvNsec + intervalMs.value * 1000000) / 1000000000) =
          some (reading.tvSec + (reading.tvNsec + intervalMs.value * 1000000) / 1000000000) :=
      LongWidth.checked_eq_some.mpr ⟨⟨by omega, hcarried hcarry⟩, rfl⟩
    rw [Int.tdiv_eq_ediv_of_nonneg hnonneg, Int.tmod_eq_emod_of_nonneg hnonneg, hsec]
    rfl
  · have hquotient : (reading.tvNsec + intervalMs.value * 1000000) / 1000000000 = 0 :=
      Int.ediv_eq_zero_of_lt hnonneg (by omega)
    have hremainder : (reading.tvNsec + intervalMs.value * 1000000) % 1000000000 =
        reading.tvNsec + intervalMs.value * 1000000 :=
      Int.emod_eq_of_lt hnonneg (by omega)
    rw [hquotient, hremainder, add_zero]
    rfl

/-- The computation gives a right deadline exactly where its sum fits. -/
theorem timerDeadline_right_iff :
    (∃ deadline, timerDeadline intervalMs reading = some deadline ∧
        DeadlineRight intervalMs reading deadline) ↔ DeadlineFits intervalMs reading := by
  constructor
  · rintro ⟨deadline, hdeadline, ⟨hlow, hhigh⟩, -⟩
    obtain ⟨hgreatest, ⟨hcarry, hsec⟩ | ⟨hbelow, hnsec⟩⟩ := timerDeadline_eq_some hdeadline
    · exact ⟨by omega, hgreatest, fun _ ↦ hsec⟩
    · exact ⟨by omega, hgreatest, fun hcarry ↦ absurd hcarry (by omega)⟩
  · intro hfits
    refine ⟨_, timerDeadline_of_fits hfits, ⟨?_, ?_⟩, ?_⟩
    · exact Int.emod_nonneg _ (by decide)
    · exact Int.emod_lt_of_pos _ (by decide)
    · simp only [Timespec.nanoseconds]
      omega

/-! ### The timer -/

/-- Where `timer_task` is: at the test of its loop, about to read the clock, about to start the
callback, in it, asleep, ended, or past an overflow. From the reading of the clock on it has the
reading and the deadline. -/
inductive TimerPhase
  | tests
  | readsClock
  | starts (reading : ClockReading) (deadline : Timespec)
  | runs (reading : ClockReading) (deadline : Timespec)
  | sleeps (reading : ClockReading) (deadline : Timespec)
  | ended
  | undefined

/-- Why `clock_nanosleep` returns: the deadline has come, it is not normalised (`EINVAL`), or a
signal has arrived (`EINTR`). -/
inductive SleepEnd
  | due
  | invalid
  | interrupted
  deriving DecidableEq, Repr

/-- What the clock shows, where the timer is, the deadlines passed to `clock_nanosleep` with the
readings before them, the starts of the callbacks, the last one first, and whether an operation has
overflowed. -/
structure TimerState where
  now : ClockReading
  phase : TimerPhase
  passed : List (ClockReading × Timespec)
  starts : List ℤ
  overflowed : Bool

/-- The steps: time passes; the timer tests whether it is still running, reads the clock, starts its
callback, has run it, or is done sleeping; or it is cancelled at a cancellation point. -/
inductive TimerLabel
  | pass (later : ClockReading)
  | test (running : Bool)
  | read
  | start
  | finish
  | wake (ending : SleepEnd)
  | cancel

/-- A sleep until a deadline can end in a way at the time the clock shows. -/
def SleepEnd.Possible (now : ClockReading) (deadline : Timespec) : SleepEnd → Prop
  | .due => deadline.Normalised ∧ deadline.nanoseconds ≤ now.nanoseconds
  | .invalid => ¬ deadline.Normalised
  | .interrupted => deadline.Normalised

instance (now : ClockReading) (deadline : Timespec) :
    DecidablePred (SleepEnd.Possible now deadline)
  | .due => inferInstanceAs (Decidable (_ ∧ _))
  | .invalid => inferInstanceAs (Decidable (¬ _))
  | .interrupted => inferInstanceAs (Decidable (Timespec.Normalised _))

/-- The state after a step of `timer_task`, where the step is possible. -/
def timerNext (intervalMs : Long width) (state : TimerState) : TimerLabel → Option TimerState
  | .pass later =>
    if state.now.nanoseconds ≤ later.nanoseconds then some { state with now := later } else none
  | .test running =>
    match state.phase with
    | .tests => some { state with phase := if running then .readsClock else .ended }
    | _ => none
  | .read =>
    match state.phase with
    | .readsClock =>
      match timerDeadline intervalMs state.now with
      | some deadline => some { state with phase := .starts state.now deadline }
      | none => some { state with phase := .undefined, overflowed := true }
    | _ => none
  | .start =>
    match state.phase with
    | .starts reading deadline =>
      some { state with
        phase := .runs reading deadline
        starts := state.now.nanoseconds :: state.starts }
    | _ => none
  | .finish =>
    match state.phase with
    | .runs reading deadline =>
      some { state with
        phase := .sleeps reading deadline
        passed := state.passed ++ [(reading, deadline)] }
    | _ => none
  | .wake ending =>
    match state.phase with
    | .sleeps _ deadline =>
      if ending.Possible state.now deadline then some { state with phase := .tests } else none
    | _ => none
  | .cancel =>
    match state.phase with
    | .starts _ _ | .sleeps _ _ => some { state with phase := .ended }
    | _ => none

/-- A timer that `timer_init` has created with an interval, at any time of the clock. -/
def timerSystem (intervalMs : Long width) : TransitionSystem TimerState TimerLabel where
  initial := fun state ↦
    state.phase = .tests ∧ state.passed = [] ∧ state.starts = [] ∧ state.overflowed = false
  next := timerNext intervalMs

/-! ### Deadlines and distances -/

/-- A start of a callback is the interval or more after another one. -/
def Apart (intervalMs : Long width) (later earlier : ℤ) : Prop :=
  earlier + intervalMs.value * 1000000 ≤ later

/-- The deadlines passed are right, consecutive callbacks start the interval or more apart, and no
operation has overflowed. -/
structure TimerKept (intervalMs : Long width) (state : TimerState) : Prop where
  right : ∀ entry ∈ state.passed, DeadlineRight intervalMs entry.1 entry.2
  apart : state.starts.IsChain (Apart intervalMs)
  no_overflow : state.overflowed = false

/-- The delay of a start of the callback behind the reading of the clock before it. -/
def startDelay (reading : ClockReading) (start : ℤ) : ℤ :=
  start - reading.nanoseconds

/-- The time by which a reading comes later than the interval after the reading before it, negative
where the sleep between them ended early. -/
def lateness (intervalMs : Long width) (before reading : ClockReading) : ℤ :=
  reading.nanoseconds - (before.nanoseconds + intervalMs.value * 1000000)

/-- A reading fits the interval, and a start is delayed as long as the one before it, or the reading
between them was late by the rest. -/
def TimerStepFits (intervalMs : Long width) (state : TimerState) : TimerLabel → Prop
  | .read => DeadlineFits intervalMs state.now
  | .start => ∀ reading deadline, state.phase = .starts reading deadline →
    ∀ last ∈ state.starts.head?, ∀ entry ∈ state.passed.getLast?,
      startDelay entry.1 last ≤
        lateness intervalMs entry.1 reading + startDelay reading state.now.nanoseconds
  | _ => True

/-- The deadlines passed and the starts go together: from a start to the sleep after it there is one
start more, and the deadline that the timer is about to pass is right. -/
def PhaseFits (intervalMs : Long width) (state : TimerState) : Prop :=
  match state.phase with
  | .tests | .readsClock | .sleeps _ _ => state.starts.length = state.passed.length
  | .starts reading deadline =>
    DeadlineRight intervalMs reading deadline ∧ state.starts.length = state.passed.length
  | .runs reading deadline =>
    DeadlineRight intervalMs reading deadline ∧ state.starts.length = state.passed.length + 1
  | .ended | .undefined => True

variable {state successor : TimerState}

/-- Reading the clock leads to the deadline, or to an overflow. -/
theorem timerNext_read (hnext : timerNext intervalMs state .read = some successor) :
    state.phase = .readsClock ∧
      ((∃ deadline, timerDeadline intervalMs state.now = some deadline ∧
          successor = { state with phase := .starts state.now deadline }) ∨
        timerDeadline intervalMs state.now = none ∧
          successor = { state with phase := .undefined, overflowed := true }) := by
  simp only [timerNext] at hnext
  split at hnext
  case h_1 hphase =>
    cases hdeadline : timerDeadline intervalMs state.now with
    | none =>
      simp only [hdeadline] at hnext
      exact ⟨hphase, .inr ⟨rfl, (Option.some.inj hnext).symm⟩⟩
    | some deadline =>
      simp only [hdeadline] at hnext
      exact ⟨hphase, .inl ⟨deadline, rfl, (Option.some.inj hnext).symm⟩⟩
  case h_2 => cases hnext

/-- The callback starts after a reading, and its start is recorded. -/
theorem timerNext_start (hnext : timerNext intervalMs state .start = some successor) :
    ∃ reading deadline, state.phase = .starts reading deadline ∧
      successor = { state with
        phase := .runs reading deadline
        starts := state.now.nanoseconds :: state.starts } := by
  simp only [timerNext] at hnext
  split at hnext
  case h_1 reading deadline hphase =>
    exact ⟨reading, deadline, hphase, (Option.some.inj hnext).symm⟩
  case h_2 => cases hnext

/-- A sleep ends in a way that is possible, and the loop is tested. -/
theorem timerNext_wake {ending : SleepEnd}
    (hnext : timerNext intervalMs state (.wake ending) = some successor) :
    ∃ reading deadline, state.phase = .sleeps reading deadline ∧
      ending.Possible state.now deadline ∧ successor = { state with phase := .tests } := by
  simp only [timerNext] at hnext
  split at hnext
  case h_1 reading deadline hphase =>
    simp only [Option.ite_none_right_eq_some, Option.some.injEq] at hnext
    exact ⟨reading, deadline, hphase, hnext.1, hnext.2.symm⟩
  case h_2 => cases hnext

/-- Where the starts and the deadlines passed go together, a start has its deadline. -/
theorem exists_entry (hpaired : state.starts.length = state.passed.length) {last : ℤ}
    (hlast : last ∈ state.starts.head?) : ∃ entry, entry ∈ state.passed.getLast? := by
  have hstarted : state.starts ≠ [] := by
    intro hnone
    rw [hnone] at hlast
    cases hlast
  have hpassed : state.passed ≠ [] := by
    rw [← List.length_pos_iff, ← hpaired]
    exact List.length_pos_iff.mpr hstarted
  exact ⟨_, List.getLast?_eq_some_getLast hpassed⟩

/-- A start that fits is the interval or more after the one before it, and one that is does fit. -/
theorem apart_iff_delay (before reading : ClockReading) (now last : ℤ) :
    Apart intervalMs now last ↔
      startDelay before last ≤ lateness intervalMs before reading + startDelay reading now := by
  unfold Apart startDelay lateness
  omega

/-- Every step that fits keeps the deadlines right and the callbacks apart. -/
theorem timerNext_kept (hkept : TimerKept intervalMs state) (hphases : PhaseFits intervalMs state)
    {label : TimerLabel} (hfits : TimerStepFits intervalMs state label)
    (hnext : timerNext intervalMs state label = some successor) :
    TimerKept intervalMs successor ∧ PhaseFits intervalMs successor := by
  cases label with
  | pass later =>
    simp only [timerNext, Option.ite_none_right_eq_some, Option.some.injEq] at hnext
    obtain ⟨-, rfl⟩ := hnext
    exact ⟨⟨hkept.right, hkept.apart, hkept.no_overflow⟩, hphases⟩
  | test running =>
    simp only [timerNext] at hnext
    split at hnext
    case h_1 hphase =>
      obtain rfl := Option.some.inj hnext
      simp only [PhaseFits, hphase] at hphases
      refine ⟨⟨hkept.right, hkept.apart, hkept.no_overflow⟩, ?_⟩
      cases running with
      | true => exact hphases
      | false => trivial
    case h_2 => cases hnext
  | read =>
    obtain ⟨deadline, hdeadline, hright⟩ := timerDeadline_right_iff.mpr hfits
    obtain ⟨hphase, ⟨other, hother, rfl⟩ | ⟨hnone, -⟩⟩ := timerNext_read hnext
    · obtain rfl : deadline = other := Option.some.inj (hdeadline.symm.trans hother)
      simp only [PhaseFits, hphase] at hphases
      exact ⟨⟨hkept.right, hkept.apart, hkept.no_overflow⟩, hright, hphases⟩
    · cases hdeadline.symm.trans hnone
  | start =>
    obtain ⟨reading, deadline, hphase, rfl⟩ := timerNext_start hnext
    simp only [PhaseFits, hphase] at hphases
    obtain ⟨hright, hpaired⟩ := hphases
    refine ⟨⟨hkept.right, ?_, hkept.no_overflow⟩, hright, congrArg (· + 1) hpaired⟩
    refine hkept.apart.cons fun last hlast ↦ ?_
    obtain ⟨entry, hentry⟩ := exists_entry hpaired hlast
    exact (apart_iff_delay entry.1 reading _ _).mpr
      (hfits reading deadline hphase last hlast entry hentry)
  | finish =>
    simp only [timerNext] at hnext
    split at hnext
    case h_1 reading deadline hphase =>
      obtain rfl := Option.some.inj hnext
      simp only [PhaseFits, hphase] at hphases
      refine ⟨⟨fun entry hentry ↦ ?_, hkept.apart, hkept.no_overflow⟩, ?_⟩
      · rcases List.mem_append.mp hentry with hbefore | hnow
        · exact hkept.right entry hbefore
        · rw [List.mem_singleton.mp hnow]
          exact hphases.1
      · simp only [PhaseFits, List.length_append, List.length_singleton]
        exact hphases.2
    case h_2 => cases hnext
  | wake ending =>
    obtain ⟨reading, deadline, hphase, -, rfl⟩ := timerNext_wake hnext
    simp only [PhaseFits, hphase] at hphases
    exact ⟨⟨hkept.right, hkept.apart, hkept.no_overflow⟩, hphases⟩
  | cancel =>
    simp only [timerNext] at hnext
    split at hnext
    case h_1 | h_2 =>
      obtain rfl := Option.some.inj hnext
      exact ⟨⟨hkept.right, hkept.apart, hkept.no_overflow⟩, trivial⟩
    case h_3 => cases hnext

/-- In every run whose steps fit, the deadlines are right and the callbacks apart. -/
theorem timer_reachable (hreach : (timerSystem intervalMs).ReachableUnder
    (TimerStepFits intervalMs) state) :
    TimerKept intervalMs state ∧ PhaseFits intervalMs state := by
  refine hreach.invariant (fun start hstart ↦ ?_) fun _ _ _ hbefore hfits hnext ↦
    timerNext_kept hbefore.1 hbefore.2 hfits hnext
  obtain ⟨hphase, hpassed, hstarts, hoverflow⟩ := hstart
  refine ⟨⟨?_, ?_, hoverflow⟩, ?_⟩
  · rw [hpassed]
    exact fun entry hentry ↦ absurd hentry List.not_mem_nil
  · rw [hstarts]
    exact .nil
  · simp only [PhaseFits, hphase, hstarts, hpassed]
    rfl

/-! ### What goes wrong otherwise -/

/-- A timer with a deadline that is not right passes it to `clock_nanosleep`. -/
theorem passes_wrong_deadline {deadline : Timespec}
    (hphase : state.phase = .starts reading deadline)
    (hwrong : ¬ DeadlineRight intervalMs reading deadline) :
    ∃ final, (timerSystem intervalMs).Continuation (fun _ _ ↦ True) state final ∧
      ¬ TimerKept intervalMs final := by
  have hstart : timerNext intervalMs state .start = some { state with
      phase := .runs reading deadline
      starts := state.now.nanoseconds :: state.starts } := by
    simp only [timerNext, hphase]
  refine ⟨_, .head ⟨.start, trivial, hstart⟩ (.single ⟨.finish, trivial, rfl⟩),
    fun hkept ↦ hwrong ?_⟩
  exact hkept.right (reading, deadline) (List.mem_append_right _ (List.mem_singleton.mpr rfl))

/-- Five seconds. -/
def fiveSeconds : Long .bits32 where
  value := 5000
  fits := ⟨by decide, by decide⟩

end Bme680.Clocks
