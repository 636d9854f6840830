import Bme680.Arithmetic.Timespecs
import Mathlib.Order.Bounds.Basic

/-!
# The timed waits

The timed waits of the program compute their deadline in the same way: they read `CLOCK_MONOTONIC`
and add five to the seconds. Seven of them hand it to `pthread_cond_timedwait` on a condition
variable with default attributes, which takes it for a time of `CLOCK_REALTIME`. The two of
`ipc_sync.c` hand it to `semtimedop`, which takes it for a duration.

Both clocks advance equally, so that what they show when the deadline is computed settles when a
wait times out, together with the time that passes until it begins. `times_out_iff` says when that
is five seconds after the deadline was computed. `times_out_at_once` is the usual case: the real
time is far ahead of the time since the start of the machine, and a wait on a condition variable
times out the moment it begins.
-/

set_option autoImplicit false
set_option relaxedAutoImplicit false

namespace Bme680.Clocks

open Arithmetic

/-- The functions with a timed wait. -/
inductive TimedWait
  | rwlockRdlock
  | rwlockWrlock
  | fifoSemaphoreWait
  | eventPairWait1
  | eventPairWait2
  | bme680MonitorWrite
  | bme680MonitorRead
  | ipcSyncWrite
  | ipcSyncRead
  deriving DecidableEq, Repr

/-- What a function waits with. -/
inductive WaitPrimitive
  | pthreadCondTimedwait
  | semtimedop
  deriving DecidableEq, Repr

/-- The call that waits in a function. -/
def TimedWait.primitive : TimedWait → WaitPrimitive
  | .rwlockRdlock | .rwlockWrlock | .fifoSemaphoreWait | .eventPairWait1 | .eventPairWait2
  | .bme680MonitorWrite | .bme680MonitorRead => .pthreadCondTimedwait
  | .ipcSyncWrite | .ipcSyncRead => .semtimedop

/-- The deadline of a wait: `clock_gettime(CLOCK_MONOTONIC, &ts)` and `ts.tv_sec += 5`. -/
def deadline (monotonic : ClockReading) : Timespec :=
  { monotonic.toTimespec with tvSec := monotonic.tvSec + 5 }

/-- A wait has timed out a number of nanoseconds after its deadline was computed, given what the two
clocks showed then and how many nanoseconds passed until the wait began. -/
def TimedWait.TimedOut (wait : TimedWait) (monotonic realtime : ClockReading)
    (delay elapsed : ℕ) : Prop :=
  delay ≤ elapsed ∧
    match wait.primitive with
    | .pthreadCondTimedwait =>
      (deadline monotonic).nanoseconds ≤ realtime.nanoseconds + elapsed
    | .semtimedop => (deadline monotonic).nanoseconds ≤ (elapsed : ℤ) - delay

/-- A wait on a condition variable that begins within five seconds needs clocks that agree, one
that begins after just five seconds a monotonic clock that is not ahead. A wait for a duration needs
a monotonic clock at zero, and to begin at once. -/
def TimedWait.ClocksFit (wait : TimedWait) (monotonic realtime : ClockReading) (delay : ℕ) : Prop :=
  match wait.primitive with
  | .pthreadCondTimedwait =>
    (delay < 5000000000 ∧ monotonic.toTimespec = realtime.toTimespec) ∨
      (delay = 5000000000 ∧ monotonic.nanoseconds ≤ realtime.nanoseconds)
  | .semtimedop => monotonic.nanoseconds = 0 ∧ delay = 0

/-- A deadline is five seconds after the reading. -/
theorem nanoseconds_deadline (monotonic : ClockReading) :
    (deadline monotonic).nanoseconds = monotonic.nanoseconds + 5000000000 := by
  simp only [deadline, Timespec.nanoseconds]
  omega

/-- The first of the moments from a given one on that are at or after a deadline is the later of the
two. -/
theorem isLeast_moment_iff {start moment : ℕ} {due : ℤ} :
    IsLeast {elapsed : ℕ | start ≤ elapsed ∧ due ≤ elapsed} moment ↔
      (start < moment ∧ due = moment) ∨ (start = moment ∧ due ≤ moment) := by
  constructor
  · rintro ⟨⟨hstart, hdue⟩, hfirst⟩
    rcases hstart.lt_or_eq with hlater | hsame
    · refine .inl ⟨hlater, hdue.antisymm ?_⟩
      by_contra hearlier
      have hbefore : moment ≤ moment - 1 := hfirst ⟨by omega, by omega⟩
      omega
    · exact .inr ⟨hsame, hdue⟩
  · rintro (⟨hlater, hdue⟩ | ⟨hsame, hdue⟩)
    · exact ⟨⟨hlater.le, hdue.le⟩, fun elapsed helapsed ↦ by
        have hreached := helapsed.2
        omega⟩
    · exact ⟨⟨hsame.le, hdue⟩, fun elapsed helapsed ↦ hsame ▸ helapsed.1⟩

/-- A timed wait times out five seconds after its deadline was computed, and not before, exactly
where the clocks fit it. -/
theorem times_out_iff (wait : TimedWait) (monotonic realtime : ClockReading) (delay : ℕ) :
    IsLeast {elapsed | wait.TimedOut monotonic realtime delay elapsed} 5000000000 ↔
      wait.ClocksFit monotonic realtime delay := by
  have hnonneg := monotonic.nanoseconds_nonneg
  unfold TimedWait.TimedOut TimedWait.ClocksFit
  cases wait.primitive with
  | pthreadCondTimedwait =>
    have hsame : {elapsed : ℕ | delay ≤ elapsed ∧
        (deadline monotonic).nanoseconds ≤ realtime.nanoseconds + elapsed} =
        {elapsed : ℕ | delay ≤ elapsed ∧
          monotonic.nanoseconds + 5000000000 - realtime.nanoseconds ≤ elapsed} := by
      ext elapsed
      simp only [Set.mem_ofPred_eq, nanoseconds_deadline]
      omega
    have hagree : monotonic.toTimespec = realtime.toTimespec ↔
        monotonic.nanoseconds = realtime.nanoseconds :=
      ⟨congrArg Timespec.nanoseconds,
        monotonic.normalised.ext_nanoseconds realtime.normalised⟩
    dsimp only
    rw [hsame, isLeast_moment_iff, hagree]
    omega
  | semtimedop =>
    have hsame : {elapsed : ℕ | delay ≤ elapsed ∧
        (deadline monotonic).nanoseconds ≤ (elapsed : ℤ) - delay} =
        {elapsed : ℕ | delay ≤ elapsed ∧
          monotonic.nanoseconds + 5000000000 + delay ≤ elapsed} := by
      ext elapsed
      simp only [Set.mem_ofPred_eq, nanoseconds_deadline]
      omega
    dsimp only
    rw [hsame, isLeast_moment_iff]
    omega

/-- A wait on a condition variable times out the moment it begins where the real time is five
seconds or more ahead of the monotonic clock. -/
theorem times_out_at_once (wait : TimedWait) (monotonic realtime : ClockReading) (delay : ℕ)
    (hwait : wait.primitive = .pthreadCondTimedwait)
    (hahead : monotonic.nanoseconds + 5000000000 ≤ realtime.nanoseconds) :
    IsLeast {elapsed | wait.TimedOut monotonic realtime delay elapsed} delay := by
  unfold TimedWait.TimedOut
  rw [hwait]
  refine ⟨⟨le_rfl, ?_⟩, fun elapsed helapsed ↦ helapsed.1⟩
  dsimp only
  rw [nanoseconds_deadline]
  omega

/-- On a machine that has run for a hundred seconds, in the year 2023, `rwlock_rdlock` does not wait
five seconds. -/
theorem rdlock_not_five_seconds :
    ¬ ∀ (wait : TimedWait) (monotonic realtime : ClockReading),
      IsLeast {elapsed | wait.TimedOut monotonic realtime 0 elapsed} 5000000000 := by
  intro hall
  have hfive := hall .rwlockRdlock (.ofSeconds 100) (.ofSeconds 1700000000)
  have honce := times_out_at_once .rwlockRdlock (.ofSeconds 100) (.ofSeconds 1700000000) 0 rfl
    (by simp)
  exact absurd (hfive.unique honce) (by decide)

end Bme680.Clocks
