import Mathlib.Algebra.Order.Ring.Int
import Mathlib.Tactic.Common

/-!
# Times in seconds and nanoseconds

A time is a number of seconds and a number of nanoseconds. It is normalised where the nanoseconds
make less than a second and are not negative; clocks show normalised times, and functions that are
given a time may refuse another one. `nanoseconds` is what a time stands for, and normalised times
that stand for the same are the same.
-/

set_option autoImplicit false
set_option relaxedAutoImplicit false

namespace Bme680.Arithmetic

/-- `struct timespec`. -/
@[ext] structure Timespec where
  tvSec : ℤ
  tvNsec : ℤ
  deriving DecidableEq, Repr

namespace Timespec

/-- The nanoseconds a time stands for. -/
def nanoseconds (ts : Timespec) : ℤ :=
  ts.tvSec * 1000000000 + ts.tvNsec

/-- The nanoseconds of a time make no second and are not negative. -/
def Normalised (ts : Timespec) : Prop :=
  0 ≤ ts.tvNsec ∧ ts.tvNsec < 1000000000

instance : DecidablePred Normalised :=
  fun ts ↦ inferInstanceAs (Decidable (0 ≤ ts.tvNsec ∧ ts.tvNsec < 1000000000))

/-- Normalised times that stand for the same are the same. -/
theorem Normalised.ext_nanoseconds {first second : Timespec} (hfirst : first.Normalised)
    (hsecond : second.Normalised) (hsame : first.nanoseconds = second.nanoseconds) :
    first = second := by
  obtain ⟨hfirstLow, hfirstHigh⟩ := hfirst
  obtain ⟨hsecondLow, hsecondHigh⟩ := hsecond
  unfold nanoseconds at hsame
  ext
  · omega
  · omega

end Timespec

/-- What a clock that starts at zero shows. -/
structure ClockReading extends Timespec where
  normalised : toTimespec.Normalised
  nonneg : 0 ≤ tvSec

namespace ClockReading

/-- A clock does not show a time before its start. -/
theorem nanoseconds_nonneg (reading : ClockReading) : 0 ≤ reading.nanoseconds := by
  have hsec := reading.nonneg
  have hnsec := reading.normalised.1
  unfold Timespec.nanoseconds
  omega

/-- A clock that shows the given seconds, and no nanoseconds. -/
def ofSeconds (seconds : ℕ) : ClockReading where
  tvSec := seconds
  tvNsec := 0
  normalised := ⟨Int.le_refl 0, Int.ofNat_lt.mpr (Nat.succ_pos _)⟩
  nonneg := Int.natCast_nonneg seconds

@[simp] theorem nanoseconds_ofSeconds (seconds : ℕ) :
    (ofSeconds seconds).nanoseconds = seconds * 1000000000 :=
  Int.add_zero _

end ClockReading

end Bme680.Arithmetic
