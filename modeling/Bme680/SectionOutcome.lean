import Mathlib.Algebra.Order.Group.Int

/-!
# Return codes and the ends of locked sections

Every synchronization primitive of the program runs its shared-state code in sections between
acquiring a mutex and either releasing it or sleeping on a condition variable. A section is a
function from the protected record to the record it leaves and its end: the call sleeps, or it
returns a code. Codes are zero, a negated error number, or the error number of a failed
`pthread_cond_timedwait`, which the callers pass on with its positive sign.
-/

set_option autoImplicit false
set_option relaxedAutoImplicit false

namespace Bme680

/-! ### Error numbers -/

def EPERM : ℕ := 1
def EIO : ℕ := 5
def EAGAIN : ℕ := 11
def ENOMEM : ℕ := 12
def ENODEV : ℕ := 19
def EINVAL : ℕ := 22
def EDEADLK : ℕ := 35
def ETIMEDOUT : ℕ := 110

/-- The end of a section: the call sleeps on its condition variable, or it releases the mutex and
returns a code. -/
inductive SectionEnd
  | sleeps
  | returns (ret : ℤ)
  deriving DecidableEq, Repr

end Bme680
