import Mathlib.Data.Rat.Defs

/-!
# The sensor record

The record the user-space programs pass through the monitor, the assembly line and the event loop.
The sources name its fields by their uses only: a temperature with a fractional part and three
unsigned 32-bit readings. The temperature is taken as a rational.
-/

set_option autoImplicit false
set_option relaxedAutoImplicit false

namespace Bme680

/-- `struct bme680_fifo_data` as the user-space programs use it. -/
structure Bme680FifoData where
  temp : ℚ
  pressure : UInt32
  humidity : UInt32
  gasResistance : UInt32
  deriving DecidableEq, Repr

end Bme680
