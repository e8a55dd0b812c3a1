/-!
The clock counts milliseconds in 64 bits.
-/

namespace VehicleTelemetry.Clock

/-- How many different times the clock can show: `2 ^ 64`. -/
def period : Nat := 18446744073709551616

/-- The time `elapsed` milliseconds after `now`; the clock starts again after its last time. -/
def advance (now elapsed : Nat) : Nat :=
  (now + elapsed) % period

end VehicleTelemetry.Clock
