import VehicleTelemetry.Decimal.Binary64

/-!
The values that metrics hold, and their views as other kinds of value.
-/

namespace VehicleTelemetry

/-- A value of a metric. -/
inductive MetricValue where
  | bool (value : Bool)
  | int (value : Int64)
  | float (value : Float)
  | text (value : String)
  | floats (values : List Float)
  deriving DecidableEq

namespace MetricValue

/-- The truth value of a boolean. -/
def toBool? : MetricValue → Option Bool
  | bool value => some value
  | _ => none

/-- A whole number; of a float its whole part, of a boolean 0 or 1. -/
def toInt? : MetricValue → Option Int64
  | int value => some value
  | float value => some (Binary64.truncate value)
  | bool value => some (if value then 1 else 0)
  | _ => none

/-- A float; whole numbers are widened. -/
def toFloat? : MetricValue → Option Float
  | float value => some value
  | int value => some (Float.ofInt value.toInt)
  | _ => none

/-- The text. -/
def toText? : MetricValue → Option String
  | text value => some value
  | _ => none

end MetricValue

end VehicleTelemetry
