import VehicleTelemetry.Json.Parser
import VehicleTelemetry.Json.Printer
import VehicleTelemetry.Metric.Value
import VehicleTelemetry.Word

/-!
Metric values as JSON. The kind of a value is not written: a boolean, a number, a text or an array
of numbers tells it. A number that fits a signed 64-bit word is a whole number, every other one a
float. All other JSON values are no metric values.
-/

namespace VehicleTelemetry.MetricValue

/-- A JSON number as a float. -/
def floatOfJson? : Json → Option Float
  | .int value => some (Float.ofInt value)
  | .float value => some value
  | _ => none

/-- The metric value that a JSON value stands for. -/
def ofJson? : Json → Option MetricValue
  | .bool value => some (bool value)
  | .int value =>
    if Word.isSigned value then some (int (Int64.ofInt value))
    else some (float (Float.ofInt value))
  | .float value => some (float value)
  | .string value => some (text value)
  | .array items => floats <$> items.mapM floatOfJson?
  | .null | .object _ => none

/-- The JSON value of a metric value. -/
def toJson : MetricValue → Json
  | bool value => .bool value
  | int value => .int value.toInt
  | float value => .float value
  | text value => .string value
  | floats values => .array (values.map .float)

/-- The metric value that a JSON text stands for. -/
def parse? (text : String) : Option MetricValue :=
  Json.parse? text >>= ofJson?

/-- The JSON text of a metric value. -/
def write (value : MetricValue) : String :=
  value.toJson.compact

end VehicleTelemetry.MetricValue
