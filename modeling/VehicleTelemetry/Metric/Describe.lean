import VehicleTelemetry.Decimal.Layout
import VehicleTelemetry.Metric.Value
import VehicleTelemetry.Text.Quoted

/-!
Metric values as messages give them: the kind of value, and the value in parentheses.
-/

namespace VehicleTelemetry.MetricValue

/-- The kind of a value and the value itself. -/
def describe : MetricValue → String
  | bool value => s!"Bool({value})"
  | int value => s!"Int({value})"
  | float value => "Float(" ++ Decimal.marked value ++ ")"
  | text value => "Text(" ++ Text.quoted value ++ ")"
  | floats values => "Floats([" ++ String.intercalate ", " (values.map Decimal.marked) ++ "])"

end VehicleTelemetry.MetricValue
