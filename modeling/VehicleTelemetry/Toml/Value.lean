/-!
The values of a TOML document.
-/

namespace VehicleTelemetry.Toml

/-- A TOML value. Dates and times are kept in their normal spelling. -/
inductive Value where
  | bool (value : Bool)
  | integer (value : Int)
  | float (value : Float)
  | string (value : String)
  | moment (text : String)
  | array (items : List Value)
  | table (members : List (String × Value))

end VehicleTelemetry.Toml
