/-!
The values of a RON document.
-/

namespace VehicleTelemetry.Ron

/-- A RON value. A structure is a map from the names of its fields, a tuple is a list, a name that
stands alone and an option without a value are nothing. -/
inductive Value where
  | nothing
  | bool (value : Bool)
  | int (value : Int)
  | float (value : Float)
  | text (value : String)
  | list (items : List Value)
  | map (members : List (Value × Value))

end VehicleTelemetry.Ron
