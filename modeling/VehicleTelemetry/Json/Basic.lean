/-!
JSON values. A number that is written without fraction and exponent and fits 64 bits is a whole
number; every other one is the float nearest to it.
-/

namespace VehicleTelemetry

/-- A JSON value. Members of an object keep their order, and a name may occur twice. -/
inductive Json where
  | null
  | bool (value : Bool)
  | int (value : Int)
  | float (value : Float)
  | string (value : String)
  | array (items : List Json)
  | object (members : List (String × Json))

end VehicleTelemetry
