/-!
The values with a fixed set of names that responses carry as codes: the shift lever's position, the
charge mode and the charging connector.
-/

namespace VehicleTelemetry

/-- Where the shift lever stands. -/
inductive ShiftPosition where
  | park
  | reverse
  | neutral
  | drive
  /-- A code with no known meaning. -/
  | unknown (code : Int)
  deriving DecidableEq, Repr

namespace ShiftPosition

/-- The position of a code. -/
def ofCode : Int → ShiftPosition
  | 0 => park
  | 2 => reverse
  | 4 => neutral
  | 6 => drive
  | code => unknown code

/-- The gear that is published: `-1` backwards, `0` standing, `1` forwards, `-999` unknown. -/
def gear : ShiftPosition → Int64
  | reverse => -1
  | park | neutral => 0
  | drive => 1
  | unknown _ => -999

/-- The position's name. -/
def name : ShiftPosition → String
  | park => "Park"
  | reverse => "Reverse"
  | neutral => "Neutral"
  | drive => "Drive"
  | unknown _ => "Unknown"

/-- The position's name, with the code where it has no meaning. -/
def describe : ShiftPosition → String
  | unknown code => s!"Unknown({code})"
  | position => position.name

end ShiftPosition

/-- The charge mode that is selected on the vehicle. -/
inductive ChargeMode where
  | standard
  | performance
  deriving DecidableEq, Repr

namespace ChargeMode

/-- Code 0 is the standard mode, every other one the performance mode. -/
def ofCode (code : Nat) : ChargeMode :=
  if code = 0 then standard else performance

/-- The text that is published. -/
def text : ChargeMode → String
  | standard => "Standard"
  | performance => "Performance"

end ChargeMode

/-- The kind of charging connector. -/
inductive ChargeType where
  | ccs
  | type1
  | type2
  | unknown
  deriving DecidableEq, Repr

namespace ChargeType

/-- The connector of a code. -/
def ofCode : Nat → ChargeType
  | 0 => ccs
  | 1 => type1
  | 2 => type2
  | _ => unknown

/-- The text that is published. -/
def text : ChargeType → String
  | ccs => "ccs"
  | type1 => "type1"
  | type2 => "type2"
  | unknown => "unknown"

end ChargeType

end VehicleTelemetry
