import VehicleTelemetry.Poll.Ecu
import VehicleTelemetry.Poll.Pid
import VehicleTelemetry.Text.Hex

/-!
Requests for one data identifier, and why one can fail.
-/

namespace VehicleTelemetry

/-- The kind of a diagnostic request. -/
inductive QueryKind where
  /-- Reading the data of a two-byte identifier. -/
  | readData
  deriving DecidableEq, Repr

namespace QueryKind

/-- The kind's name. -/
def name : QueryKind → String
  | readData => "ReadData"

end QueryKind

/-- How the frames of a request are addressed. -/
inductive Addressing where
  /-- Bus identifiers of 11 bits. -/
  | standard
  /-- The first data byte carries the target's address. -/
  | extendedAddress
  /-- Bus identifiers of 29 bits. -/
  | extendedFrame
  deriving DecidableEq, Repr

/-- Addressing is standard unless something else is said. -/
instance : Inhabited Addressing := ⟨.standard⟩

namespace Addressing

/-- The mode's name. -/
def name : Addressing → String
  | standard => "Standard"
  | extendedAddress => "ExtendedAddress"
  | extendedFrame => "ExtendedFrame"

end Addressing

/-- A single request outside the periodic polls. -/
structure Query where
  target : Ecu
  /-- The unit that is expected to answer. -/
  responder : Ecu
  kind : QueryKind
  pid : Pid
  /-- How long to wait for the complete response, in milliseconds. -/
  timeout : Nat
  addressing : Addressing
  deriving DecidableEq, Repr

namespace Query

/-- A request that the addressed unit itself answers. -/
def read (ecu : Ecu) (pid : Pid) (timeout : Nat) : Query where
  target := ecu
  responder := ecu
  kind := .readData
  pid
  timeout
  addressing := .standard

end Query

/-- The causes for which a request fails. -/
inductive PollError where
  /-- No complete response in time. -/
  | timeout (responseId : UInt32) (milliseconds : Nat)
  /-- The bus itself failed. -/
  | bus (cause : String)
  /-- The unit refused the request. -/
  | negativeResponse (responseId : UInt32) (code : UInt8)
  deriving DecidableEq, Repr

namespace PollError

/-- The wording of each cause. -/
def message : PollError → String
  | timeout responseId milliseconds =>
    "Timeout waiting for response from " ++ Text.hex 3 responseId.toNat ++
      s!" after {milliseconds}ms"
  | bus cause => "CAN bus error: " ++ cause
  | negativeResponse responseId code =>
    "Negative response from " ++ Text.hex 3 responseId.toNat ++ ": NRC " ++ Text.hex 2 code.toNat

end PollError

end VehicleTelemetry
