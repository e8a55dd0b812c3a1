import VehicleTelemetry.Text.Hex

/-!
Why a response payload cannot be decoded.
-/

namespace VehicleTelemetry

/-- The causes for which a payload is refused. -/
inductive PayloadError where
  /-- A field does not lie fully inside the payload. -/
  | shortPayload (offset needed length : Nat)
  /-- A byte has no bit of that index. -/
  | bitIndex (bit : Nat)
  /-- Nothing is left of the payload once its padding is gone. -/
  | emptyPayload
  /-- A text has a byte that is no graphic character. -/
  | invalidText (offset : Nat) (byte : UInt8)
  deriving DecidableEq, Repr

namespace PayloadError

/-- The wording of each cause. -/
def message : PayloadError → String
  | shortPayload offset needed length =>
    s!"Payload too short: need {needed} bytes at offset {offset}, have {length}"
  | bitIndex bit => s!"Bit index {bit} out of range"
  | emptyPayload => "Empty payload"
  | invalidText offset byte =>
    "Invalid text byte 0x" ++ Text.hex 2 byte.toNat ++ s!" at offset {offset}"

end PayloadError

end VehicleTelemetry
