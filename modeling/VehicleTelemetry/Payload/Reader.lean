import VehicleTelemetry.Payload.Error

/-!
Bounds-checked reading of numbers from a response payload.

Numbers are big-endian: `bigEndian` gives the first byte the highest weight. A field that does not
lie fully inside the payload is refused with its place and size (`Payload.field`). Signed numbers
are the unsigned ones taken modulo the width into the range around zero (`Payload.signed`), and
bit 0 is the least significant one (`Payload.bit`).
-/

namespace VehicleTelemetry

/-- The bytes of a complete response, service and data identifier already removed. -/
abbrev Payload := List UInt8

/-- The number that bytes spell, the first byte weighing most. -/
def bigEndian (bytes : List UInt8) : Nat :=
  bytes.foldl (fun value byte => 256 * value + byte.toNat) 0

namespace Payload

/-- The `width` bytes from `offset` on. -/
def field (data : Payload) (offset width : Nat) : Except PayloadError (List UInt8) :=
  if offset + width ≤ data.length then .ok ((data.drop offset).take width)
  else .error (.shortPayload offset width data.length)

/-- The unsigned number in `width` bytes. -/
def unsigned (data : Payload) (offset width : Nat) : Except PayloadError Nat :=
  bigEndian <$> data.field offset width

/-- The number in `width` bytes in two's complement. -/
def signed (data : Payload) (offset width : Nat) : Except PayloadError Int :=
  (fun value : Nat => Int.bmod value (1 <<< (8 * width))) <$> data.unsigned offset width

/-- One bit of a byte. The index is checked before the byte is read. -/
def bit (data : Payload) (offset index : Nat) : Except PayloadError Bool :=
  if 7 < index then .error (.bitIndex index)
  else (·.testBit index) <$> data.unsigned offset 1

end Payload

end VehicleTelemetry
