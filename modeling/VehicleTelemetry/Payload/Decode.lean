import VehicleTelemetry.Payload.Reader
import VehicleTelemetry.Payload.Statistics
import VehicleTelemetry.Payload.Values

/-!
The physical values in response payloads.

Each decoder has a fixed format: the offset, width and sign of its fields and the scale of the
number in them. It reads its fields in order and refuses the payload at the first one that does
not lie inside it. The vehicle identification number alone has no fixed length: its padding is
dropped at the end, and every byte that is left has to be a graphic character.
-/

namespace VehicleTelemetry.Decode

/-- Outside temperature in °C: one signed byte, offset by 40 degrees. -/
def ambientTemperature (data : Payload) : Except PayloadError Float :=
  (Float.ofInt · - 40.0) <$> data.signed 0 1

/-- The temperature that the sensor gives when it has no reading. -/
def ambientSentinel : Float := -40.0

/-- Whether a temperature stands for the absence of a reading. -/
def isAmbientSentinel (temperature : Float) : Bool :=
  temperature == ambientSentinel

/-- Power into the battery in kW: a word in hundredths, offset by `2 ^ 15`. -/
def batteryChargingPower (data : Payload) : Except PayloadError Float :=
  (fun raw : Nat => Float.ofInt (raw - 32768) / 100.0) <$> data.unsigned 0 2

/-- Pack voltage in V: a word in units of 1/64. -/
def batteryVoltage (data : Payload) : Except PayloadError Float :=
  (Float.ofNat · / 64.0) <$> data.unsigned 2 2

/-- Pack current in A, positive when the pack is discharged: a signed word in tenths. -/
def batteryCurrent (data : Payload) : Except PayloadError Float :=
  (Float.ofInt · / 10.0) <$> data.signed 4 2

/-- Pack power in kW. -/
def batteryPower (voltage current : Float) : Float :=
  voltage * current / 1000.0

/-- Voltage and current of the pack from one response, and the power that follows from them. -/
structure PackReading where
  voltage : Float
  current : Float
  power : Float
  deriving DecidableEq

/-- The pack's voltage, then its current. -/
def packReading (data : Payload) : Except PayloadError PackReading := do
  let voltage ← batteryVoltage data
  let current ← batteryCurrent data
  return { voltage, current, power := batteryPower voltage current }

/-- State of charge in percent: one signed byte. -/
def batterySoc (data : Payload) : Except PayloadError Float :=
  Float.ofInt <$> data.signed 0 1

/-- How many sensors the battery temperature response holds. -/
def temperatureSensors : Nat := 24

/-- The readings of the battery's temperature sensors, in the response's order. -/
structure BatteryTemperatures where
  sensors : List Float
  statistics : Statistics
  deriving DecidableEq

/-- One sensor in °C: a signed word in units of 1/256, offset by 50 degrees. -/
def sensorTemperature (data : Payload) (sensor : Nat) : Except PayloadError Float :=
  (Float.ofInt · / 256.0 - 50.0) <$> data.signed (2 * sensor) 2

/-- All sensors and their statistics. -/
def batteryTemperatures (data : Payload) : Except PayloadError BatteryTemperatures := do
  let sensors ← (List.range temperatureSensors).mapM (sensorTemperature data)
  match Statistics.ofList? sensors with
  | some statistics => return { sensors, statistics }
  | none => throw .emptyPayload

/-- Power drawn by the charger in kW: a word in units of 5 W. -/
def chargerInputPower (data : Payload) : Except PayloadError Float :=
  (Float.ofNat · * 5.0 / 1000.0) <$> data.unsigned 0 2

/-- Whether the charging lid is open: bit 1 of byte 1. -/
def chargingDoorOpen (data : Payload) : Except PayloadError Bool :=
  data.bit 1 1

/-- Whether the vehicle charges: byte 0 is not zero. -/
def chargingInProgress (data : Payload) : Except PayloadError Bool :=
  (· != 0) <$> data.unsigned 0 1

/-- Distance driven in km: four bytes in tenths. -/
def odometer (data : Payload) : Except PayloadError Float :=
  (Float.ofNat · / 10.0) <$> data.unsigned 0 4

/-- Whether a charging cable is plugged in: byte 0 is not zero. -/
def pilotPresent (data : Payload) : Except PayloadError Bool :=
  (· != 0) <$> data.unsigned 0 1

/-- Whether the vehicle is ready to drive: bit 0 of byte 1. -/
def ready (data : Payload) : Except PayloadError Bool :=
  data.bit 1 0

/-- Shift lever: one signed byte. -/
def shiftPosition (data : Payload) : Except PayloadError ShiftPosition :=
  ShiftPosition.ofCode <$> data.signed 0 1

/-- Speed in km/h: one byte. -/
def vehicleSpeed (data : Payload) : Except PayloadError Float :=
  Float.ofNat <$> data.unsigned 0 1

/-- Charge mode: byte 0. -/
def chargeMode (data : Payload) : Except PayloadError ChargeMode :=
  ChargeMode.ofCode <$> data.unsigned 0 1

/-- Charging connector: byte 0. -/
def chargeType (data : Payload) : Except PayloadError ChargeType :=
  ChargeType.ofCode <$> data.unsigned 0 1

/-! ### The vehicle identification number -/

/-- The bytes that pad a text at its end: NUL and space. -/
def isPadding (byte : UInt8) : Bool :=
  byte == 0 || byte == 0x20

/-- The bytes of the printable ASCII characters other than the space. -/
def isGraphic (byte : UInt8) : Bool :=
  0x21 ≤ byte && byte ≤ 0x7E

/-- A payload without the padding at its end. -/
def dropPadding : Payload → Payload
  | [] => []
  | byte :: rest =>
    match dropPadding rest with
    | [] => if isPadding byte then [] else [byte]
    | kept => byte :: kept

/-- The place and value of the first byte that is not graphic. -/
def firstNonGraphic? (offset : Nat) : Payload → Option (Nat × UInt8)
  | [] => none
  | byte :: rest =>
    if isGraphic byte then firstNonGraphic? (offset + 1) rest else some (offset, byte)

/-- The text that bytes spell, one ASCII character each. -/
def asciiText (bytes : List UInt8) : String :=
  String.ofList (bytes.map fun byte => Char.ofNat byte.toNat)

/-- The vehicle identification number: graphic characters, then padding. -/
def vin (data : Payload) : Except PayloadError String :=
  match dropPadding data with
  | [] => .error .emptyPayload
  | text =>
    match firstNonGraphic? 0 text with
    | some (offset, byte) => .error (.invalidText offset byte)
    | none => .ok (asciiText text)

end VehicleTelemetry.Decode
