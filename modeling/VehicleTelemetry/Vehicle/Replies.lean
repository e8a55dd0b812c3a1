import VehicleTelemetry.Recorder
import VehicleTelemetry.Reply.Table
import VehicleTelemetry.Poll.Ecu
import VehicleTelemetry.Poll.Pid

/-!
What the platform's control units report, and how each report is recorded.

Every action decodes its whole payload before it records anything, so that a payload that is refused
leaves no trace. Power into the battery and power from the grid count only while the vehicle
charges.
-/

namespace VehicleTelemetry

namespace ReplyAction

/-- An action that records what it decodes. -/
def recording {α : Type} (decode : Payload → Except PayloadError α)
    (record : Recorder → Nat → α → Logged Recorder) : DecodeAction Recorder :=
  fun time payload recorder => do
    match decode payload with
    | .error cause => return (recorder, .error cause)
    | .ok reading =>
      let recorder ← record recorder time reading
      return (recorder, .ok .applied)

/-- An action whose record says whether the reading is valid; `reason` tells why not. -/
def checking {α : Type} (decode : Payload → Except PayloadError α)
    (record : Recorder → Nat → α → Logged (Recorder × Bool)) (reason : String) :
    DecodeAction Recorder :=
  fun time payload recorder => do
    match decode payload with
    | .error cause => return (recorder, .error cause)
    | .ok reading =>
      let (recorder, valid) ← record recorder time reading
      return (recorder, .ok (if valid then .applied else .gated reason))

/-- Records only while the vehicle charges. -/
def whileCharging {α : Type} (record : Recorder → Nat → α → Logged Recorder) (recorder : Recorder)
    (time : Nat) (reading : α) : Logged (Recorder × Bool) := do
  if recorder.chargingInProgress then
    let recorder ← record recorder time reading
    return (recorder, true)
  else return (recorder, false)

/-- Records the pack's voltage, current and power. -/
def recordPack (recorder : Recorder) (time : Nat) (reading : Decode.PackReading) :
    Logged Recorder := do
  let recorder ← recorder.setBatteryVoltage time reading.voltage
  let recorder ← recorder.setBatteryCurrent time reading.current
  recorder.setBatteryPower time reading.power

/-- Records the battery's temperatures. -/
def recordTemperatures (recorder : Recorder) (time : Nat) (reading : Decode.BatteryTemperatures) :
    Logged Recorder :=
  return recorder.setBatteryTemperatures time reading.sensors reading.statistics

/-- The pack's voltage, current and power. -/
def packReading : DecodeAction Recorder := recording Decode.packReading recordPack

/-- Whether the vehicle is ready to drive. -/
def ready : DecodeAction Recorder := recording Decode.ready Recorder.setReady

/-- The gear. -/
def shiftPosition : DecodeAction Recorder :=
  recording Decode.shiftPosition Recorder.setShiftPosition

/-- Whether the charging lid is open. -/
def chargingLid : DecodeAction Recorder :=
  recording Decode.chargingDoorOpen Recorder.setChargingDoor

/-- The state of charge. -/
def batterySoc : DecodeAction Recorder :=
  checking Decode.batterySoc Recorder.setBatterySoc "zero SOC after a valid reading"

/-- Whether a charging cable is plugged in. -/
def pilot : DecodeAction Recorder := recording Decode.pilotPresent Recorder.setPilot

/-- Whether the vehicle charges. -/
def charging : DecodeAction Recorder :=
  recording Decode.chargingInProgress Recorder.setChargingStatus

/-- The power into the battery. -/
def batteryChargingPower : DecodeAction Recorder :=
  checking Decode.batteryChargingPower (whileCharging Recorder.setBatteryChargingPower)
    "not charging"

/-- The power that the charger draws. -/
def chargerInputPower : DecodeAction Recorder :=
  checking Decode.chargerInputPower (whileCharging Recorder.setChargerInputPower) "not charging"

/-- The battery's temperatures. -/
def batteryTemperatures : DecodeAction Recorder :=
  recording Decode.batteryTemperatures recordTemperatures

/-- The distance driven. -/
def odometer : DecodeAction Recorder := recording Decode.odometer Recorder.setOdometer

/-- The speed. -/
def vehicleSpeed : DecodeAction Recorder := recording Decode.vehicleSpeed Recorder.setSpeed

/-- The outside temperature. -/
def ambientTemperature : DecodeAction Recorder :=
  checking Decode.ambientTemperature Recorder.setAmbientTemperature "no ambient reading"

end ReplyAction

/-- Names a control unit and sets its actions. -/
def ReplyTable.registerEcu (table : ReplyTable Recorder) (ecu : Ecu)
    (actions : List (Pid × DecodeAction Recorder)) : ReplyTable Recorder :=
  table.register ecu.responseId ecu.name fun handler =>
    actions.foldl (fun handler (pid, action) => handler.on pid.number action) handler

/-- The table of the platform. The powertrain control answers many requests that nobody made. -/
def platformTable : ReplyTable Recorder :=
  let table := ReplyTable.empty
    |>.registerEcu .hybridControl [
      (.batteryVoltageAndCurrent, ReplyAction.packReading),
      (.readySignal, ReplyAction.ready),
      (.shiftPosition, ReplyAction.shiftPosition)]
    |>.registerEcu .plugInControl [
      (.chargingLid, ReplyAction.chargingLid),
      (.batterySoc, ReplyAction.batterySoc),
      (.piswStatus, ReplyAction.pilot),
      (.charging, ReplyAction.charging),
      (.batteryChargingPower, ReplyAction.batteryChargingPower),
      (.chargerInputPower, ReplyAction.chargerInputPower)]
    |>.registerEcu .hybridBattery [
      (.batteryTemperatures, ReplyAction.batteryTemperatures)]
    |>.registerEcu .powertrain [
      (.odometer, ReplyAction.odometer),
      (.vehicleSpeed, ReplyAction.vehicleSpeed),
      (.ambientTemperature, ReplyAction.ambientTemperature)]
  table.register Ecu.powertrain.responseId Ecu.powertrain.name ReplyHandler.silence

end VehicleTelemetry
