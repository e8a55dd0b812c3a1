/-!
The data identifiers that the control units are asked for, with their numbers and names.
-/

namespace VehicleTelemetry

/-- A known two-byte data identifier. -/
inductive Pid where
  | ambientTemperature
  | batteryChargingPower
  | batteryCoolantTemperature
  | batteryHeaterStatus
  | batteryHeaterTemperature
  | batteryTemperatures
  | batterySoc
  | batterySocBms
  | batteryWaterPumpSpeed
  | batteryVoltageAndCurrent
  | charging
  | chargingControlStatus
  | chargingLid
  | chargingVoltageType
  | odometer
  | piswStatus
  | readySignal
  | shiftPosition
  | vehicleSpeed
  | vin
  | chargerInputPower
  | acInputCurrent
  | dcChargerPresentCurrent
  | dcChargerPresentVoltage
  deriving DecidableEq, Repr

namespace Pid

/-- The number of an identifier. -/
def number : Pid → UInt16
  | ambientTemperature => 0x1F46
  | batteryChargingPower => 0x10D4
  | batteryCoolantTemperature => 0x1848
  | batteryHeaterStatus => 0x2806
  | batteryHeaterTemperature => 0x1824
  | batteryTemperatures => 0x1814
  | batterySoc => 0x1738
  | batterySocBms => 0x1F5B
  | batteryWaterPumpSpeed => 0x110E
  | batteryVoltageAndCurrent => 0x1F9A
  | charging => 0x10D1
  | chargingControlStatus => 0x1668
  | chargingLid => 0x1625
  | chargingVoltageType => 0x161C
  | odometer => 0x1FA6
  | piswStatus => 0x1669
  | readySignal => 0x1076
  | shiftPosition => 0x1061
  | vehicleSpeed => 0x1F0D
  | vin => 0xF190
  | chargerInputPower => 0x161D
  | acInputCurrent => 0x1654
  | dcChargerPresentCurrent => 0x166C
  | dcChargerPresentVoltage => 0x166B

/-- The name of an identifier. -/
def name : Pid → String
  | ambientTemperature => "AmbientTemperature"
  | batteryChargingPower => "BatteryChargingPower"
  | batteryCoolantTemperature => "BatteryCoolantTemperature"
  | batteryHeaterStatus => "BatteryHeaterStatus"
  | batteryHeaterTemperature => "BatteryHeaterTemperature"
  | batteryTemperatures => "BatteryTemperatures"
  | batterySoc => "BatterySoc"
  | batterySocBms => "BatterySocBms"
  | batteryWaterPumpSpeed => "BatteryWaterPumpSpeed"
  | batteryVoltageAndCurrent => "BatteryVoltageAndCurrent"
  | charging => "Charging"
  | chargingControlStatus => "ChargingControlStatus"
  | chargingLid => "ChargingLid"
  | chargingVoltageType => "ChargingVoltageType"
  | odometer => "Odometer"
  | piswStatus => "PiswStatus"
  | readySignal => "ReadySignal"
  | shiftPosition => "ShiftPosition"
  | vehicleSpeed => "VehicleSpeed"
  | vin => "Vin"
  | chargerInputPower => "ChargerInputPower"
  | acInputCurrent => "AcInputCurrent"
  | dcChargerPresentCurrent => "DcChargerPresentCurrent"
  | dcChargerPresentVoltage => "DcChargerPresentVoltage"

/-- All identifiers. -/
def all : List Pid := [
  ambientTemperature, batteryChargingPower, batteryCoolantTemperature, batteryHeaterStatus,
  batteryHeaterTemperature, batteryTemperatures, batterySoc, batterySocBms,
  batteryWaterPumpSpeed, batteryVoltageAndCurrent, charging, chargingControlStatus,
  chargingLid, chargingVoltageType, odometer, piswStatus,
  readySignal, shiftPosition, vehicleSpeed, vin,
  chargerInputPower, acInputCurrent, dcChargerPresentCurrent, dcChargerPresentVoltage]

/-- The identifier of a number, if it is known. -/
def ofNumber? (number : UInt16) : Option Pid :=
  all.find? (·.number == number)

/-- The identifier of a name. -/
def ofName? (name : String) : Option Pid :=
  all.find? (·.name == name)

/-- The list of all identifiers lacks none. -/
theorem mem_all (pid : Pid) : pid ∈ all := by
  cases pid <;> decide

/-- No two identifiers share a number. -/
theorem ofNumber?_number (pid : Pid) : ofNumber? pid.number = some pid := by
  cases pid <;> rfl

theorem number_injective {pid other : Pid} (h : pid.number = other.number) : pid = other := by
  have hpid := ofNumber?_number pid
  rw [h, ofNumber?_number] at hpid
  exact (Option.some.inj hpid).symm

end Pid

end VehicleTelemetry
