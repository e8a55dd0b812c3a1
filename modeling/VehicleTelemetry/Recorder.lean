import VehicleTelemetry.Energy.Sampling
import VehicleTelemetry.Metric.Store
import VehicleTelemetry.Payload.Decode
import VehicleTelemetry.Session.Machine

/-!
The recorder writes decoded readings into the metric store, one operation for each quantity, and
counts energy on the way.

* An outside temperature that stands for "no reading" and a state of charge that drops from above
  one percent to exactly zero are not believed.
* When the vehicle gets ready, the energy of the trip is counted anew; when charging begins, all
  energy is (`setReady`, `setChargingStatus`).
* The distance of a trip is counted from a baseline. The first odometer reading after the baseline
  has become stale is the new one (`setOdometer`).
* Signals that stopped being refreshed while they were on are switched off (`reconcile`).

All operations take the time `now` in milliseconds.
-/

namespace VehicleTelemetry

/-- The metric store with the energy meter. -/
structure Recorder where
  store : MetricStore
  meter : EnergyMeter Float

namespace Recorder

/-- A recorder that has counted no energy yet. -/
def ofStore (store : MetricStore) : Recorder :=
  ⟨store, EnergyMeter.empty⟩

/-- Writes a metric. -/
def put (recorder : Recorder) (now : Nat) (name : String) (value : MetricValue) : Recorder :=
  { recorder with store := recorder.store.set now name value }

/-- Counts a power sample. -/
def sample (recorder : Recorder) (now : Nat) (channel : EnergyChannel) (power : Float) :
    Logged Recorder := do
  let (meter, _) ← recorder.meter.integrate channel power now
  return { recorder with meter }

/-- Counts a channel anew. -/
def resetEnergy (recorder : Recorder) (channel : EnergyChannel) : Recorder :=
  { recorder with meter := recorder.meter.reset channel }

/-- Publishes the energy out of and into the pack. -/
def putBatteryEnergy (recorder : Recorder) (now : Nat) : Recorder :=
  let totals := recorder.meter.totals
  (recorder.put now Signal.energyUsed (.float totals.used)).put now
    Signal.energyRecovered (.float totals.recovered)

/-- Publishes that no energy has gone out of and into the pack. -/
def clearBatteryEnergy (recorder : Recorder) (now : Nat) : Recorder :=
  (recorder.put now Signal.energyUsed (.float 0.0)).put now
    Signal.energyRecovered (.float 0.0)

/-! ### Environment -/

/-- Records the outside temperature. Gives false if it stands for "no reading". -/
def setAmbientTemperature (recorder : Recorder) (now : Nat) (temperature : Float) :
    Logged (Recorder × Bool) := do
  if Decode.isAmbientSentinel temperature then
    Logged.report (.ambientIgnored temperature)
    return (recorder, false)
  else
    Logged.report (.ambientTemperature temperature)
    return (recorder.put now Signal.outsideTemperature (.float temperature), true)

/-- Records whether there is activity on the bus. -/
def setAwake (recorder : Recorder) (now : Nat) (awake : Bool) : Recorder :=
  recorder.put now Signal.awake (.bool awake)

/-- Counts the energy of the pack anew. -/
def startTrip (recorder : Recorder) (now : Nat) : Logged Recorder := do
  Logged.report .tripEnergyReset
  return (recorder.resetEnergy .battery).clearBatteryEnergy now

/-- Records whether the vehicle is ready to drive. Getting ready starts a trip. -/
def setReady (recorder : Recorder) (now : Nat) (ready : Bool) : Logged Recorder := do
  Logged.report (.readyStatus ready)
  let wasReady := recorder.store.bool Signal.on
  let recorder := recorder.put now Signal.on (.bool ready)
  if ready && !wasReady then recorder.startTrip now else return recorder

/-- Records the gear. -/
def setShiftPosition (recorder : Recorder) (now : Nat) (position : ShiftPosition) :
    Logged Recorder := do
  Logged.report (.gear position)
  return recorder.put now Signal.gear (.int position.gear)

/-! ### Battery -/

/-- Records the pack's voltage. -/
def setBatteryVoltage (recorder : Recorder) (now : Nat) (voltage : Float) : Logged Recorder := do
  Logged.report (.voltage voltage)
  return recorder.put now Signal.batteryVoltage (.float voltage)

/-- Records the pack's current. -/
def setBatteryCurrent (recorder : Recorder) (now : Nat) (current : Float) : Logged Recorder := do
  Logged.report (.current current)
  return recorder.put now Signal.batteryCurrent (.float current)

/-- Records the pack's power and counts its energy. -/
def setBatteryPower (recorder : Recorder) (now : Nat) (power : Float) : Logged Recorder := do
  Logged.report (.batteryPower power)
  let recorder := recorder.put now Signal.batteryPower (.float power)
  let recorder ← recorder.sample now .battery power
  return recorder.putBatteryEnergy now

/-- Records the state of charge. Gives false for a zero that is not believed. -/
def setBatterySoc (recorder : Recorder) (now : Nat) (soc : Float) : Logged (Recorder × Bool) := do
  if soc == 0.0 && recorder.store.float Signal.batterySoc > 1.0 then
    Logged.report (.socIgnored soc)
    return (recorder, false)
  else
    Logged.report (.soc soc)
    return (recorder.put now Signal.batterySoc (.float soc), true)

/-- Records the battery's temperatures and their statistics. The lowest one stands for all. -/
def setBatteryTemperatures (recorder : Recorder) (now : Nat) (sensors : List Float)
    (statistics : Statistics) : Recorder :=
  let recorder := recorder.put now Signal.cellTemperatures (.floats sensors)
  let recorder := recorder.put now Signal.packTemperatureLeast (.float statistics.least)
  let recorder := recorder.put now Signal.packTemperatureGreatest (.float statistics.greatest)
  let recorder := recorder.put now Signal.packTemperatureMean (.float statistics.mean)
  let recorder := recorder.put now Signal.packTemperatureDeviation (.float statistics.deviation)
  recorder.put now Signal.batteryTemperature (.float statistics.least)

/-! ### Charging -/

/-- Counts the power into the battery. -/
def setBatteryChargingPower (recorder : Recorder) (now : Nat) (power : Float) :
    Logged Recorder := do
  Logged.report (.batteryChargingPower power)
  let recorder ← recorder.sample now .charger power
  return recorder.put now Signal.chargeEnergy (.float recorder.meter.totals.charger)

/-- Records and counts the power that the charger draws. -/
def setChargerInputPower (recorder : Recorder) (now : Nat) (power : Float) :
    Logged Recorder := do
  Logged.report (.chargerInputPower power)
  let recorder := recorder.put now Signal.chargePower (.float power)
  let recorder ← recorder.sample now .grid power
  return recorder.put now Signal.gridEnergy (.float recorder.meter.totals.grid)

/-- Records whether the charging lid is open. -/
def setChargingDoor (recorder : Recorder) (now : Nat) (isOpen : Bool) : Logged Recorder := do
  Logged.report (.chargingDoor isOpen)
  return recorder.put now Signal.chargePort (.bool isOpen)

/-- Counts all energy anew. -/
def startCharge (recorder : Recorder) (now : Nat) : Logged Recorder := do
  Logged.report .chargeEnergyReset
  let recorder := EnergyChannel.all.foldl resetEnergy recorder
  let recorder := recorder.clearBatteryEnergy now
  let recorder := recorder.put now Signal.chargeEnergy (.float 0.0)
  return recorder.put now Signal.gridEnergy (.float 0.0)

/-- Records whether the vehicle charges. The beginning starts a charge. -/
def setChargingStatus (recorder : Recorder) (now : Nat) (charging : Bool) :
    Logged Recorder := do
  Logged.report (.chargingStatus charging)
  let wasCharging := recorder.store.bool Signal.chargeInProgress
  let recorder := recorder.put now Signal.chargeInProgress (.bool charging)
  if charging && !wasCharging then recorder.startCharge now else return recorder

/-- Records whether a charging cable is plugged in. -/
def setPilot (recorder : Recorder) (now : Nat) (present : Bool) : Logged Recorder := do
  Logged.report (.pilot present)
  return recorder.put now Signal.pilot (.bool present)

/-- Records the charge mode. -/
def setChargeMode (recorder : Recorder) (now : Nat) (mode : ChargeMode) : Logged Recorder := do
  Logged.report (.chargeMode mode)
  return recorder.put now Signal.chargeMode (.text mode.text)

/-- Records the charging connector. -/
def setChargeType (recorder : Recorder) (now : Nat) (type : ChargeType) : Logged Recorder := do
  Logged.report (.chargeType type)
  return recorder.put now Signal.chargeType (.text type.text)

/-- Records the state of charging. -/
def setChargeState (recorder : Recorder) (now : Nat) (state : ChargeState) :
    Logged Recorder := do
  Logged.report (.chargeState state)
  return recorder.put now Signal.chargeState (.text state.text)

/-- The recorded state of charging, which may be any text. -/
def chargeState (recorder : Recorder) : String :=
  recorder.store.text Signal.chargeState

/-- Whether the vehicle charges as far as is known. -/
def chargingInProgress (recorder : Recorder) : Bool :=
  recorder.store.bool Signal.chargeInProgress

/-! ### Position and identity -/

/-- Records the distance driven, and the distance of the trip. -/
def setOdometer (recorder : Recorder) (now : Nat) (odometer : Float) : Logged Recorder := do
  Logged.report (.odometer odometer)
  let recorder := recorder.put now Signal.odometer (.float odometer)
  let recorder ← if recorder.store.isStale now Signal.tripStart then do
      Logged.report (.tripStart odometer)
      pure (recorder.put now Signal.tripStart (.float odometer))
    else pure recorder
  let trip := odometer - recorder.store.float Signal.tripStart
  return recorder.put now Signal.trip (.float trip)

/-- Makes the next odometer reading the baseline of a new trip. -/
def markTripStart (recorder : Recorder) : Logged Recorder := do
  let store ← recorder.store.setStale Signal.tripStart true
  return { recorder with store }

/-- Records the speed. -/
def setSpeed (recorder : Recorder) (now : Nat) (speed : Float) : Logged Recorder := do
  Logged.report (.speed speed)
  return recorder.put now Signal.speed (.float speed)

/-- Records the vehicle identification number. -/
def setVin (recorder : Recorder) (now : Nat) (vin : String) : Logged Recorder := do
  Logged.report (.vin vin)
  return recorder.put now Signal.vin (.text vin)

/-- The recorded vehicle identification number; empty if there is none. -/
def vin (recorder : Recorder) : String :=
  recorder.store.text Signal.vin

/-- Publishes the number of a session state. -/
def setPollState (recorder : Recorder) (now : Nat) (state : UInt8) : Recorder :=
  recorder.put now Signal.pollState (.int (Int64.ofNat state.toNat))

/-! ### The session -/

/-- Switches off the bus activity if it is on and stale. -/
def reconcileAwake (recorder : Recorder) (now : Nat) : Logged Recorder := do
  if recorder.store.isStale now Signal.awake && recorder.store.bool Signal.awake then
    Logged.report (.signalReset .awake)
    return recorder.setAwake now false
  else return recorder

/-- Switches off the readiness if it is on and stale. -/
def reconcileReady (recorder : Recorder) (now : Nat) : Logged Recorder := do
  if recorder.store.isStale now Signal.on && recorder.store.bool Signal.on then
    Logged.report (.signalReset .ready)
    recorder.setReady now false
  else return recorder

/-- Closes the charging lid if it is open and stale. -/
def reconcileChargingDoor (recorder : Recorder) (now : Nat) : Logged Recorder := do
  if recorder.store.isStale now Signal.chargePort && recorder.store.bool Signal.chargePort then
    Logged.report (.signalReset .chargingDoor)
    recorder.setChargingDoor now false
  else return recorder

/-- Sets the pack's current and power to zero if the power is not zero and stale. -/
def reconcilePower (recorder : Recorder) (now : Nat) : Logged Recorder := do
  if recorder.store.isStale now Signal.batteryPower &&
      recorder.store.float Signal.batteryPower != 0.0 then
    Logged.report (.signalReset .power)
    let recorder ← recorder.setBatteryCurrent now 0.0
    recorder.setBatteryPower now 0.0
  else return recorder

/-- Switches off every signal that stopped being refreshed. -/
def reconcile (recorder : Recorder) (now : Nat) : Logged Recorder := do
  let recorder ← recorder.reconcileAwake now
  let recorder ← recorder.reconcileReady now
  let recorder ← recorder.reconcileChargingDoor now
  recorder.reconcilePower now

/-- The signals that the session machine looks at. -/
def sessionInputs (recorder : Recorder) : SessionInputs where
  awake := recorder.store.bool Signal.awake
  vehicleOn := recorder.store.bool Signal.on
  chargePortOpen := recorder.store.bool Signal.chargePort
  pilotPresent := recorder.store.bool Signal.pilot
  chargingInProgress := recorder.store.bool Signal.chargeInProgress
  chargeState := recorder.store.text Signal.chargeState
  auxVoltage := recorder.store.float Signal.auxVoltage
  auxVoltageReference := recorder.store.float Signal.auxVoltageReference

/-- Reports the charging in figures, while there is any. -/
def reportCharging (recorder : Recorder) : Logged Unit := do
  if recorder.chargingInProgress then
    let reading := recorder.store.float
    Logged.report (.chargingTelemetry
      (reading Signal.batteryVoltage) (reading Signal.batteryCurrent) (reading Signal.batteryPower)
      (reading Signal.outsideTemperature) (reading Signal.packTemperatureMean)
      (reading Signal.packTemperatureGreatest) (reading Signal.packTemperatureLeast)
      (reading Signal.packTemperatureDeviation) (reading Signal.batterySoc)
      (reading Signal.managedSoc) (reading Signal.chargePower))

end Recorder

end VehicleTelemetry
