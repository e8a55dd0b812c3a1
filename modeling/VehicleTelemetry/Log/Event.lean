import VehicleTelemetry.Decimal.Layout
import VehicleTelemetry.Energy.Meter
import VehicleTelemetry.Metric.Describe
import VehicleTelemetry.Payload.Error
import VehicleTelemetry.Payload.Values
import VehicleTelemetry.Poll.Query
import VehicleTelemetry.Session.State

/-!
What the library reports while it works: one constructor for each kind of event, with the data that
its message gives. `Event.level` says how severe an event is and `Event.message` words it, so that
no text is built for an event that nobody reads.
-/

namespace VehicleTelemetry

/-- How severe an event is. -/
inductive Level where
  | error
  | warn
  | info
  | debug
  | trace
  deriving DecidableEq, Repr

namespace Level

/-- Zero for the most severe. -/
def rank : Level → Nat
  | error => 0
  | warn => 1
  | info => 2
  | debug => 3
  | trace => 4

/-- The level's name in capitals. -/
def title : Level → String
  | error => "ERROR"
  | warn => "WARN"
  | info => "INFO"
  | debug => "DEBUG"
  | trace => "TRACE"

/-- The level of a name in lower case. -/
def ofName? : String → Option Level
  | "error" => some error
  | "warn" => some warn
  | "info" => some info
  | "debug" => some debug
  | "trace" => some trace
  | _ => none

end Level

/-- The signals that are switched off when they stop being refreshed. -/
inductive ReconciledSignal where
  | awake
  | ready
  | chargingDoor
  | power
  deriving DecidableEq, Repr

/-- Something worth reporting. -/
inductive Event where
  -- Responses in parts
  | responseDiscarded (received expected : Nat) (sender : UInt32)
  | orphanChunk (sender : UInt32)
  | chunkReceived (sender : UInt32) (remaining : Nat)
  | responseComplete (pid : UInt16) (payload : List UInt8)
  -- Requests
  | queryIssued (target : Ecu) (pid : Pid)
  | queryAnswered (pid : Pid) (attempt : Nat)
  | queryRetried (pid : Pid) (cause : PollError) (attempt bound : Nat)
  | queryFailed (pid : Pid) (attempts : Nat) (cause : PollError)
  | vinUnanswered (cause : PollError)
  | vinRejected (cause : PayloadError)
  | chargeModeRejected (cause : PayloadError)
  | chargeTypeRejected (cause : PayloadError)
  -- Metrics
  | storeCreated (lifetimes : Nat)
  | staleSet (name : String) (stale : Bool)
  | metricOverridden (name : String) (value : MetricValue)
  -- Replies
  | unknownSender (sender : UInt32)
  | unsupportedPid (quiet : Bool) (pid : UInt16) (sender : String)
  | replyGated (pid : UInt16) (sender : String) (reason : String)
  | replyRefused (pid : UInt16) (sender : String) (cause : PayloadError)
  -- Readings
  | ambientIgnored (temperature : Float)
  | ambientTemperature (temperature : Float)
  | readyStatus (ready : Bool)
  | gear (position : ShiftPosition)
  | voltage (voltage : Float)
  | current (current : Float)
  | batteryPower (power : Float)
  | socIgnored (soc : Float)
  | soc (soc : Float)
  | batteryChargingPower (power : Float)
  | chargerInputPower (power : Float)
  | chargingDoor (isOpen : Bool)
  | chargingStatus (charging : Bool)
  | pilot (present : Bool)
  | chargeMode (mode : ChargeMode)
  | chargeType (type : ChargeType)
  | chargeState (state : ChargeState)
  | odometer (distance : Float)
  | tripStart (distance : Float)
  | speed (speed : Float)
  | vin (text : String)
  | signalReset (signal : ReconciledSignal)
  | chargingTelemetry (voltage current power outside mean greatest least deviation soc managedSoc
      gridPower : Float)
  -- Energy
  | energySampled (channel : EnergyChannel) (power hours delta : Float)
  | tripEnergyReset
  | chargeEnergyReset
  -- The session
  | auxVoltageHigh (voltage threshold : Float)
  | unexpectedChargeState (text : String)
  | action (action : SessionAction)
  | transition (source target : SessionState)
  | busReset
  | busResetFailed (cause : PollError)
  -- The vehicle and its replay
  | vehicleCreated
  | pollListInstalled (entries : Nat)
  | replayStarted (events : Nat)
  | replayFinished (state : SessionState) (ticks dropped : Nat)

namespace Event

/-- How severe each kind of event is. -/
def level : Event → Level
  | queryFailed .. | busResetFailed .. => .error
  | queryRetried .. | vinUnanswered .. | vinRejected .. | chargeModeRejected ..
  | chargeTypeRejected .. | unknownSender .. | replyRefused .. | unexpectedChargeState .. => .warn
  | unsupportedPid quiet .. => if quiet then .debug else .warn
  | storeCreated .. | chargeState .. | tripStart .. | vin .. | chargingTelemetry ..
  | auxVoltageHigh .. | transition .. | busReset | vehicleCreated | pollListInstalled ..
  | replayStarted .. | replayFinished .. => .info
  | chunkReceived .. | responseComplete .. => .trace
  | _ => .debug

/-- An identifier of the bus, with at least three digits. -/
def busId (id : UInt32) : String := Text.hex 3 id.toNat

/-- A data identifier, with four digits. -/
def dataId (pid : UInt16) : String := Text.hex 4 pid.toNat

/-- A data identifier's name as something that may be missing. -/
def knownName (pid : UInt16) : String :=
  match Pid.ofNumber? pid with
  | some known => "Some(" ++ known.name ++ ")"
  | none => "None"

/-- The wording of each kind of event. -/
def message : Event → String
  | responseDiscarded received expected sender =>
    s!"Discarding {received} of {expected} bytes from " ++ busId sender ++ ": new response started"
  | orphanChunk sender => "Continuation chunk from " ++ busId sender ++ " without a first frame"
  | chunkReceived sender remaining => busId sender ++ s!": {remaining} bytes to go"
  | responseComplete pid payload =>
    "PID " ++ dataId pid ++ ": len=" ++ toString payload.length ++ " " ++ Text.hexBytes payload
  | queryIssued target pid =>
    "Mock query " ++ busId target.requestId ++ " PID " ++ dataId pid.number
  | queryAnswered pid attempt => pid.name ++ s!" answered on attempt {attempt}"
  | queryRetried pid cause attempt bound =>
    pid.name ++ " request failed: " ++ cause.message ++ s!". Retrying ({attempt}/{bound})"
  | queryFailed pid attempts cause =>
    pid.name ++ s!" request failed after {attempts} attempts: " ++ cause.message
  | vinUnanswered cause => "RequestVIN: " ++ cause.message
  | vinRejected cause => "RequestVIN: " ++ cause.message
  | chargeModeRejected cause => "RequestChargeMode: " ++ cause.message
  | chargeTypeRejected cause => "RequestChargeType: " ++ cause.message
  | storeCreated lifetimes =>
    s!"Created in-memory metric store ({lifetimes} auto-stale metrics)"
  | staleSet name stale => name ++ s!" stale={stale}"
  | metricOverridden name value => "Override " ++ name ++ " = " ++ value.describe
  | unknownSender sender => "Unknown module: " ++ busId sender
  | unsupportedPid _ pid sender =>
    "Unsupported PID " ++ dataId pid ++ " (" ++ knownName pid ++ ") from " ++ sender
  | replyGated pid sender reason =>
    "PID " ++ dataId pid ++ " from " ++ sender ++ " dropped: " ++ reason
  | replyRefused pid sender cause =>
    "PID " ++ dataId pid ++ " from " ++ sender ++ ": " ++ cause.message
  | ambientIgnored temperature =>
    "Ignoring invalid temperature value: " ++ Decimal.fixed 1 temperature
  | ambientTemperature temperature => "Ambient temperature: " ++ Decimal.fixed 1 temperature
  | readyStatus ready => "Ready status: " ++ if ready then "Ready" else "Not Ready"
  | gear position => "Gear: " ++ position.name
  | voltage volts => "Voltage: " ++ Decimal.fixed 2 volts
  | current amperes => "Current: " ++ Decimal.fixed 1 amperes
  | batteryPower power => "Battery power: " ++ Decimal.fixed 4 power
  | socIgnored percent => "Ignoring invalid SOC value: " ++ Decimal.fixed 0 percent
  | soc percent => "SOC: " ++ Decimal.fixed 0 percent
  | batteryChargingPower power => "Battery charging power: " ++ Decimal.fixed 2 power
  | chargerInputPower power => "Charger input power: " ++ Decimal.fixed 2 power
  | chargingDoor isOpen => "Charging door: " ++ if isOpen then "Open" else "Closed"
  | chargingStatus charging =>
    "Charging status: " ++ if charging then "Charging" else "Not Charging"
  | pilot present => "Pilot: " ++ if present then "Connected" else "Not Connected"
  | chargeMode mode => "Charge mode: " ++ mode.text
  | chargeType type => "Charge type: " ++ type.text
  | chargeState state => "Charge state: " ++ state.text
  | odometer distance => "Odometer: " ++ Decimal.fixed 1 distance
  | tripStart distance => "Trip start at " ++ Decimal.fixed 1 distance ++ " km"
  | speed kmh => "Speed: " ++ Decimal.fixed 0 kmh
  | vin text => "VIN: " ++ text
  | signalReset .awake => "Awake is stale. Manually setting to off"
  | signalReset .ready => "Ready is stale. Manually setting to off"
  | signalReset .chargingDoor => "Charging door is stale. Manually setting to off"
  | signalReset .power => "Power is stale. Manually setting to zero"
  | chargingTelemetry volts amperes power outside mean greatest least deviation percent managed
      gridPower =>
    String.intercalate ", " [
      Decimal.fixed 0 volts, Decimal.fixed 2 amperes, Decimal.fixed 4 power,
      Decimal.fixed 0 outside, Decimal.fixed 2 mean, Decimal.fixed 2 greatest,
      Decimal.fixed 2 least, Decimal.fixed 2 deviation, Decimal.fixed 0 percent,
      Decimal.fixed 2 managed, Decimal.fixed 4 gridPower]
  | energySampled channel power hours delta =>
    channel.name ++ ": " ++ Decimal.fixed 4 power ++ " kW over " ++ Decimal.fixed 6 hours
      ++ " h = " ++ Decimal.fixed 6 delta ++ " kWh"
  | tripEnergyReset => "Vehicle on: resetting trip energy"
  | chargeEnergyReset => "Charge start: resetting charge energy"
  | auxVoltageHigh volts threshold =>
    "Aux 12V " ++ Decimal.fixed 2 volts ++ " V has exceeded the threshold ("
      ++ Decimal.fixed 2 threshold ++ " V)"
  | unexpectedChargeState text => "Unexpected charge state: " ++ Text.quoted text
  | action request => "Session action: " ++ request.describe
  | transition source target =>
    "Transitioning from the " ++ source.title ++ " to the " ++ target.title ++ " state"
  | busReset => "CAN bus reset successfully"
  | busResetFailed cause => "CAN bus reset failed: " ++ cause.message
  | vehicleCreated => "Toyota e-TNGA platform module"
  | pollListInstalled entries => s!"Installed poll list ({entries} entries)"
  | replayStarted events => s!"Replaying {events} events"
  | replayFinished state ticks dropped =>
    "Replay finished in " ++ state.title ++
      s!" state after {ticks} ticks ({dropped} dropped replies)"

end Event

end VehicleTelemetry
