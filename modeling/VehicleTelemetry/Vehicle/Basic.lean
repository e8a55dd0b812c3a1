import VehicleTelemetry.Poll.Poller
import VehicleTelemetry.Poll.Reassembly
import VehicleTelemetry.Vehicle.Config
import VehicleTelemetry.Vehicle.Replies

/-!
One vehicle: chunks of responses go through reassembly and the reply table into the recorder, and
once a second stale signals are reconciled, the session machine is evaluated and what it asks for
is done.

All operations take the time `now` in milliseconds. A request that fails is only reported: the
session goes on as if it had not been made.
-/

namespace VehicleTelemetry

/-- The state of a vehicle, in front of a poller with the responder `ρ`. -/
structure Vehicle (ρ : Type) where
  config : VehicleConfig
  recorder : Recorder
  poller : Poller ρ
  reassembly : Reassembly
  machine : SessionMachine

namespace Vehicle

variable {ρ : Type}

/-- The state of the session. -/
def state (vehicle : Vehicle ρ) : SessionState :=
  vehicle.machine.state

/-- The metrics. -/
def store (vehicle : Vehicle ρ) : MetricStore :=
  vehicle.recorder.store

/-- Changes metrics from outside. -/
def withStore (vehicle : Vehicle ρ) (store : MetricStore) : Vehicle ρ :=
  { vehicle with recorder := { vehicle.recorder with store } }

/-- Writes a metric from outside. -/
def setMetric (vehicle : Vehicle ρ) (now : Nat) (name : String) (value : MetricValue) : Vehicle ρ :=
  vehicle.withStore (vehicle.store.set now name value)

/-- Publishes a state of the session as a metric and to the poller. -/
def publish (vehicle : Vehicle ρ) (now : Nat) (state : SessionState) : Vehicle ρ :=
  { vehicle with
    recorder := vehicle.recorder.setPollState now state.number
    poller := vehicle.poller.choose state.number }

/-- The signals are off to begin with. -/
def initialized (recorder : Recorder) (now : Nat) (chargePortLifetime : Nat) :
    Logged Recorder := do
  let recorder := recorder.setAwake now false
  let recorder ← recorder.setReady now false
  let recorder ← recorder.setChargingDoor now false
  return { recorder with
    store := recorder.store.setLifetime Signal.chargePort (some chargePortLifetime) }

/-- A sleeping vehicle. -/
def create (config : VehicleConfig) (store : MetricStore) (poller : Poller ρ) (now : Nat) :
    Logged (Vehicle ρ) := do
  Logged.report .vehicleCreated
  let recorder ← initialized (Recorder.ofStore store) now config.chargePortLifetime
  let vehicle : Vehicle ρ := {
    config, recorder, poller
    reassembly := Reassembly.empty
    machine := { state := .sleep, margin := config.wakeMargin } }
  let vehicle := vehicle.publish now .sleep
  let vehicle := { vehicle with poller := vehicle.poller.install pollList }
  Logged.report (.pollListInstalled pollList.length)
  return vehicle

/-- A sleeping vehicle, unless a setting is out of range. -/
def create? (config : VehicleConfig) (store : MetricStore) (poller : Poller ρ) (now : Nat) :
    Except VehicleConfig.Refusal (Logged (Vehicle ρ)) :=
  match config.refusal? with
  | some refusal => .error refusal
  | none => .ok (create config store poller now)

/-- Notes activity on the bus. -/
def receiveFrame (vehicle : Vehicle ρ) (now : Nat) : Vehicle ρ :=
  { vehicle with recorder := vehicle.recorder.setAwake now true }

/-- Takes in a part of a response. Gives an outcome once the response is complete. -/
def receiveChunk (vehicle : Vehicle ρ) (now : Nat) (chunk : Chunk) :
    Logged (Vehicle ρ × Option ReplyOutcome) := do
  let (reassembly, complete) ← vehicle.reassembly.receive chunk
  let vehicle := { vehicle with reassembly }
  match complete with
  | none => return (vehicle, none)
  | some payload =>
    Logged.report (.responseComplete chunk.pid payload)
    let reply : Reply := { sender := chunk.sender, pid := chunk.pid, payload, time := now }
    let (recorder, outcome) ← platformTable.dispatch reply vehicle.recorder
    return ({ vehicle with recorder }, some outcome)

/-! ### Requests -/

variable [Responder ρ]

/-- The request for the vehicle identification number. -/
def vinQuery (vehicle : Vehicle ρ) : Query :=
  .read .hybridControl .vin vehicle.config.queryTimeout

/-- The request for the charge mode. -/
def chargeModeQuery (vehicle : Vehicle ρ) : Query :=
  .read .plugInControl .chargingControlStatus vehicle.config.queryTimeout

/-- The request for the charging connector. -/
def chargeTypeQuery (vehicle : Vehicle ρ) : Query :=
  .read .plugInControl .chargingVoltageType vehicle.config.queryTimeout

/-- Asks once for the vehicle identification number and records it. -/
def requestVin (vehicle : Vehicle ρ) (now : Nat) : Logged (Vehicle ρ) := do
  let (answer, poller) ← vehicle.poller.ask vehicle.vinQuery
  let vehicle := { vehicle with poller }
  match answer with
  | .error cause =>
    Logged.report (.vinUnanswered cause)
    return vehicle
  | .ok response =>
    match Decode.vin response with
    | .error cause =>
      Logged.report (.vinRejected cause)
      return vehicle
    | .ok vin =>
      let recorder ← vehicle.recorder.setVin now vin
      return { vehicle with recorder }

/-- Asks for the charge mode and records it. -/
def requestChargeMode (vehicle : Vehicle ρ) (now : Nat) : Logged (Vehicle ρ) := do
  let (answer, poller) ←
    vehicle.poller.retry vehicle.chargeModeQuery vehicle.config.queryAttempts
  let vehicle := { vehicle with poller }
  match answer with
  | .error _ => return vehicle
  | .ok response =>
    match Decode.chargeMode response with
    | .error cause =>
      Logged.report (.chargeModeRejected cause)
      return vehicle
    | .ok mode =>
      let recorder ← vehicle.recorder.setChargeMode now mode
      return { vehicle with recorder }

/-- Asks for the charging connector and records it. -/
def requestChargeType (vehicle : Vehicle ρ) (now : Nat) : Logged (Vehicle ρ) := do
  let (answer, poller) ←
    vehicle.poller.retry vehicle.chargeTypeQuery vehicle.config.queryAttempts
  let vehicle := { vehicle with poller }
  match answer with
  | .error _ => return vehicle
  | .ok response =>
    match Decode.chargeType response with
    | .error cause =>
      Logged.report (.chargeTypeRejected cause)
      return vehicle
    | .ok type =>
      let recorder ← vehicle.recorder.setChargeType now type
      return { vehicle with recorder }

/-! ### Ticks -/

/-- Does what the session machine asks for. -/
def perform (vehicle : Vehicle ρ) (now : Nat) (action : SessionAction) : Logged (Vehicle ρ) := do
  Logged.report (.action action)
  match action with
  | .resetBus =>
    let (outcome, poller) := vehicle.poller.resetBus
    Logged.report (match outcome with
      | .ok () => .busReset
      | .error cause => .busResetFailed cause)
    return { vehicle with poller }
  | .transition source target =>
    Logged.report (.transition source target)
    return vehicle.publish now target
  | .setChargeState state =>
    let recorder ← vehicle.recorder.setChargeState now state
    return { vehicle with recorder }
  | .markTripStart =>
    let recorder ← vehicle.recorder.markTripStart
    return { vehicle with recorder }
  | .requestChargeMode => vehicle.requestChargeMode now
  | .requestChargeType => vehicle.requestChargeType now

/-- Once a second: reconciles stale signals and evaluates the session. -/
def tick (vehicle : Vehicle ρ) (now : Nat) : Logged (Vehicle ρ) := do
  vehicle.recorder.reportCharging
  let recorder ← vehicle.recorder.reconcile now
  let (actions, machine) ← vehicle.machine.step recorder.sessionInputs
  Logged.foldl (fun vehicle action => vehicle.perform now action)
    { vehicle with recorder, machine } actions

/-- Once in a while: asks for the vehicle identification number if it is not known. -/
def slowTick (vehicle : Vehicle ρ) (now : Nat) : Logged (Vehicle ρ) := do
  if vehicle.recorder.vin.isEmpty && vehicle.state == .ready then vehicle.requestVin now
  else return vehicle

end Vehicle

end VehicleTelemetry
