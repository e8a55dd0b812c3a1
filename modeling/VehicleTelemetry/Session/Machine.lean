import VehicleTelemetry.Log.Logged

/-!
The session machine: asleep, awake, ready to drive, charging.

Once a second it looks at the signals and says what is to be done; it changes nothing but its own
state. From sleep it wakes when there is activity on the bus, or when the auxiliary battery's
voltage exceeds its reference by a margin, since then something charges it. While it charges, the
published state of charging leads from the open charging lid over the connected cable to charging
and back; any text that is none of these three starts again at the open lid.
-/

namespace VehicleTelemetry

/-- The signals that the machine looks at. -/
structure SessionInputs where
  /-- Whether there was activity on the bus. -/
  awake : Bool := false
  /-- Whether the vehicle is ready to drive. -/
  vehicleOn : Bool := false
  chargePortOpen : Bool := false
  /-- Whether a charging cable is plugged in. -/
  pilotPresent : Bool := false
  chargingInProgress : Bool := false
  /-- The published state of charging, which may be any text. -/
  chargeState : String := ""
  auxVoltage : Float := 0.0
  /-- The auxiliary battery's voltage at rest. -/
  auxVoltageReference : Float := 0.0
  deriving DecidableEq

/-- The machine's state and its one setting. -/
structure SessionMachine where
  state : SessionState
  /-- How far the auxiliary voltage has to exceed its reference. -/
  margin : Float
  deriving DecidableEq

namespace SessionMachine

/-- What is to be done when a state is entered. -/
def entryActions (source target : SessionState) : List SessionAction :=
  match target with
  | .charging => [.setChargeState .doorOpen, .transition source target]
  | .ready => [.transition source target, .markTripStart]
  | .sleep | .awake => [.transition source target]

/-- Enters a state. -/
def enter (machine : SessionMachine) (target : SessionState) :
    List SessionAction × SessionMachine :=
  (entryActions machine.state target, { machine with state := target })

/-- The voltage above which the auxiliary battery is being charged. -/
def threshold (machine : SessionMachine) (inputs : SessionInputs) : Float :=
  inputs.auxVoltageReference + machine.margin

/-- One evaluation while charging. -/
def stepCharging (machine : SessionMachine) (inputs : SessionInputs) :
    Logged (List SessionAction × SessionMachine) := do
  match ChargeState.ofText? inputs.chargeState with
  | some .doorOpen =>
    if inputs.pilotPresent then return ([.setChargeState .connected], machine)
    else if inputs.chargePortOpen then return ([], machine)
    else return machine.enter .awake
  | some .connected =>
    if inputs.chargingInProgress then
      return ([.setChargeState .charging, .requestChargeMode, .requestChargeType], machine)
    else if inputs.pilotPresent then return ([], machine)
    else return ([.setChargeState .doorOpen], machine)
  | some .charging =>
    if inputs.chargingInProgress then return ([], machine)
    else return ([.setChargeState .connected], machine)
  | some .done | none =>
    Logged.report (.unexpectedChargeState inputs.chargeState)
    return ([.setChargeState .doorOpen], machine)

/-- One evaluation: what is to be done, in order, and the machine after it. -/
def step (machine : SessionMachine) (inputs : SessionInputs) :
    Logged (List SessionAction × SessionMachine) := do
  match machine.state with
  | .sleep =>
    if inputs.awake then return machine.enter .awake
    else if inputs.auxVoltage > machine.threshold inputs then
      Logged.report (.auxVoltageHigh inputs.auxVoltage (machine.threshold inputs))
      let (actions, machine) := machine.enter .awake
      return (.resetBus :: actions, machine)
    else return ([], machine)
  | .awake =>
    if !inputs.awake then return machine.enter .sleep
    else if inputs.vehicleOn then return machine.enter .ready
    else if inputs.chargePortOpen && ChargeState.ofText? inputs.chargeState != some .done then
      return machine.enter .charging
    else return ([], machine)
  | .ready =>
    if inputs.vehicleOn then return ([], machine) else return machine.enter .awake
  | .charging => machine.stepCharging inputs

end SessionMachine

end VehicleTelemetry
