/-!
The states of a vehicle's session and of its charging.
-/

namespace VehicleTelemetry

/-- What the vehicle is doing; published as a number. -/
inductive SessionState where
  /-- No activity on the bus. -/
  | sleep
  /-- The bus is alive, the vehicle not ready to drive. -/
  | awake
  /-- Ready to drive, or driving. -/
  | ready
  /-- The charging lid is open. -/
  | charging
  deriving DecidableEq, Repr

/-- A vehicle sleeps to begin with. -/
instance : Inhabited SessionState := ⟨.sleep⟩

namespace SessionState

/-- All states, in the order of their numbers. -/
def all : List SessionState := [sleep, awake, ready, charging]

/-- The number that is published, and the column of the poll list. -/
def number : SessionState → UInt8
  | sleep => 0
  | awake => 1
  | ready => 2
  | charging => 3

/-- The state's name. -/
def name : SessionState → String
  | sleep => "Sleep"
  | awake => "Awake"
  | ready => "Ready"
  | charging => "Charging"

/-- The state's name in capitals, as messages give it. -/
def title : SessionState → String
  | sleep => "SLEEP"
  | awake => "AWAKE"
  | ready => "READY"
  | charging => "CHARGING"

end SessionState

/-- How far charging has come; published as a text. -/
inductive ChargeState where
  | doorOpen
  | connected
  | charging
  | done
  deriving DecidableEq, Repr

namespace ChargeState

/-- The text that is published. -/
def text : ChargeState → String
  | doorOpen => "door_open"
  | connected => "connected"
  | charging => "charging"
  | done => "done"

/-- The state's name. -/
def name : ChargeState → String
  | doorOpen => "DoorOpen"
  | connected => "Connected"
  | charging => "Charging"
  | done => "Done"

/-- The state of a published text. -/
def ofText? : String → Option ChargeState
  | "door_open" => some doorOpen
  | "connected" => some connected
  | "charging" => some charging
  | "done" => some done
  | _ => none

/-- Each state is read back from its text. -/
theorem ofText?_text (state : ChargeState) : ofText? state.text = some state := by
  cases state <;> rfl

end ChargeState

/-- What one evaluation of the session asks for. -/
inductive SessionAction where
  /-- Reset the bus controller. -/
  | resetBus
  /-- Publish a change of state. -/
  | transition (source target : SessionState)
  /-- Publish a state of charging. -/
  | setChargeState (state : ChargeState)
  /-- Let the next odometer reading start a new trip. -/
  | markTripStart
  /-- Ask for the charge mode. -/
  | requestChargeMode
  /-- Ask for the charging connector. -/
  | requestChargeType
  deriving DecidableEq, Repr

namespace SessionAction

/-- The action as messages give it. -/
def describe : SessionAction → String
  | resetBus => "ResetBus"
  | transition source target =>
    "Transition \x7b from: " ++ source.name ++ ", to: " ++ target.name ++ " \x7d"
  | setChargeState state => "SetChargeState(" ++ state.name ++ ")"
  | markTripStart => "MarkTripStart"
  | requestChargeMode => "RequestChargeMode"
  | requestChargeType => "RequestChargeType"

end SessionAction

end VehicleTelemetry
