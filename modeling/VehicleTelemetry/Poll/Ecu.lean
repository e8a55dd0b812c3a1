/-!
The control units that answer poll requests on the vehicle bus, and their addresses.
-/

namespace VehicleTelemetry

/-- A control unit on the diagnostic bus. -/
inductive Ecu where
  /-- Battery management: cell temperatures and its own state of charge. -/
  | hybridBattery
  /-- Hybrid control: pack voltage and current, ready signal, shift lever. -/
  | hybridControl
  /-- Plug-in control: charging lid, cable, charging. -/
  | plugInControl
  /-- Powertrain control: odometer, speed, outside temperature. -/
  | powertrain
  deriving DecidableEq, Repr

namespace Ecu

/-- All control units. -/
def all : List Ecu := [hybridBattery, hybridControl, plugInControl, powertrain]

/-- The bus identifier of requests to the unit. -/
def requestId : Ecu → UInt32
  | hybridBattery => 0x747
  | hybridControl => 0x7D2
  | plugInControl => 0x745
  | powertrain => 0x7E2

/-- The bus identifier of the unit's responses, eight above that of the requests. -/
def responseId : Ecu → UInt32
  | hybridBattery => 0x74F
  | hybridControl => 0x7DA
  | plugInControl => 0x74D
  | powertrain => 0x7EA

/-- The unit's short name. -/
def name : Ecu → String
  | hybridBattery => "hybrid-battery"
  | hybridControl => "hybrid-control"
  | plugInControl => "plug-in-control"
  | powertrain => "hpcm"

end Ecu

end VehicleTelemetry
