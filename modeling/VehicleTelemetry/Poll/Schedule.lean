import VehicleTelemetry.Poll.Query

/-!
The periodic polls: which unit is asked for which identifier how often, for each number of a session
state. An interval of zero seconds means that the identifier is not polled in that state.
-/

namespace VehicleTelemetry

/-- A periodic request. -/
structure PollEntry where
  ecu : Ecu
  kind : QueryKind
  pid : Pid
  /-- Seconds between two requests, for each session state in turn. -/
  intervals : List Nat
  addressing : Addressing
  deriving DecidableEq, Repr

namespace PollEntry

/-- Reading one identifier, with the intervals asleep, awake, ready and charging. -/
def read (ecu : Ecu) (pid : Pid) (asleep awake ready charging : Nat) : PollEntry where
  ecu
  kind := .readData
  pid
  intervals := [asleep, awake, ready, charging]
  addressing := .standard

/-- The seconds between two requests in a state; none if there is no request. -/
def interval? (entry : PollEntry) (state : Nat) : Option Nat :=
  entry.intervals[state]?.filter (0 < ·)

end PollEntry

/-- The polls of the platform's control units. -/
def pollList : List PollEntry := [
  .read .hybridControl .readySignal 0 1 1 0,
  .read .plugInControl .chargingLid 0 1 0 1,
  .read .hybridControl .batteryVoltageAndCurrent 0 1 1 1,
  .read .powertrain .odometer 0 0 1 0,
  .read .powertrain .vehicleSpeed 0 0 1 0,
  .read .powertrain .ambientTemperature 0 60 60 60,
  .read .hybridBattery .batteryTemperatures 0 60 60 60,
  .read .hybridControl .shiftPosition 0 0 15 0,
  .read .plugInControl .batterySoc 0 1 1 1,
  .read .plugInControl .piswStatus 0 0 0 1,
  .read .plugInControl .charging 0 0 0 1,
  .read .plugInControl .batteryChargingPower 0 0 0 1,
  .read .plugInControl .chargerInputPower 0 0 0 1,
  .read .hybridBattery .batterySocBms 0 1 1 1]

end VehicleTelemetry
