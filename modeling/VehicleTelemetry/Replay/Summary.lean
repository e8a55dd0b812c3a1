import VehicleTelemetry.Json.Printer
import VehicleTelemetry.Metric.Text
import VehicleTelemetry.Replay.Basic

/-!
What a replay has come to, and its text: a JSON object with one item a line.
-/

namespace VehicleTelemetry

/-- The result of a replay. -/
structure ReplaySummary where
  /-- How many events were played. -/
  events : Nat
  /-- How many ticks there were. -/
  ticks : Nat
  /-- How many complete responses were dropped. -/
  dropped : Nat
  /-- The state of the session at the end. -/
  state : SessionState
  /-- The metrics that hold a value at the end, in the order of their names. -/
  metrics : List (String × MetricValue)
  deriving DecidableEq

/-- The result of a finished replay of a number of events. -/
def Replay.summary (replay : Replay) (events : Nat) : ReplaySummary where
  events
  ticks := replay.ticks
  dropped := replay.dropped
  state := replay.vehicle.state
  metrics := replay.vehicle.store.snapshot

namespace ReplaySummary

/-- The JSON value of a result. -/
def toJson (summary : ReplaySummary) : Json :=
  .object [
    ("events", .int summary.events),
    ("ticks", .int summary.ticks),
    ("dropped_replies", .int summary.dropped),
    ("final_state", .string summary.state.name),
    ("metrics", .object (summary.metrics.map fun (name, value) => (name, value.toJson)))]

/-- The text of a result. -/
def text (summary : ReplaySummary) : String :=
  summary.toJson.pretty

end ReplaySummary

end VehicleTelemetry
