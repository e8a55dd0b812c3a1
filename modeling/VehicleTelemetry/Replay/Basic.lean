import VehicleTelemetry.Capture.Event
import VehicleTelemetry.Settings.Basic
import VehicleTelemetry.Vehicle.Basic

/-!
Playing a capture to a vehicle.

The clock starts at zero, follows the times of the events and never goes back. The vehicle ticks at
every whole second: all ticks up to the time of an event come before it, and after the last event
one more second passes (`Replay.run`). A slow tick follows the tick at which its time has come.

Times are natural numbers here, so that no sum wraps; `Replay.fits` says whether the schedule has
stayed within the 64 bits of the clock.
-/

namespace VehicleTelemetry

/-- A replay under way. -/
structure Replay where
  vehicle : Vehicle Script
  /-- The time on the clock. -/
  now : Nat
  /-- When the next tick is due. -/
  nextTick : Nat
  /-- How long it is from one slow tick to the next. -/
  slowPeriod : Nat
  /-- From when on the next slow tick is due. -/
  nextSlow : Nat
  /-- How many ticks there have been. -/
  ticks : Nat := 0
  /-- How many complete responses were dropped. -/
  dropped : Nat := 0
  /-- Whether the replay keeps the pace of the capture. -/
  realtime : Bool
  /-- How long the replay has slept. -/
  slept : Nat := 0

namespace Replay

/-- The time between two ticks, in milliseconds. -/
def tickPeriod : Nat := 1000

/-- A replay with a new vehicle, before the first event. -/
def create (settings : Settings) : Logged Replay := do
  let store ← MetricStore.standard
  let vehicle ← Vehicle.create settings.vehicle store ScriptedPoller.empty 0
  return {
    vehicle
    now := 0
    nextTick := tickPeriod
    slowPeriod := settings.slowPeriod
    nextSlow := settings.slowPeriod
    realtime := settings.realtime }

/-- A replay with a new vehicle, unless a setting of the vehicle is out of range. -/
def create? (settings : Settings) : Except VehicleConfig.Refusal (Logged Replay) :=
  match settings.vehicle.refusal? with
  | some refusal => .error refusal
  | none => .ok (create settings)

/-! ### Time -/

/-- Moves the clock forward, and sleeps meanwhile if the replay keeps the pace. -/
def moveTo (replay : Replay) (time : Nat) : Replay :=
  { replay with
    now := max replay.now time
    slept := if replay.realtime then replay.slept + (time - replay.now) else replay.slept }

/-- Makes the next tick. The time of the next slow tick stays within the clock. -/
def fire (replay : Replay) : Logged Replay := do
  let time := replay.nextTick
  let vehicle ← replay.vehicle.tick time
  let replay := { replay.moveTo time with
    vehicle
    ticks := replay.ticks + 1
    nextTick := time + tickPeriod }
  if replay.nextSlow ≤ time then
    let vehicle ← replay.vehicle.slowTick time
    return { replay with
      vehicle
      nextSlow := min (replay.nextSlow + replay.slowPeriod) (Clock.period - 1) }
  else return replay

/-- How many ticks are due up to a time. -/
def due (replay : Replay) (time : Nat) : Nat :=
  if time < replay.nextTick then 0 else (time - replay.nextTick) / tickPeriod + 1

/-- Makes all ticks that are due up to a time and moves the clock there. -/
def advance (replay : Replay) (time : Nat) : Logged Replay := do
  let replay ← Logged.iterate fire (replay.due time) replay
  return replay.moveTo time

/-! ### Events -/

/-- The answer that a captured query prepares. -/
def captured : Option (List UInt8) → Except PollError Payload
  | some bytes => .ok bytes
  | none => .error (.bus "no response in capture")

/-- Hands an event to the vehicle. -/
def apply (replay : Replay) (event : CaptureEvent) : Logged Replay := do
  match event with
  | .frame _ => return { replay with vehicle := replay.vehicle.receiveFrame replay.now }
  | .chunk _ chunk =>
    let (vehicle, outcome) ← replay.vehicle.receiveChunk replay.now chunk
    return { replay with
      vehicle
      dropped := if outcome.any ReplyOutcome.isDropped then replay.dropped + 1 else replay.dropped }
  | .metric _ name value =>
    Logged.report (.metricOverridden name value)
    return { replay with vehicle := replay.vehicle.setMetric replay.now name value }
  | .query _ pid data =>
    let poller := ScriptedPoller.push replay.vehicle.poller pid (captured data)
    return { replay with vehicle := { replay.vehicle with poller } }

/-- Advances to the time of an event and hands it to the vehicle. -/
def step (replay : Replay) (event : CaptureEvent) : Logged Replay := do
  let replay ← replay.advance event.time
  replay.apply event

/-- Plays events, and lets one more second pass so that the last ones take effect. -/
def run (replay : Replay) (events : List CaptureEvent) : Logged Replay := do
  Logged.report (.replayStarted events.length)
  let replay ← Logged.foldl step replay events
  let replay ← replay.advance (replay.now + tickPeriod)
  Logged.report (.replayFinished replay.vehicle.state replay.ticks replay.dropped)
  return replay

/-- Whether the schedule has stayed within the clock. -/
def fits (replay : Replay) : Bool :=
  replay.nextTick < Clock.period

end Replay

end VehicleTelemetry
