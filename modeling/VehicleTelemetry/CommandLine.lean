import VehicleTelemetry.Capture.File
import VehicleTelemetry.Replay.Summary
import VehicleTelemetry.Settings.Load

/-!
The command `etnga-replay [settings]`: loads the settings, then the capture that they name, plays it
and prints the summary. Files are read through an operation that is given, so that the command can
run on real files and on a table of files alike.
-/

namespace VehicleTelemetry.CommandLine

/-- Why there is no summary. -/
inductive Failure where
  | settings (cause : SettingsError)
  | capture (cause : CaptureError)
  | vehicle (cause : VehicleConfig.Refusal)
  /-- The capture goes on for longer than the clock can count. -/
  | clock
  deriving DecidableEq

/-- The wording of a failure. -/
def Failure.message : Failure → String
  | settings cause => cause.message
  | capture .unreadable => "Failed to read the capture"
  | capture (.badLine number) => s!"Capture line {number}: no event"
  | vehicle cause => (SettingsError.vehicle cause).message
  | clock => "The capture exceeds the clock"

/-- A finished run. -/
structure Report where
  settings : Settings
  summary : ReplaySummary
  /-- How long the run sleeps, in milliseconds. -/
  slept : Nat
  /-- What was reported on the way. -/
  events : List Event

/-- Plays events. -/
def play (settings : Settings) (events : List CaptureEvent) : Except Failure Report :=
  match Replay.create? settings with
  | .error cause => .error (.vehicle cause)
  | .ok created =>
    let finished := created >>= (·.run events)
    if finished.value.fits then
      .ok {
        settings
        summary := finished.value.summary events.length
        slept := finished.value.slept
        events := finished.events }
    else .error .clock

/-- Runs the command. The first argument is the path of the settings, the others do not matter. -/
def run {m : Type → Type} [Monad m] (read : String → m (Option (List UInt8)))
    (arguments : List String) (environment : List (String × String)) :
    m (Except Failure Report) := do
  match ← Settings.loadFrom read arguments.head? environment with
  | .error cause => return .error (.settings cause)
  | .ok settings =>
    match Capture.load (← read settings.capture) with
    | .error cause => return .error (.capture cause)
    | .ok events => return play settings events

/-- The exit code of an outcome. -/
def exitCode : Except Failure Report → UInt32
  | .ok _ => 0
  | .error _ => 1

/-- What an outcome prints. -/
def output : Except Failure Report → String
  | .ok report => report.summary.text ++ "\n"
  | .error _ => ""

end VehicleTelemetry.CommandLine
