import VehicleTelemetry.Clock
import VehicleTelemetry.Vehicle.Config

/-!
The settings of a replay, and which of them are refused.
-/

namespace VehicleTelemetry

/-- What a replay is told beforehand. -/
structure Settings where
  /-- The file that holds the capture. -/
  capture : String := "capture.jsonl"
  /-- The name of the least severe level that is reported. -/
  logLevel : String := "info"
  /-- Whether events are reported as JSON. -/
  jsonLogs : Bool := false
  /-- Whether the replay takes as long as the capture did. -/
  realtime : Bool := false
  /-- How many seconds lie between slow ticks. -/
  slowTickSeconds : Nat := 60
  /-- The settings of the vehicle. -/
  vehicle : VehicleConfig := {}
  deriving DecidableEq

/-- Why there are no settings to go by. -/
inductive SettingsError where
  /-- The file is not there or is no document, or a value does not suit its setting. -/
  | unreadable
  /-- The time between slow ticks is out of range. -/
  | slowTick (seconds : Nat)
  /-- A setting of the vehicle is out of range. -/
  | vehicle (refusal : VehicleConfig.Refusal)
  deriving DecidableEq

/-- The wording of an error. -/
def SettingsError.message : SettingsError → String
  | unreadable => "Configuration error"
  | slowTick seconds =>
    s!"Invalid configuration: slow_tick_secs must be between 1 and 86400, got {seconds}"
  | vehicle refusal => "Vehicle setup failed: " ++ refusal.message

namespace Settings

/-- The most seconds that may lie between slow ticks: a day. -/
def slowTickLimit : Nat := 86400

/-- The milliseconds between slow ticks, at least one second and at most what the clock can
count. -/
def slowPeriod (settings : Settings) : Nat :=
  min (max settings.slowTickSeconds 1 * 1000) (Clock.period - 1)

/-- The first setting that is out of range: the time between slow ticks, then the vehicle's. -/
def refusal? (settings : Settings) : Option SettingsError :=
  if settings.slowTickSeconds = 0 ∨ slowTickLimit < settings.slowTickSeconds then
    some (.slowTick settings.slowTickSeconds)
  else settings.vehicle.refusal?.map .vehicle

/-- Between one second and a day, the slow period is exact. -/
theorem slowPeriod_of_le {settings : Settings} (low : 1 ≤ settings.slowTickSeconds)
    (high : settings.slowTickSeconds ≤ slowTickLimit) :
    settings.slowPeriod = settings.slowTickSeconds * 1000 := by
  unfold slowPeriod Clock.period
  unfold slowTickLimit at high
  omega

end Settings

end VehicleTelemetry
