import VehicleTelemetry.Decimal.Layout

/-!
The settings of a vehicle, and which of them are refused.
-/

namespace VehicleTelemetry

/-- A vehicle's settings. -/
structure VehicleConfig where
  /-- How long a request waits for its answer, in milliseconds. -/
  queryTimeout : Nat := 1000
  /-- How often the charge mode and the connector are asked for. -/
  queryAttempts : Nat := 5
  /-- How far the auxiliary voltage has to exceed its reference to wake the vehicle, in V. -/
  wakeMargin : Float := 0.2
  /-- How many seconds a report of the charging lid lasts. -/
  chargePortLifetime : Nat := 10
  deriving DecidableEq

namespace VehicleConfig

/-- Settings for the bench: short waits and few attempts. -/
def bench : VehicleConfig where
  queryTimeout := 100
  queryAttempts := 2

/-- Which setting is out of range, and its value. -/
inductive Refusal where
  | queryAttempts (value : Nat)
  | queryTimeout (value : Nat)
  | wakeMargin (value : Float)
  deriving DecidableEq

/-- The wording of a refusal. -/
def Refusal.message : Refusal → String
  | queryAttempts value => s!"Invalid configuration: max_query_attempts = {value}"
  | queryTimeout value => s!"Invalid configuration: query_timeout_ms = {value}"
  | wakeMargin value =>
    "Invalid configuration: wake_voltage_margin = " ++ Decimal.plain value

/-- The first setting that is out of range: there has to be an attempt and some time for it, and
the margin has to be a finite number that is not negative. -/
def refusal? (config : VehicleConfig) : Option Refusal :=
  if config.queryAttempts = 0 then some (.queryAttempts config.queryAttempts)
  else if config.queryTimeout = 0 then some (.queryTimeout config.queryTimeout)
  else if !config.wakeMargin.isFinite || config.wakeMargin < 0.0 then
    some (.wakeMargin config.wakeMargin)
  else none

end VehicleConfig

end VehicleTelemetry
