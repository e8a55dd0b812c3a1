import VehicleTelemetry.Scalar

/-!
Energy from power samples.

A meter has three channels. Each sample of a channel is credited with the time since the channel's
previous sample, so a sample stands for the interval that it ends (`EnergyMeter.hours`). The first
sample after a reset has no interval and is credited with one second, and a clock that has stepped
back gives no time at all.

The battery channel counts energy out of the pack and energy into it apart; the two others only
count energy that flows in (`EnergyTotals.credit`).
-/

namespace VehicleTelemetry

/-- A power signal whose energy is counted. -/
inductive EnergyChannel where
  /-- Pack power, positive when the pack is discharged. -/
  | battery
  /-- Power into the battery from the charger. -/
  | charger
  /-- Power that the charger draws. -/
  | grid
  deriving DecidableEq, Repr

namespace EnergyChannel

/-- All channels. -/
def all : List EnergyChannel := [battery, charger, grid]

/-- The channel's name. -/
def name : EnergyChannel → String
  | battery => "Battery"
  | charger => "Charger"
  | grid => "Grid"

end EnergyChannel

/-- Energies counted so far, in kWh. -/
structure EnergyTotals (α : Type) where
  used : α
  recovered : α
  charger : α
  grid : α
  deriving DecidableEq

namespace EnergyTotals

variable {α : Type} [Scalar α]

/-- Nothing counted yet. -/
def zero : EnergyTotals α :=
  ⟨Scalar.zero, Scalar.zero, Scalar.zero, Scalar.zero⟩

/-- Counts one amount of energy on a channel. -/
def credit (totals : EnergyTotals α) (channel : EnergyChannel) (delta : α) : EnergyTotals α :=
  match channel with
  | .battery =>
    if Scalar.below Scalar.zero delta then { totals with used := totals.used + delta }
    else if Scalar.below delta Scalar.zero then
      { totals with recovered := totals.recovered - delta }
    else totals
  | .charger => { totals with charger := totals.charger + Scalar.max delta Scalar.zero }
  | .grid => { totals with grid := totals.grid + Scalar.max delta Scalar.zero }

/-- Forgets what a channel has counted. -/
def clear (totals : EnergyTotals α) : EnergyChannel → EnergyTotals α
  | .battery => { totals with used := Scalar.zero, recovered := Scalar.zero }
  | .charger => { totals with charger := Scalar.zero }
  | .grid => { totals with grid := Scalar.zero }

end EnergyTotals

/-- The time of each channel's last sample, in milliseconds, if there was one. -/
structure LastSamples where
  battery : Option Nat := none
  charger : Option Nat := none
  grid : Option Nat := none
  deriving DecidableEq, Repr

namespace LastSamples

/-- The last sample of a channel. -/
def get (last : LastSamples) : EnergyChannel → Option Nat
  | .battery => last.battery
  | .charger => last.charger
  | .grid => last.grid

/-- Changes the last sample of a channel. -/
def set (last : LastSamples) (channel : EnergyChannel) (time : Option Nat) : LastSamples :=
  match channel with
  | .battery => { last with battery := time }
  | .charger => { last with charger := time }
  | .grid => { last with grid := time }

@[simp] theorem get_set (last : LastSamples) (c d : EnergyChannel) (time : Option Nat) :
    (last.set c time).get d = if d = c then time else last.get d := by
  cases c <;> cases d <;> rfl

end LastSamples

/-- Counts the energy of the three channels. -/
structure EnergyMeter (α : Type) where
  totals : EnergyTotals α
  last : LastSamples
  deriving DecidableEq

namespace EnergyMeter

variable {α : Type} [Scalar α]

/-- Nothing counted yet. -/
def empty : EnergyMeter α :=
  ⟨EnergyTotals.zero, {}⟩

/-- The hours that a channel's first sample is credited with: one second. -/
def firstHours : α :=
  Scalar.ofNat 1 / Scalar.ofNat 3600

/-- The hours that a sample at `time` is credited with. -/
def hours (meter : EnergyMeter α) (channel : EnergyChannel) (time : Nat) : α :=
  match meter.last.get channel with
  | none => firstHours
  | some previous => Scalar.ofNat (time - previous) / Scalar.ofNat 3600000

/-- The energy of a sample at `time`. -/
def delta (meter : EnergyMeter α) (channel : EnergyChannel) (power : α) (time : Nat) : α :=
  power * meter.hours channel time

/-- Counts a power sample at `time`. -/
def sample (meter : EnergyMeter α) (channel : EnergyChannel) (power : α) (time : Nat) :
    EnergyMeter α where
  totals := meter.totals.credit channel (meter.delta channel power time)
  last := meter.last.set channel (some time)

/-- Forgets what a channel has counted, and its last sample. -/
def reset (meter : EnergyMeter α) (channel : EnergyChannel) : EnergyMeter α where
  totals := meter.totals.clear channel
  last := meter.last.set channel none

end EnergyMeter

end VehicleTelemetry
