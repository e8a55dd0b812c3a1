import VehicleTelemetry.Log.Logged

/-!
Counting a measured power sample and reporting what it came to.
-/

namespace VehicleTelemetry.EnergyMeter

/-- Counts a power sample at time `now`. Gives the meter and the sample's energy. -/
def integrate (meter : EnergyMeter Float) (channel : EnergyChannel) (power : Float) (now : Nat) :
    Logged (EnergyMeter Float × Float) := do
  let delta := meter.delta channel power now
  Logged.report (.energySampled channel power (meter.hours channel now) delta)
  return (meter.sample channel power now, delta)

end VehicleTelemetry.EnergyMeter
