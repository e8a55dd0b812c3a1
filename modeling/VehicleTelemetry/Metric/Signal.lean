/-!
The names of the metrics that the library writes and reads, and how long each one may go without a
new value before it counts as stale.
-/

namespace VehicleTelemetry.Signal

/-! ### Environment -/

def awake : String := "v.e.awake"
def on : String := "v.e.on"
def outsideTemperature : String := "v.e.temp"
def gear : String := "v.e.gear"
def chargePort : String := "v.d.cp"

/-! ### Battery -/

def auxVoltage : String := "v.b.12v.voltage"
def auxVoltageReference : String := "v.b.12v.voltage.ref"
def batteryVoltage : String := "v.b.voltage"
def batteryCurrent : String := "v.b.current"
def batteryPower : String := "v.b.power"
def batterySoc : String := "v.b.soc"
def batteryTemperature : String := "v.b.temp"
def energyUsed : String := "v.b.energy.used"
def energyRecovered : String := "v.b.energy.recd"
def cellTemperatures : String := "v.b.c.temp"
def packTemperatureLeast : String := "v.b.p.temp.min"
def packTemperatureGreatest : String := "v.b.p.temp.max"
def packTemperatureMean : String := "v.b.p.temp.avg"
def packTemperatureDeviation : String := "v.b.p.temp.stddev"

/-! ### Charging -/

def chargeState : String := "v.c.state"
def chargeMode : String := "v.c.mode"
def chargeType : String := "v.c.type"
def pilot : String := "v.c.pilot"
def chargeInProgress : String := "v.c.inprogress"
def chargePower : String := "v.c.power"
def chargeEnergy : String := "v.c.kwh"
def gridEnergy : String := "v.c.kwh.grid"

/-! ### Position and identity -/

def odometer : String := "v.p.odometer"
def trip : String := "v.p.trip"
def speed : String := "v.p.speed"
def vin : String := "v.vin"

/-! ### The session -/

def pollState : String := "xte.s.pollstate"
def managedSoc : String := "xte.v.b.soc.bms"
def tripStart : String := "xte.v.p.trip.start"

/-! ### Lifetimes -/

/-- The seconds after which a signal that every poll refreshes is stale. -/
def shortLifetime : Nat := 10

/-- The seconds after which a signal that every few polls refresh is stale. -/
def mediumLifetime : Nat := 120

/-- The seconds after which a slowly changing signal is stale. -/
def longLifetime : Nat := 3600

/-- The signals that go stale by themselves. -/
def lifetimes : List (String × Nat) := [
  (awake, mediumLifetime),
  (on, shortLifetime),
  (outsideTemperature, longLifetime),
  (batteryVoltage, shortLifetime),
  (batteryCurrent, shortLifetime),
  (batteryPower, shortLifetime),
  (batterySoc, mediumLifetime),
  (pilot, shortLifetime),
  (chargeInProgress, shortLifetime),
  (chargePower, shortLifetime),
  (speed, shortLifetime),
  (managedSoc, mediumLifetime)]

end VehicleTelemetry.Signal
