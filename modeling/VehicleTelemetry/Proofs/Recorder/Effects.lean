import Mathlib.Tactic
import VehicleTelemetry.Proofs.Metric.Frame
import VehicleTelemetry.Recorder

/-!
What the recorder's operations do, apart from what they report. Most of them
write one metric; here are the others, and those that a reconciliation uses.

* `value_setReady`, `value_setBatteryPower` and so on give the recorder after an
  operation as writes of metrics, samples and resets of the meter;
* `value_reconcile` gives the four passes of the reconciliation in order.
-/

namespace VehicleTelemetry.Recorder

variable (r : Recorder) (now : Nat)

/-! ### The store and the meter are apart -/

@[simp] lemma store_put (name : String) (value : MetricValue) :
    (r.put now name value).store = r.store.set now name value := rfl

@[simp] lemma store_resetEnergy (channel : EnergyChannel) :
    (r.resetEnergy channel).store = r.store := rfl

/-- Counts a power sample; the store does not show it yet. -/
def count (r : Recorder) (now : Nat) (channel : EnergyChannel) (power : Float) : Recorder :=
  { r with meter := r.meter.sample channel power now }

@[simp] lemma store_count (channel : EnergyChannel) (power : Float) :
    (r.count now channel power).store = r.store := rfl

@[simp] lemma meter_count (channel : EnergyChannel) (power : Float) :
    (r.count now channel power).meter = r.meter.sample channel power now := rfl

/-! ### Environment -/

lemma value_setAmbientTemperature (temperature : Float) :
    (r.setAmbientTemperature now temperature).value =
      if Decode.isAmbientSentinel temperature then (r, false)
      else (r.put now Signal.outsideTemperature (.float temperature), true) := by
  simp [setAmbientTemperature]

@[simp] lemma value_startTrip :
    (r.startTrip now).value = (r.resetEnergy .battery).clearBatteryEnergy now := rfl

lemma value_setReady (ready : Bool) :
    (r.setReady now ready).value =
      if ready && !r.store.bool Signal.on then
        ((r.put now Signal.on (.bool ready)).resetEnergy .battery).clearBatteryEnergy now
      else r.put now Signal.on (.bool ready) := by
  simp [setReady]

/-! ### Battery -/

@[simp] lemma value_setBatteryCurrent (current : Float) :
    (r.setBatteryCurrent now current).value =
      r.put now Signal.batteryCurrent (.float current) := rfl

@[simp] lemma value_setBatteryPower (power : Float) :
    (r.setBatteryPower now power).value =
      ((r.put now Signal.batteryPower (.float power)).count now .battery power).putBatteryEnergy
        now := rfl

lemma value_setBatterySoc (soc : Float) :
    (r.setBatterySoc now soc).value =
      if soc == 0.0 && r.store.float Signal.batterySoc > 1.0 then (r, false)
      else (r.put now Signal.batterySoc (.float soc), true) := by
  simp [setBatterySoc]

/-! ### Charging -/

@[simp] lemma value_setBatteryChargingPower (power : Float) :
    (r.setBatteryChargingPower now power).value =
      (r.count now .charger power).put now Signal.chargeEnergy
        (.float (r.count now .charger power).meter.totals.charger) := rfl

@[simp] lemma value_setChargerInputPower (power : Float) :
    (r.setChargerInputPower now power).value =
      ((r.put now Signal.chargePower (.float power)).count now .grid power).put now
        Signal.gridEnergy (.float (r.count now .grid power).meter.totals.grid) := rfl

@[simp] lemma value_setChargingDoor (isOpen : Bool) :
    (r.setChargingDoor now isOpen).value = r.put now Signal.chargePort (.bool isOpen) := rfl

@[simp] lemma value_startCharge :
    (r.startCharge now).value =
      (((EnergyChannel.all.foldl resetEnergy r).clearBatteryEnergy now).put now
        Signal.chargeEnergy (.float 0.0)).put now Signal.gridEnergy (.float 0.0) := rfl

lemma value_setChargingStatus (charging : Bool) :
    (r.setChargingStatus now charging).value =
      if charging && !r.store.bool Signal.chargeInProgress then
        ((r.put now Signal.chargeInProgress (.bool charging)).startCharge now).value
      else r.put now Signal.chargeInProgress (.bool charging) := by
  simp [setChargingStatus]

/-! ### Position and identity -/

/-- The recorder once an odometer reading has seeded the baseline of the trip,
if there was none that counts. -/
def seeded (r : Recorder) (now : Nat) (odometer : Float) : Recorder :=
  if r.store.isStale now Signal.tripStart then r.put now Signal.tripStart (.float odometer) else r

lemma value_setOdometer (odometer : Float) :
    (r.setOdometer now odometer).value =
      let s := (r.put now Signal.odometer (.float odometer)).seeded now odometer
      s.put now Signal.trip (.float (odometer - s.store.float Signal.tripStart)) := by
  simp only [setOdometer, seeded, Logged.value_bind, Logged.value_ite, Logged.value_pure]
  split <;> rfl

/-- A reading is the baseline of the trip if there is none that counts. -/
lemma value_setOdometer_eq_ite (odometer : Float) :
    (r.setOdometer now odometer).value =
      if r.store.isStale now Signal.tripStart then
        ((r.put now Signal.odometer (.float odometer)).put now Signal.tripStart
          (.float odometer)).put now Signal.trip (.float (odometer - odometer))
      else
        (r.put now Signal.odometer (.float odometer)).put now Signal.trip
          (.float (odometer - r.store.float Signal.tripStart)) := by
  have hput : MetricStore.ChangesOnly [Signal.odometer] r.store
      (r.put now Signal.odometer (.float odometer)).store := .set (by simp) _ _ _
  rw [value_setOdometer, seeded, hput.isStale_eq (by decide)]
  split
  · simp only [store_put, MetricStore.float_set, if_true]
  · simp only [hput.float_eq (by decide : Signal.tripStart ∉ [Signal.odometer])]

/-! ### Reconciliation -/

lemma value_reconcileAwake :
    (r.reconcileAwake now).value =
      if r.store.isStale now Signal.awake && r.store.bool Signal.awake then
        r.put now Signal.awake (.bool false)
      else r := by
  simp [reconcileAwake, setAwake]

lemma value_reconcileReady :
    (r.reconcileReady now).value =
      if r.store.isStale now Signal.on && r.store.bool Signal.on then
        r.put now Signal.on (.bool false)
      else r := by
  simp [reconcileReady, value_setReady]

lemma value_reconcileChargingDoor :
    (r.reconcileChargingDoor now).value =
      if r.store.isStale now Signal.chargePort && r.store.bool Signal.chargePort then
        r.put now Signal.chargePort (.bool false)
      else r := by
  simp [reconcileChargingDoor]

lemma value_reconcilePower :
    (r.reconcilePower now).value =
      if r.store.isStale now Signal.batteryPower && r.store.float Signal.batteryPower != 0.0 then
        ((r.put now Signal.batteryCurrent (.float 0.0)).setBatteryPower now 0.0).value
      else r := by
  simp [reconcilePower]

lemma value_reconcile :
    (r.reconcile now).value =
      ((((r.reconcileAwake now).value.reconcileReady now).value.reconcileChargingDoor
        now).value.reconcilePower now).value := by
  simp only [reconcile, Logged.value_bind]

end VehicleTelemetry.Recorder
