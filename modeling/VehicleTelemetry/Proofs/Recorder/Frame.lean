import Mathlib.Tactic
import VehicleTelemetry.Proofs.Recorder.Effects

/-!
Which metrics a reconciliation writes, and which a start of counting.

The lists are exact in the sense that every metric in them is written in some
case; `changesOnly_reconcile` is the one for the whole reconciliation.
`Signal.answered` lists the metrics that nothing but requests writes.
-/

namespace VehicleTelemetry

/-- The metrics that hold answers to the vehicle's own requests. -/
def Signal.answered : List String :=
  [vin, chargeMode, chargeType]

namespace Recorder

open MetricStore (ChangesOnly)

variable (r : Recorder) (now : Nat)

lemma changesOnly_clearBatteryEnergy :
    ChangesOnly [Signal.energyUsed, Signal.energyRecovered] r.store
      (r.clearBatteryEnergy now).store :=
  (ChangesOnly.set (by simp) _ _ _).then_set (by simp) _ _

lemma changesOnly_putBatteryEnergy :
    ChangesOnly [Signal.energyUsed, Signal.energyRecovered] r.store
      (r.putBatteryEnergy now).store :=
  (ChangesOnly.set (by simp) _ _ _).then_set (by simp) _ _

lemma changesOnly_setBatteryPower (power : Float) :
    ChangesOnly [Signal.batteryPower, Signal.energyUsed, Signal.energyRecovered] r.store
      (r.setBatteryPower now power).value.store := by
  have hput : ChangesOnly [Signal.batteryPower, Signal.energyUsed, Signal.energyRecovered] r.store
      (r.put now Signal.batteryPower (.float power)).store := .set (by simp) _ _ _
  exact hput.trans ((changesOnly_putBatteryEnergy _ now).mono (by simp))

lemma changesOnly_startCharge :
    ChangesOnly [Signal.energyUsed, Signal.energyRecovered, Signal.chargeEnergy,
      Signal.gridEnergy] r.store (r.startCharge now).value.store :=
  (((changesOnly_clearBatteryEnergy (EnergyChannel.all.foldl resetEnergy r) now).mono
    (by simp)).then_set (by simp) _ _).then_set (by simp) _ _

/-! ### Reconciliation -/

lemma changesOnly_reconcileAwake :
    ChangesOnly [Signal.awake] r.store (r.reconcileAwake now).value.store := by
  rw [value_reconcileAwake]
  split
  · exact .set (by simp) _ _ _
  · exact .refl _ _

lemma changesOnly_reconcileReady :
    ChangesOnly [Signal.on] r.store (r.reconcileReady now).value.store := by
  rw [value_reconcileReady]
  split
  · exact .set (by simp) _ _ _
  · exact .refl _ _

lemma changesOnly_reconcileChargingDoor :
    ChangesOnly [Signal.chargePort] r.store (r.reconcileChargingDoor now).value.store := by
  rw [value_reconcileChargingDoor]
  split
  · exact .set (by simp) _ _ _
  · exact .refl _ _

lemma changesOnly_reconcilePower :
    ChangesOnly [Signal.batteryCurrent, Signal.batteryPower, Signal.energyUsed,
      Signal.energyRecovered] r.store (r.reconcilePower now).value.store := by
  rw [value_reconcilePower]
  split
  · have hput : ChangesOnly [Signal.batteryCurrent, Signal.batteryPower, Signal.energyUsed,
        Signal.energyRecovered] r.store
        (r.put now Signal.batteryCurrent (.float 0.0)).store := .set (by simp) _ _ _
    exact hput.trans ((changesOnly_setBatteryPower _ now 0.0).mono (by simp))
  · exact .refl _ _

lemma changesOnly_reconcile :
    ChangesOnly [Signal.awake, Signal.on, Signal.chargePort, Signal.batteryCurrent,
      Signal.batteryPower, Signal.energyUsed, Signal.energyRecovered] r.store
      (r.reconcile now).value.store := by
  rw [value_reconcile]
  exact (((r.changesOnly_reconcileAwake now).mono (by simp)).trans
    ((changesOnly_reconcileReady _ now).mono (by simp))).trans
    (((changesOnly_reconcileChargingDoor _ now).mono (by simp)).trans
      ((changesOnly_reconcilePower _ now).mono (by simp)))

end Recorder

end VehicleTelemetry
