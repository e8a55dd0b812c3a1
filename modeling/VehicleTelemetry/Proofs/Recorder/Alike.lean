import Mathlib.Tactic
import VehicleTelemetry.Proofs.Recorder.Reconcile

/-!
Recorders that differ in the answers to requests only.

The vehicle's own requests write three metrics, `Signal.answered`. Two recorders
are `Alike` if nothing else tells them apart. A reconciliation reads none of the
three, so it keeps recorders alike (`Alike.reconcile`), and a session is handed the
same inputs from both (`Alike.sessionInputs_eq`).
-/

namespace VehicleTelemetry

open MetricStore (ChangesOnly)

/-- Two recorders differ at most in the answers to requests. -/
structure Recorder.Alike (r s : Recorder) : Prop where
  meter_eq : s.meter = r.meter
  changesOnly : ChangesOnly Signal.answered r.store s.store

namespace Recorder.Alike

variable {r s t : Recorder}

lemma refl (r : Recorder) : r.Alike r :=
  ⟨rfl, .refl _ _⟩

lemma symm (h : r.Alike s) : s.Alike r :=
  ⟨h.meter_eq.symm, h.changesOnly.symm⟩

lemma trans (h : r.Alike s) (h' : s.Alike t) : r.Alike t :=
  ⟨h'.meter_eq.trans h.meter_eq, h.changesOnly.trans h'.changesOnly⟩

/-! ### The parts of a reconciliation -/

variable (h : r.Alike s) (now : Nat)
include h

lemma put (name : String) (value : MetricValue) :
    (r.put now name value).Alike (s.put now name value) :=
  ⟨h.meter_eq, h.changesOnly.update_both name _⟩

lemma count (channel : EnergyChannel) (power : Float) :
    (r.count now channel power).Alike (s.count now channel power) :=
  ⟨congrArg (EnergyMeter.sample · channel power now) h.meter_eq, h.changesOnly⟩

lemma putBatteryEnergy : (r.putBatteryEnergy now).Alike (s.putBatteryEnergy now) := by
  rw [Recorder.putBatteryEnergy, Recorder.putBatteryEnergy, h.meter_eq]
  exact (h.put now _ _).put now _ _

lemma setBatteryPower (power : Float) :
    (r.setBatteryPower now power).value.Alike (s.setBatteryPower now power).value :=
  ((h.put now _ _).count now .battery power).putBatteryEnergy now

lemma switchOff {name : String} (hname : name ∉ Signal.answered) :
    (r.switchOff now name).Alike (s.switchOff now name) := by
  rw [Recorder.switchOff, Recorder.switchOff, h.changesOnly.isStale_eq hname,
    h.changesOnly.bool_eq hname]
  split
  · exact h.put now _ _
  · exact h

lemma reconcilePower : (r.reconcilePower now).value.Alike (s.reconcilePower now).value := by
  rw [value_reconcilePower, value_reconcilePower, h.changesOnly.isStale_eq (by decide),
    h.changesOnly.float_eq (by decide)]
  split
  · exact (h.put now _ _).setBatteryPower now 0.0
  · exact h

lemma reconcile : (r.reconcile now).value.Alike (s.reconcile now).value := by
  rw [value_reconcile_eq_switchOff, value_reconcile_eq_switchOff]
  have hawake := h.switchOff now (by decide : Signal.awake ∉ Signal.answered)
  have hon := hawake.switchOff now (by decide : Signal.on ∉ Signal.answered)
  have hport := hon.switchOff now (by decide : Signal.chargePort ∉ Signal.answered)
  exact hport.reconcilePower now

/-! ### The session -/

/-- The session machine sees no difference. -/
lemma sessionInputs_eq : s.sessionInputs = r.sessionInputs := by
  have hbool {name : String} (hname : name ∉ Signal.answered) :
      s.store.bool name = r.store.bool name :=
    h.changesOnly.bool_eq hname
  have hfloat {name : String} (hname : name ∉ Signal.answered) :
      s.store.float name = r.store.float name :=
    h.changesOnly.float_eq hname
  rw [sessionInputs, sessionInputs, hbool (by decide), hbool (by decide), hbool (by decide),
    hbool (by decide), hbool (by decide), hfloat (by decide), hfloat (by decide),
    h.changesOnly.text_eq (by decide)]

end Recorder.Alike

end VehicleTelemetry
