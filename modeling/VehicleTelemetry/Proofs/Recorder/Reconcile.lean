import Mathlib.Tactic
import VehicleTelemetry.Proofs.Recorder.Frame

/-!
What a reconciliation makes of the signals that it switches off.

* `Signal.switched`, `switchOff`: the three signals, and the pass over one of them;
* `entry_reconcile`: of a signal's entry nothing but its own pass is left to see;
* `bool_reconcile`: a signal is on afterwards if it was on and is not stale, and
  then its entry is what it was (`entry_reconcile_of_bool`).
-/

namespace VehicleTelemetry

/-- The signals that a reconciliation switches off. -/
def Signal.switched : List String :=
  [awake, on, chargePort]

namespace Recorder

variable (r : Recorder) (now : Nat) {name : String}

/-! ### One signal -/

/-- Switches off a signal that is on and stale. -/
def switchOff (r : Recorder) (now : Nat) (name : String) : Recorder :=
  if r.store.isStale now name && r.store.bool name then r.put now name (.bool false) else r

lemma entry_switchOff_of_ne {other : String} (h : other ≠ name) :
    (r.switchOff now name).store.entry other = r.store.entry other := by
  rw [switchOff]
  split
  · rw [store_put, MetricStore.entry_set, if_neg h]
  · rfl

/-- What the pass over a signal leaves in its entry depends on that entry alone. -/
lemma entry_switchOff_congr {r s : Recorder} (h : r.store.entry name = s.store.entry name) :
    (r.switchOff now name).store.entry name = (s.switchOff now name).store.entry name := by
  rw [switchOff, switchOff, MetricStore.isStale_congr h, MetricStore.bool_congr h]
  split
  · rw [store_put, store_put, MetricStore.entry_set, MetricStore.entry_set, h]
  · exact h

lemma bool_switchOff :
    (r.switchOff now name).store.bool name = (r.store.bool name && !r.store.isStale now name) := by
  rw [switchOff]
  split
  · next h =>
    rw [Bool.and_eq_true] at h
    rw [store_put, MetricStore.bool_set, if_pos rfl, h.1]
    simp
  · next h =>
    rw [Bool.and_eq_true] at h
    by_cases hbool : r.store.bool name = true
    · have hfresh : r.store.isStale now name = false :=
        Bool.eq_false_iff.mpr fun hstale => h ⟨hstale, hbool⟩
      rw [hfresh, Bool.not_false, Bool.and_true]
    · rw [Bool.eq_false_iff.mpr hbool, Bool.false_and]

/-! ### The whole reconciliation -/

lemma value_reconcile_eq_switchOff :
    (r.reconcile now).value =
      ((((r.switchOff now Signal.awake).switchOff now Signal.on).switchOff now
        Signal.chargePort).reconcilePower now).value := by
  rw [value_reconcile, value_reconcileChargingDoor, value_reconcileReady, value_reconcileAwake]
  rfl

/-- The passes over the other signals and over the power of the pack leave a
signal's entry alone. -/
lemma entry_reconcile (hname : name ∈ Signal.switched) :
    (r.reconcile now).value.store.entry name = (r.switchOff now name).store.entry name := by
  have hpower : ∀ s : Recorder, (s.reconcilePower now).value.store.entry name =
      s.store.entry name := by
    intro s
    refine s.changesOnly_reconcilePower now name ?_
    revert name
    decide
  rw [value_reconcile_eq_switchOff, hpower]
  simp only [Signal.switched, List.mem_cons, List.not_mem_nil, or_false] at hname
  rcases hname with rfl | rfl | rfl
  · rw [entry_switchOff_of_ne _ now (by decide), entry_switchOff_of_ne _ now (by decide)]
  · rw [entry_switchOff_of_ne _ now (by decide)]
    exact entry_switchOff_congr now (r.entry_switchOff_of_ne now (by decide))
  · refine entry_switchOff_congr now ?_
    rw [entry_switchOff_of_ne _ now (by decide), entry_switchOff_of_ne _ now (by decide)]

/-- A signal is on after a reconciliation if it was on and is not stale. -/
lemma bool_reconcile (hname : name ∈ Signal.switched) :
    (r.reconcile now).value.store.bool name =
      (r.store.bool name && !r.store.isStale now name) := by
  rw [← bool_switchOff]
  exact MetricStore.bool_congr (r.entry_reconcile now hname)

/-- A signal that is on after a reconciliation has not been touched by it. -/
lemma entry_reconcile_of_bool (hname : name ∈ Signal.switched)
    (hon : (r.reconcile now).value.store.bool name = true) :
    (r.reconcile now).value.store.entry name = r.store.entry name := by
  rw [r.bool_reconcile now hname, Bool.and_eq_true, Bool.not_eq_true'] at hon
  rw [r.entry_reconcile now hname, switchOff, hon.2]
  rfl

end Recorder

end VehicleTelemetry
