import Mathlib.Tactic
import VehicleTelemetry.Proofs.Recorder.Reconcile

/-!
A signal that is switched off when it is stale shows its last report.

The reconciliation writes to the same entry as the reports do, and so starts its
lifetime anew; from then on the entry does not tell when the last report came.

* `MetricEntry.Tracks`: the entry of a signal, with the time since which its last
  report has had it on;
* `Tracks.report`, `Tracks.later`, `Tracks.switchOff`: a report, a pause and a
  reconciliation keep it so;
* `Tracks.bool_reconcile_iff`: after a reconciliation the signal is on if its last
  report has it on and is no older than its lifetime.
-/

namespace VehicleTelemetry

/-- The entry of a signal whose values last `lifetime` seconds, at time `now`.
`since` is the time of the last report if that has the signal on. -/
structure MetricEntry.Tracks (entry : MetricEntry) (lifetime now : Nat) (since : Option Nat) :
    Prop where
  lifetime_eq : entry.lifetime = some lifetime
  marked_eq : entry.marked = false
  on_or_off : (entry.value = some (.bool true) ∧ since = some entry.written) ∨
    (entry.value = some (.bool false) ∧ ∀ t, since = some t → t + 1000 * lifetime < now)

namespace MetricEntry.Tracks

variable {entry : MetricEntry} {lifetime now : Nat} {since : Option Nat}

/-- A report is tracked whatever has been before. -/
lemma report (h : entry.lifetime = some lifetime) (now : Nat) (b : Bool) :
    (entry.write now (.bool b)).Tracks lifetime now (if b then some now else none) := by
  refine ⟨h, rfl, ?_⟩
  cases b with
  | true => exact .inl ⟨rfl, rfl⟩
  | false => exact .inr ⟨rfl, nofun⟩

lemma later (h : entry.Tracks lifetime now since) {time : Nat} (hle : now ≤ time) :
    entry.Tracks lifetime time since := by
  refine ⟨h.lifetime_eq, h.marked_eq, h.on_or_off.imp_right ?_⟩
  rintro ⟨hvalue, hold⟩
  refine ⟨hvalue, fun t ht => ?_⟩
  have hpassed := hold t ht
  omega

/-! ### Reconciliation -/

variable {r : Recorder} {name : String}

/-- What the reconciliation sees of a signal. -/
lemma seen (h : (r.store.entry name).Tracks lifetime now since) :
    (r.store.bool name = true ∧ since = some (r.store.entry name).written ∧
      (r.store.isStale now name = true ↔
        (r.store.entry name).written + 1000 * lifetime < now)) ∨
    (r.store.bool name = false ∧ ∀ t, since = some t → t + 1000 * lifetime < now) := by
  obtain ⟨hvalue, hsince⟩ | ⟨hvalue, hold⟩ := h.on_or_off
  · refine .inl ⟨?_, hsince, ?_⟩
    · rw [MetricStore.bool, MetricStore.value?, hvalue]
      rfl
    · simp only [MetricStore.isStale, hvalue, h.marked_eq, h.lifetime_eq, Option.isNone_some,
        Bool.false_or, decide_eq_true_eq]
      omega
  · refine .inr ⟨?_, hold⟩
    rw [MetricStore.bool, MetricStore.value?, hvalue]
    rfl

lemma switchOff (h : (r.store.entry name).Tracks lifetime now since) :
    ((r.switchOff now name).store.entry name).Tracks lifetime now since := by
  rw [Recorder.switchOff]
  obtain ⟨hon, hsince, hstale⟩ | ⟨hoff, -⟩ := h.seen
  · by_cases hpassed : r.store.isStale now name = true
    · rw [hpassed, hon, Bool.and_true, if_pos rfl, Recorder.store_put, MetricStore.entry_set_self]
      refine ⟨h.lifetime_eq, rfl, .inr ⟨rfl, fun t ht => ?_⟩⟩
      obtain rfl := Option.some.inj (hsince.symm.trans ht)
      exact hstale.mp hpassed
    · rw [Bool.eq_false_iff.mpr hpassed]
      exact h
  · rw [hoff, Bool.and_false]
    exact h

/-- A signal is on after a reconciliation if its last report has it on and is no
older than its lifetime. -/
lemma bool_reconcile_iff (h : (r.store.entry name).Tracks lifetime now since)
    (hname : name ∈ Signal.switched) :
    (r.reconcile now).value.store.bool name = true ↔
      ∃ t, since = some t ∧ now ≤ t + 1000 * lifetime := by
  rw [r.bool_reconcile now hname, Bool.and_eq_true, Bool.not_eq_true', Bool.eq_false_iff, ne_eq]
  -- the signal is on since its last report, or off with any report that had it on gone stale
  obtain ⟨hon, hsince, hstale⟩ | ⟨hoff, hold⟩ := h.seen
  · rw [hstale]
    constructor
    · rintro ⟨-, hfresh⟩
      exact ⟨_, hsince, Nat.le_of_not_lt hfresh⟩
    · rintro ⟨t, ht, hfresh⟩
      obtain rfl := Option.some.inj (hsince.symm.trans ht)
      exact ⟨hon, Nat.not_lt.mpr hfresh⟩
  · constructor
    · rintro ⟨hon, -⟩
      rw [hoff] at hon
      cases hon
    · rintro ⟨t, ht, hfresh⟩
      have hpassed := hold t ht
      omega

end MetricEntry.Tracks

end VehicleTelemetry
