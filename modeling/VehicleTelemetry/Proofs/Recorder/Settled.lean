import Mathlib.Tactic
import VehicleTelemetry.Proofs.Energy.Repeated
import VehicleTelemetry.Proofs.Metric.Writes
import VehicleTelemetry.Proofs.Recorder.Reconcile

/-!
What a reconciliation changes, and that there is nothing left for a second one.

* `switchAll`: the passes over the three signals, which leave the meter and all other metrics
  alone;
* `powerLapsed`, `value_reconcilePower_eq`: the pass over the power of the pack as writes at one
  time and a sample without power, which changes no total;
* `entry_reconcile_power`, `meter_reconcile`: each pass goes by what the recorder held before all
  of them;
* `reconcile_eq_pure`: where no signal is on and stale and no power has lapsed there is nothing
  to do, and so it is after a reconciliation (`switched_reconcile`, `not_powerLapsed_reconcile`);
* `reconcile_exact`: the theorem for all recorders and all times.
-/

namespace VehicleTelemetry.Recorder

open MetricStore (ChangesOnly)

variable (r : Recorder) (now : Nat)

/-! ### The signals -/

/-- Switches off every signal that is on and stale. -/
def switchAll : Recorder :=
  Signal.switched.foldl (fun s name => s.switchOff now name) r

lemma value_reconcile_eq_switchAll :
    (r.reconcile now).value = ((r.switchAll now).reconcilePower now).value :=
  r.value_reconcile_eq_switchOff now

lemma meter_switchOff (name : String) : (r.switchOff now name).meter = r.meter := by
  rw [switchOff]
  split <;> rfl

lemma meter_switchAll : (r.switchAll now).meter = r.meter := by
  simp only [switchAll, Signal.switched, List.foldl_cons, List.foldl_nil, meter_switchOff]

lemma changesOnly_switchAll : ChangesOnly Signal.switched r.store (r.switchAll now).store := by
  have hone : ∀ name ∈ Signal.switched, ∀ s : Recorder,
      ChangesOnly Signal.switched s.store (s.switchOff now name).store := by
    intro name hname s other hother
    exact s.entry_switchOff_of_ne now fun h => hother (h ▸ hname)
  exact ((hone _ (by decide) _).trans (hone _ (by decide) _)).trans (hone _ (by decide) _)

/-! ### The power of the pack -/

/-- The power of the pack is stale and not zero. -/
def powerLapsed : Bool :=
  r.store.isStale now Signal.batteryPower && r.store.float Signal.batteryPower != 0.0

/-- What is written when the power of the pack lapses. -/
def zeroPower (totals : EnergyTotals Float) : List (String × MetricValue) :=
  [(Signal.batteryCurrent, .float 0.0), (Signal.batteryPower, .float 0.0),
    (Signal.energyUsed, .float totals.used), (Signal.energyRecovered, .float totals.recovered)]

lemma nodup_zeroPower (totals : EnergyTotals Float) :
    ((zeroPower totals).map Prod.fst).Nodup := by
  show [Signal.batteryCurrent, Signal.batteryPower, Signal.energyUsed,
    Signal.energyRecovered].Nodup
  decide

lemma value_reconcilePower_eq :
    (r.reconcilePower now).value =
      if r.powerLapsed now then
        ⟨r.store.setAll now (zeroPower r.meter.totals), r.meter.sample .battery 0.0 now⟩
      else r := by
  have htotals := r.meter.totals_sample_zero now
  rw [value_reconcilePower, ← powerLapsed]
  split
  · rw [← htotals]
    rfl
  · rfl

lemma powerLapsed_congr {r s : Recorder}
    (h : r.store.entry Signal.batteryPower = s.store.entry Signal.batteryPower) :
    r.powerLapsed now = s.powerLapsed now := by
  rw [powerLapsed, powerLapsed, MetricStore.isStale_congr h, MetricStore.float_congr h]

/-- The passes over the signals leave the power of the pack alone. -/
lemma powerLapsed_switchAll : (r.switchAll now).powerLapsed now = r.powerLapsed now :=
  powerLapsed_congr now (r.changesOnly_switchAll now _ (by decide))

lemma value_reconcile_eq :
    (r.reconcile now).value =
      if r.powerLapsed now then
        ⟨(r.switchAll now).store.setAll now (zeroPower r.meter.totals),
          r.meter.sample .battery 0.0 now⟩
      else r.switchAll now := by
  rw [value_reconcile_eq_switchAll, value_reconcilePower_eq, powerLapsed_switchAll,
    meter_switchAll]

lemma meter_reconcile :
    (r.reconcile now).value.meter =
      if r.powerLapsed now then r.meter.sample .battery 0.0 now else r.meter := by
  rw [value_reconcile_eq]
  split
  · rfl
  · exact r.meter_switchAll now

lemma entry_reconcile_power {name : String} {value : MetricValue}
    (h : (name, value) ∈ zeroPower r.meter.totals) :
    (r.reconcile now).value.store.entry name =
      if r.powerLapsed now then (r.store.entry name).write now value
      else r.store.entry name := by
  have hapart : ∀ other ∈ [Signal.batteryCurrent, Signal.batteryPower, Signal.energyUsed,
      Signal.energyRecovered], other ∉ Signal.switched := by decide
  have hname : name ∉ Signal.switched := hapart name (List.mem_map_of_mem (f := Prod.fst) h)
  rw [value_reconcile_eq, ← r.changesOnly_switchAll now name hname]
  split
  · exact MetricStore.entry_setAll_of_mem _ (nodup_zeroPower _) h
  · rfl

/-! ### Reports -/

/-- The reports that an energy is counted anew. -/
def energyResets : List Event :=
  [.tripEnergyReset, .chargeEnergyReset]

/-- No pass begins to count any energy anew. -/
lemma disjoint_energyResets_reconcile : energyResets.Disjoint (r.reconcile now).events := by
  have hawake (s : Recorder) : energyResets.Disjoint (s.reconcileAwake now).events := by
    rw [reconcileAwake]
    split <;> simp [energyResets, Logged.report]
  have hready (s : Recorder) : energyResets.Disjoint (s.reconcileReady now).events := by
    rw [reconcileReady]
    split <;> simp [energyResets, setReady, Logged.report]
  have hdoor (s : Recorder) : energyResets.Disjoint (s.reconcileChargingDoor now).events := by
    rw [reconcileChargingDoor]
    split <;> simp [energyResets, setChargingDoor, Logged.report]
  have hpower (s : Recorder) : energyResets.Disjoint (s.reconcilePower now).events := by
    rw [reconcilePower]
    split <;> simp [energyResets, setBatteryCurrent, setBatteryPower, sample,
      EnergyMeter.integrate, Logged.report]
  simp only [reconcile, Logged.events_bind, List.disjoint_append_right]
  exact ⟨hawake _, hready _, hdoor _, hpower _⟩

/-! ### Once more -/

/-- A signal that has been reconciled is off, or fresh. -/
lemma switched_reconcile {name : String} (hname : name ∈ Signal.switched) :
    ((r.reconcile now).value.store.isStale now name &&
      (r.reconcile now).value.store.bool name) = false := by
  refine Bool.and_eq_false_imp.mpr fun hstale => Bool.eq_false_iff.mpr fun hon => ?_
  have hentry := r.entry_reconcile_of_bool now hname hon
  rw [r.bool_reconcile now hname, Bool.and_eq_true, Bool.not_eq_true'] at hon
  rw [MetricStore.isStale, hentry, ← MetricStore.isStale, hon.2] at hstale
  cases hstale

lemma not_powerLapsed_reconcile : (r.reconcile now).value.powerLapsed now = false := by
  have hentry := r.entry_reconcile_power now
    (.tail _ (.head _) : (Signal.batteryPower, MetricValue.float 0.0) ∈ zeroPower r.meter.totals)
  by_cases hlapsed : r.powerLapsed now = true
  · rw [if_pos hlapsed] at hentry
    have hzero : ((0.0 : Float) != 0.0) = false := by decide +kernel
    rw [powerLapsed, MetricStore.float, MetricStore.value?, hentry]
    exact Bool.and_eq_false_imp.mpr fun _ => hzero
  · rw [if_neg hlapsed] at hentry
    rw [powerLapsed_congr now hentry]
    exact Bool.eq_false_iff.mpr hlapsed

/-- Where no signal is on and stale and no power has lapsed there is nothing to do. -/
lemma reconcile_eq_pure (hswitched : ∀ name ∈ Signal.switched,
      (r.store.isStale now name && r.store.bool name) = false)
    (hpower : r.powerLapsed now = false) : r.reconcile now = pure r := by
  have hawake : r.reconcileAwake now = pure r := by
    rw [reconcileAwake, hswitched Signal.awake (by decide)]
    rfl
  have hready : r.reconcileReady now = pure r := by
    rw [reconcileReady, hswitched Signal.on (by decide)]
    rfl
  have hdoor : r.reconcileChargingDoor now = pure r := by
    rw [reconcileChargingDoor, hswitched Signal.chargePort (by decide)]
    rfl
  have hrest : r.reconcilePower now = pure r := by
    rw [reconcilePower, ← powerLapsed, hpower]
    rfl
  have hnext (f : Recorder → Logged Recorder) : (pure r >>= f) = f r := rfl
  rw [reconcile, hawake, hnext, hready, hnext, hdoor, hnext, hrest]

/-- **A reconciliation switches off what is stale, and nothing else.** For all recorders and
times,

* awake, ready and the lid are each written off if they were on and stale, and are left as they
  were otherwise;
* the current and the power of the pack are each written zero if the power was stale and not
  zero, and are left as they were otherwise. With them the energies of the pack are written as
  the meter has them, and one sample without power is counted;
* no energy changes, and of the last samples only that of the pack, which is this one; nothing
  is counted anew;
* all other metrics are left as they were, and a second reconciliation at the same time does and
  reports nothing. -/
theorem reconcile_exact :
    (∀ name ∈ [Signal.awake, Signal.on, Signal.chargePort],
      (r.reconcile now).value.store.entry name =
        if r.store.isStale now name && r.store.bool name then
          (r.store.entry name).write now (.bool false)
        else r.store.entry name) ∧
    (∀ name ∈ [Signal.batteryCurrent, Signal.batteryPower],
      (r.reconcile now).value.store.entry name =
        if r.powerLapsed now then (r.store.entry name).write now (.float 0.0)
        else r.store.entry name) ∧
    (r.reconcile now).value.store.entry Signal.energyUsed =
      (if r.powerLapsed now then
        (r.store.entry Signal.energyUsed).write now (.float r.meter.totals.used)
      else r.store.entry Signal.energyUsed) ∧
    (r.reconcile now).value.store.entry Signal.energyRecovered =
      (if r.powerLapsed now then
        (r.store.entry Signal.energyRecovered).write now (.float r.meter.totals.recovered)
      else r.store.entry Signal.energyRecovered) ∧
    (r.reconcile now).value.meter =
      (if r.powerLapsed now then r.meter.sample .battery 0.0 now else r.meter) ∧
    (r.reconcile now).value.meter.totals = r.meter.totals ∧
    (∀ channel, (r.reconcile now).value.meter.last.get channel =
      if r.powerLapsed now ∧ channel = .battery then some now else r.meter.last.get channel) ∧
    (Event.tripEnergyReset ∉ (r.reconcile now).events ∧
      Event.chargeEnergyReset ∉ (r.reconcile now).events) ∧
    ChangesOnly [Signal.awake, Signal.on, Signal.chargePort, Signal.batteryCurrent,
      Signal.batteryPower, Signal.energyUsed, Signal.energyRecovered] r.store
      (r.reconcile now).value.store ∧
    (r.reconcile now).value.reconcile now = pure (r.reconcile now).value := by
  have hresets := r.disjoint_energyResets_reconcile now
  -- after a pass no signal is on and stale and no power has lapsed, so the next one does nothing
  have hagain : (r.reconcile now).value.reconcile now = pure (r.reconcile now).value :=
    reconcile_eq_pure _ now (fun _ => r.switched_reconcile now) (r.not_powerLapsed_reconcile now)
  refine ⟨fun name hname => ?_, fun name hname => ?_,
    r.entry_reconcile_power now (by simp [zeroPower]),
    r.entry_reconcile_power now (by simp [zeroPower]), r.meter_reconcile now, ?_,
    fun channel => ?_, ⟨hresets (.head _), hresets (.tail _ (.head _))⟩,
    r.changesOnly_reconcile now, hagain⟩
  · rw [r.entry_reconcile now hname, switchOff]
    split
    · exact MetricStore.entry_set_self _ _ _ _
    · rfl
  · refine r.entry_reconcile_power now ?_
    simp only [List.mem_cons, List.not_mem_nil, or_false] at hname
    rcases hname with rfl | rfl <;> simp [zeroPower]
  · rw [meter_reconcile]
    split
    · exact r.meter.totals_sample_zero now
    · rfl
  · rw [meter_reconcile]
    by_cases hlapsed : r.powerLapsed now = true
    · simp [hlapsed, EnergyMeter.sample]
    · simp [hlapsed]

/-- A ready signal and a power that is no number, both stale, and a bus that is awake: the first
two are set back, and the trip goes on with the energy that it has. -/
theorem reconcile_exact_power_not_a_number :
    let store := ((MetricStore.withLifetimes.set 0 Signal.awake (.bool true)).set 0 Signal.on
      (.bool true)).set 0 Signal.batteryPower (.float Float.nan)
    let r : Recorder := ⟨store, ⟨⟨1.5, 0.5, 0.0, 0.0⟩, { battery := some 0 }⟩⟩
    let s := (r.reconcile 11000).value
    Signal.awake ∈ [Signal.awake, Signal.on, Signal.chargePort] ∧
      Signal.on ∈ [Signal.awake, Signal.on, Signal.chargePort] ∧
      Signal.batteryPower ∈ [Signal.batteryCurrent, Signal.batteryPower] ∧
      s.store.entry Signal.awake = store.entry Signal.awake ∧
      s.store.entry Signal.on = (store.entry Signal.on).write 11000 (.bool false) ∧
      s.store.entry Signal.batteryPower =
        (store.entry Signal.batteryPower).write 11000 (.float 0.0) ∧
      s.meter.totals = ⟨1.5, 0.5, 0.0, 0.0⟩ ∧ s.reconcile 11000 = pure s := by
  intro store r s
  have hawake : (r.store.isStale 11000 Signal.awake && r.store.bool Signal.awake) = false := by
    decide +kernel
  have hon : (r.store.isStale 11000 Signal.on && r.store.bool Signal.on) = true := by
    decide +kernel
  have hpower : r.powerLapsed 11000 = true := by decide +kernel
  obtain ⟨hsignals, hpack, -, -, -, htotals, -, -, -, hagain⟩ := reconcile_exact r 11000
  refine ⟨by decide, by decide, by decide, ?_, ?_, ?_, htotals, hagain⟩
  · exact (hsignals Signal.awake (by decide)).trans (by rw [hawake]; rfl)
  · exact (hsignals Signal.on (by decide)).trans (by rw [hon]; rfl)
  · exact (hpack Signal.batteryPower (by decide)).trans (by rw [hpower]; rfl)

end VehicleTelemetry.Recorder
