import Mathlib.Tactic
import VehicleTelemetry.Proofs.Energy.History
import VehicleTelemetry.Proofs.Recorder.Frame

/-!
The energy accounts of a recorder: the meter counts, and four metrics show what
it has counted.

* `MetricStore.energies` reads the four metrics as the totals of a meter;
* `resetsBetween` gives the channels that are counted anew because ready or
  charging has gone from false to true;
* `Accounts events before after`: the meter has recorded just these events, and
  the metrics still show the meter. `accounts_setBatteryPower`, `accounts_startCharge`
  and so on prove it of every sample and every reset, and `accounts_reconcile` of a
  whole reconciliation;
* `LeavesEnergy` is the frame of all other operations.
-/

namespace VehicleTelemetry

/-- The metrics that show energies. -/
def Signal.energies : List String :=
  [energyUsed, energyRecovered, chargeEnergy, gridEnergy]

/-- The metrics that the energy accounts have to do with. -/
def Signal.metered : List String :=
  on :: chargeInProgress :: energies

namespace MetricStore

/-- The energies that a store shows; a metric that is not set counts as zero. -/
def energies (store : MetricStore) : EnergyTotals Float where
  used := store.float Signal.energyUsed
  recovered := store.float Signal.energyRecovered
  charger := store.float Signal.chargeEnergy
  grid := store.float Signal.gridEnergy

/-- Whether a signal is false in one store and true in a later one. -/
def rises (name : String) (before after : MetricStore) : Bool :=
  !before.bool name && after.bool name

variable (store : MetricStore) (now : Nat)

lemma rises_eq_false {name : String} {before after : MetricStore}
    (h : after.bool name = true → before.bool name = true) : before.rises name after = false := by
  rw [rises, Bool.and_eq_false_imp]
  intro hbefore
  rw [Bool.not_eq_true'] at hbefore
  exact Bool.eq_false_iff.mpr fun hafter => by simp [h hafter] at hbefore

lemma energies_eq_of_value? {before after : MetricStore}
    (h : ∀ name ∈ Signal.energies, after.value? name = before.value? name) :
    after.energies = before.energies := by
  simp only [Signal.energies, List.forall_mem_cons] at h
  obtain ⟨hused, hrecovered, hcharger, hgrid, -⟩ := h
  simp only [energies, float, hused, hrecovered, hcharger, hgrid]

lemma energies_set_of_notMem {name : String} (hname : name ∉ Signal.energies)
    (value : MetricValue) : (store.set now name value).energies = store.energies := by
  refine energies_eq_of_value? fun other hother => ?_
  have hne : other ≠ name := fun h => hname (h ▸ hother)
  exact value?_set_of_ne _ _ hne _

end MetricStore

/-- The channels that are counted anew between two stores: the battery when
ready begins, all when charging begins. -/
def resetsBetween (before after : MetricStore) : List (EnergyEvent Float) :=
  (if before.rises Signal.on after then [.reset .battery] else []) ++
    if before.rises Signal.chargeInProgress after then EnergyChannel.all.map .reset else []

lemma resetsBetween_eq_nil {before after : MetricStore}
    (hready : before.rises Signal.on after = false)
    (hcharging : before.rises Signal.chargeInProgress after = false) :
    resetsBetween before after = [] := by
  simp [resetsBetween, hready, hcharging]

lemma resetsBetween_eq_nil_of_changesOnly {names : List String} {before after : MetricStore}
    (h : MetricStore.ChangesOnly names before after) (hready : Signal.on ∉ names)
    (hcharging : Signal.chargeInProgress ∉ names) : resetsBetween before after = [] :=
  resetsBetween_eq_nil
    (MetricStore.rises_eq_false fun hafter => by rwa [h.bool_eq hready] at hafter)
    (MetricStore.rises_eq_false fun hafter => by rwa [h.bool_eq hcharging] at hafter)

namespace Recorder

/-! ### Accounts -/

/-- The meter records some events, and metrics that have shown what it counts do
so afterwards. -/
structure Accounts (events : List (EnergyEvent Float)) (before after : Recorder) : Prop where
  meter_eq : after.meter = before.meter.recordAll events
  energies_eq : before.store.energies = before.meter.totals →
    after.store.energies = after.meter.totals

lemma Accounts.refl (r : Recorder) : Accounts [] r r :=
  ⟨rfl, id⟩

lemma Accounts.trans {events more : List (EnergyEvent Float)} {a b c : Recorder}
    (h : Accounts events a b) (h' : Accounts more b c) : Accounts (events ++ more) a c where
  meter_eq := by rw [h'.meter_eq, h.meter_eq, EnergyMeter.recordAll_append]
  energies_eq := fun ha => h'.energies_eq (h.energies_eq ha)

lemma Accounts.put (r : Recorder) (now : Nat) {name : String} (hname : name ∉ Signal.energies)
    (value : MetricValue) : Accounts [] r (r.put now name value) :=
  ⟨rfl, fun hshown => (MetricStore.energies_set_of_notMem _ _ hname _).trans hshown⟩

/-- An operation that neither the meter nor the metered signals notice. -/
structure LeavesEnergy (before after : Recorder) : Prop where
  meter_eq : after.meter = before.meter
  value?_eq : ∀ name ∈ Signal.metered, after.store.value? name = before.store.value? name

namespace LeavesEnergy

variable {a b c : Recorder}

lemma of_changesOnly {names : List String} (hmeter : b.meter = a.meter)
    (hstore : MetricStore.ChangesOnly names a.store b.store)
    (hnames : ∀ name ∈ Signal.metered, name ∉ names) : LeavesEnergy a b :=
  ⟨hmeter, fun name hname => hstore.value?_eq (hnames name hname)⟩

lemma put (r : Recorder) (now : Nat) {name : String} (hname : name ∉ Signal.metered)
    (value : MetricValue) : LeavesEnergy r (r.put now name value) :=
  of_changesOnly rfl (.set (List.mem_singleton_self name) _ _ _) fun _ hother hmem =>
    hname (List.mem_singleton.mp hmem ▸ hother)

lemma accounts (h : LeavesEnergy a b) : Accounts [] a b := by
  refine ⟨h.meter_eq, fun hshown => ?_⟩
  have hstore : b.store.energies = a.store.energies :=
    MetricStore.energies_eq_of_value? fun name hname =>
      h.value?_eq name (List.mem_cons_of_mem _ (List.mem_cons_of_mem _ hname))
  rw [hstore, hshown, h.meter_eq]

lemma bool_eq (h : LeavesEnergy a b) {name : String} (hname : name ∈ Signal.metered) :
    b.store.bool name = a.store.bool name := by
  rw [MetricStore.bool, MetricStore.bool, h.value?_eq name hname]

lemma resetsBetween_eq_nil (h : LeavesEnergy a b) : resetsBetween a.store b.store = [] :=
  VehicleTelemetry.resetsBetween_eq_nil
    (MetricStore.rises_eq_false fun hafter => by rwa [h.bool_eq (by decide)] at hafter)
    (MetricStore.rises_eq_false fun hafter => by rwa [h.bool_eq (by decide)] at hafter)

end LeavesEnergy

variable (r : Recorder) (now : Nat)

/-! ### Operations that count energy -/

lemma credit_battery_eta (totals : EnergyTotals Float) (delta : Float) :
    { totals with
      used := (totals.credit .battery delta).used
      recovered := (totals.credit .battery delta).recovered } =
      totals.credit .battery delta := by
  rw [EnergyTotals.credit]
  split_ifs <;> rfl

lemma accounts_setBatteryPower (power : Float) :
    Accounts [.sample .battery power now] r (r.setBatteryPower now power).value := by
  refine ⟨rfl, fun hshown => ?_⟩
  have hstore : (r.setBatteryPower now power).value.store.energies =
      { r.store.energies with
        used := (r.meter.sample .battery power now).totals.used
        recovered := (r.meter.sample .battery power now).totals.recovered } := by
    simp only [value_setBatteryPower, putBatteryEnergy, store_put, store_count, meter_count,
      MetricStore.energies, MetricStore.float_set]
    rfl
  rw [hstore, hshown]
  exact credit_battery_eta _ _

lemma accounts_setBatteryChargingPower (power : Float) :
    Accounts [.sample .charger power now] r (r.setBatteryChargingPower now power).value := by
  refine ⟨rfl, fun hshown => ?_⟩
  have hstore : (r.setBatteryChargingPower now power).value.store.energies =
      { r.store.energies with charger := (r.meter.sample .charger power now).totals.charger } := by
    simp only [value_setBatteryChargingPower, store_put, store_count, meter_count,
      MetricStore.energies, MetricStore.float_set]
    rfl
  rw [hstore, hshown]
  rfl

lemma accounts_setChargerInputPower (power : Float) :
    Accounts [.sample .grid power now] r (r.setChargerInputPower now power).value := by
  refine ⟨rfl, fun hshown => ?_⟩
  have hstore : (r.setChargerInputPower now power).value.store.energies =
      { r.store.energies with grid := (r.meter.sample .grid power now).totals.grid } := by
    have hpower : Signal.chargePower ∉ Signal.energies := by decide
    rw [← MetricStore.energies_set_of_notMem r.store now hpower (.float power)]
    simp only [value_setChargerInputPower, store_put, store_count, meter_count,
      MetricStore.energies, MetricStore.float_set]
    rfl
  rw [hstore, hshown]
  rfl

lemma accounts_clearBatteryEnergy :
    Accounts [.reset .battery] r ((r.resetEnergy .battery).clearBatteryEnergy now) := by
  refine ⟨rfl, fun hshown => ?_⟩
  have hstore : ((r.resetEnergy .battery).clearBatteryEnergy now).store.energies =
      { r.store.energies with used := 0.0, recovered := 0.0 } := by
    simp only [clearBatteryEnergy, store_put, store_resetEnergy, MetricStore.energies,
      MetricStore.float_set]
    rfl
  rw [hstore, hshown]
  rfl

lemma accounts_startCharge :
    Accounts (EnergyChannel.all.map .reset) r (r.startCharge now).value := by
  refine ⟨rfl, fun _ => ?_⟩
  simp only [value_startCharge, clearBatteryEnergy, store_put, MetricStore.energies,
    MetricStore.float_set]
  rfl

/-! ### Edges -/

lemma bool_setReady (ready : Bool) :
    (r.setReady now ready).value.store.bool Signal.on = ready := by
  have hput : (r.put now Signal.on (.bool ready)).store.bool Signal.on = ready := by
    rw [store_put, MetricStore.bool_set, if_pos rfl]
  rw [value_setReady]
  split
  · rw [(changesOnly_clearBatteryEnergy _ now).bool_eq (by decide)]
    exact hput
  · exact hput

lemma bool_setChargingStatus (charging : Bool) :
    (r.setChargingStatus now charging).value.store.bool Signal.chargeInProgress = charging := by
  have hput : (r.put now Signal.chargeInProgress (.bool charging)).store.bool
      Signal.chargeInProgress = charging := by
    rw [store_put, MetricStore.bool_set, if_pos rfl]
  rw [value_setChargingStatus]
  split
  · rw [(changesOnly_startCharge _ now).bool_eq (by decide)]
    exact hput
  · exact hput

/-! ### Reconciliation -/

/-- The sample that a reconciliation counts: no power, once the last power of the
pack is stale. -/
def staleSamples (r : Recorder) (now : Nat) : List (EnergyEvent Float) :=
  if r.store.isStale now Signal.batteryPower && r.store.float Signal.batteryPower != 0.0 then
    [.sample .battery 0.0 now]
  else []

lemma accounts_reconcilePower :
    Accounts (r.staleSamples now) r (r.reconcilePower now).value := by
  rw [value_reconcilePower, staleSamples]
  split
  · have hcurrent : LeavesEnergy r (r.put now Signal.batteryCurrent (.float 0.0)) :=
      .put r now (by decide) _
    exact hcurrent.accounts.trans (accounts_setBatteryPower _ now 0.0)
  · exact .refl r

lemma accounts_reconcileReady : Accounts [] r (r.reconcileReady now).value := by
  rw [value_reconcileReady]
  split
  · exact .put r now (by decide) _
  · exact .refl r

lemma leavesEnergy_reconcileAwake : LeavesEnergy r (r.reconcileAwake now).value := by
  refine .of_changesOnly ?_ (r.changesOnly_reconcileAwake now) (by decide)
  rw [value_reconcileAwake]
  split <;> rfl

lemma leavesEnergy_reconcileChargingDoor : LeavesEnergy r (r.reconcileChargingDoor now).value := by
  refine .of_changesOnly ?_ (r.changesOnly_reconcileChargingDoor now) (by decide)
  rw [value_reconcileChargingDoor]
  split <;> rfl

/-- A reconciliation counts no power of the pack if the last one is stale, and
nothing else: switching ready off is no reset. -/
lemma accounts_reconcile : Accounts (r.staleSamples now) r (r.reconcile now).value := by
  have hbefore : MetricStore.ChangesOnly [Signal.awake, Signal.on, Signal.chargePort] r.store
      (((r.reconcileAwake now).value.reconcileReady now).value.reconcileChargingDoor
        now).value.store :=
    (((r.changesOnly_reconcileAwake now).mono (by simp)).trans
      ((changesOnly_reconcileReady _ now).mono (by simp))).trans
      ((changesOnly_reconcileChargingDoor _ now).mono (by simp))
  have hsamples : staleSamples (((r.reconcileAwake now).value.reconcileReady
      now).value.reconcileChargingDoor now).value now = r.staleSamples now := by
    rw [staleSamples, hbefore.isStale_eq (by decide), hbefore.float_eq (by decide), staleSamples]
  rw [value_reconcile, ← hsamples]
  exact (((r.leavesEnergy_reconcileAwake now).accounts.trans
    (accounts_reconcileReady _ now)).trans
    (leavesEnergy_reconcileChargingDoor _ now).accounts).trans (accounts_reconcilePower _ now)

/-- A reconciliation can only switch ready off. -/
lemma rises_on_reconcile : r.store.rises Signal.on (r.reconcile now).value.store = false := by
  refine MetricStore.rises_eq_false fun hafter => ?_
  rw [value_reconcile, (changesOnly_reconcilePower _ now).bool_eq (by decide),
    (changesOnly_reconcileChargingDoor _ now).bool_eq (by decide), value_reconcileReady] at hafter
  split at hafter
  · rw [store_put, MetricStore.bool_set, if_pos rfl] at hafter
    cases hafter
  · rwa [(r.changesOnly_reconcileAwake now).bool_eq (by decide)] at hafter

lemma rises_charging_reconcile :
    r.store.rises Signal.chargeInProgress (r.reconcile now).value.store = false := by
  refine MetricStore.rises_eq_false fun hafter => ?_
  rwa [(r.changesOnly_reconcile now).bool_eq (by decide)] at hafter

end Recorder

end VehicleTelemetry
