import Mathlib.Tactic
import VehicleTelemetry.Proofs.Session.Charging
import VehicleTelemetry.Proofs.Vehicle.Frame

/-!
The protocol of charging, along runs with a host that may write any metric.

The state of charging is kept as a text in the metric store and read back by every
tick, so nothing but the store ties one tick to the next.

* `MetricStore.Shows`: the metric shows a state of charging;
* `chargeState_performAll`: actions leave its entry, or write the last state that
  they publish;
* `Led` is what `led_step` says of a tick, in terms of the metrics before and after;
* `run_charging`: the theorem for all runs of any vehicle.
-/

namespace VehicleTelemetry

/-- The metric shows a state of charging. -/
def MetricStore.Shows (store : MetricStore) (state : ChargeState) : Prop :=
  store.value? Signal.chargeState = some (.text state.text)

namespace MetricStore

variable {store other : MetricStore} {state : ChargeState}

instance : Decidable (store.Shows state) :=
  inferInstanceAs (Decidable (_ = _))

lemma shows_iff_text : store.Shows state ↔ store.text Signal.chargeState = state.text := by
  constructor
  · intro h
    rw [text, h]
    rfl
  · intro h
    have hne : "" ≠ state.text := by cases state <;> decide
    rw [text] at h
    cases hvalue : store.value? Signal.chargeState with
    | none =>
        rw [hvalue] at h
        exact absurd h hne
    | some value =>
        rw [hvalue] at h
        cases value with
        | text shown =>
            obtain rfl : shown = state.text := h
            exact hvalue
        | bool shown => exact absurd h hne
        | int shown => exact absurd h hne
        | float shown => exact absurd h hne
        | floats shown => exact absurd h hne

lemma Shows.congr (h : store.Shows state)
    (hvalue : other.value? Signal.chargeState = store.value? Signal.chargeState) :
    other.Shows state :=
  hvalue.trans h

end MetricStore

namespace Operation

variable {ρ : Type} {operation : Operation ρ}

/-- Only ticks and the host change the state of charging. -/
lemma chargeState_not_mem_signals (htick : operation ≠ .tick)
    (htouched : Signal.chargeState ∉ operation.touched) :
    Signal.chargeState ∉ operation.signals :=
  not_mem_signals (by decide) (fun _ => by decide)
    (fun part _ => Signal.not_mem_ofPid (by decide) part.pid) (fun h => absurd h htick) htouched

end Operation

/-- A metric's entry once a state of charging is published, if one is. -/
def MetricEntry.showing (entry : MetricEntry) (now : Nat) : Option ChargeState → MetricEntry
  | none => entry
  | some state => entry.write now (.text state.text)

lemma MetricStore.shows_of_entry {store : MetricStore} {entry : MetricEntry} {now : Nat}
    {state : ChargeState}
    (h : store.entry Signal.chargeState = entry.showing now (some state)) : store.Shows state := by
  rw [Shows, value?, h]
  rfl

namespace Vehicle

variable {ρ : Type}

/-- A reconciliation leaves the state of charging to the machine. -/
lemma chargeState_inputs (v : Vehicle ρ) (now : Nat) :
    (v.inputs now).chargeState = v.store.text Signal.chargeState :=
  (v.recorder.changesOnly_reconcile now).text_eq (by decide)

variable [Responder ρ] (v : Vehicle ρ) (now : Nat)

/-! ### What a tick publishes -/

lemma chargeState_perform (action : SessionAction) :
    (v.perform now action).value.store.entry Signal.chargeState =
      (v.store.entry Signal.chargeState).showing now action.shown? := by
  have hother (h : Signal.chargeState ∉ action.signals) :
      (v.perform now action).value.store.entry Signal.chargeState =
        v.store.entry Signal.chargeState :=
    (v.performFrame_perform now action).changesOnly _ h
  cases action with
  | setChargeState state => exact MetricStore.entry_set_self _ _ _ _
  | resetBus => exact hother (by decide)
  | transition source target => exact hother (by simp only [SessionAction.signals]; decide)
  | markTripStart => exact hother (by decide)
  | requestChargeMode => exact hother (by decide)
  | requestChargeType => exact hother (by decide)

/-- Actions leave the entry, or write the last state of charging that they publish. -/
lemma chargeState_performAll (actions : List SessionAction) :
    (v.performAll now actions).store.entry Signal.chargeState =
      (v.store.entry Signal.chargeState).showing now
        (actions.filterMap SessionAction.shown?).getLast? := by
  induction actions generalizing v with
  | nil => rfl
  | cons action rest ih =>
      rw [performAll_cons, ih, chargeState_perform, List.filterMap_cons]
      cases action.shown? with
      | none => rfl
      | some state =>
          rw [List.getLast?_cons]
          cases (rest.filterMap SessionAction.shown?).getLast? <;> rfl

/-- A tick writes what the machine's evaluation publishes of charging. -/
lemma exists_leads_tick :
    ∃ shown : Option ChargeState,
      (v.tick now).value.store.entry Signal.chargeState =
        (v.store.entry Signal.chargeState).showing now shown ∧
      SessionMachine.Leads (v.inputs now) v.state shown (v.tick now).value.state := by
  obtain ⟨shown, hshown, hleads⟩ := v.machine.led_step (v.inputs now)
  have hlast : ((v.decision now).1.filterMap SessionAction.shown?).getLast? = shown := by
    rw [decision_eq, hshown]
    cases shown <;> rfl
  have hreconcile : (v.decided now).store.entry Signal.chargeState =
      v.store.entry Signal.chargeState :=
    v.recorder.changesOnly_reconcile now _ (by decide)
  refine ⟨shown, ?_, ?_⟩
  · rw [value_tick, chargeState_performAll, hlast, hreconcile]
  · rw [state, state, machine_tick, decision_eq]
    exact hleads

/-- A tick that ends in charging leaves a state of charging that is not the end. -/
lemma shows_tick (h : (v.tick now).value.state = .charging) :
    ∃ state : ChargeState, state ≠ .done ∧ (v.tick now).value.store.Shows state := by
  obtain ⟨shown, hentry, hleads⟩ := v.exists_leads_tick now
  rw [h] at hleads
  obtain ⟨state, hdone, rfl | ⟨rfl, htext⟩⟩ := hleads.shows
  · exact ⟨state, hdone, MetricStore.shows_of_entry hentry⟩
  · rw [chargeState_inputs] at htext
    have hbefore : v.store.Shows state := MetricStore.shows_iff_text.mpr htext
    exact ⟨state, hdone, hbefore.congr (congrArg MetricEntry.value hentry)⟩

/-- A tick that writes the state of charging ends in charging. -/
lemma chargeState_tick :
    (v.tick now).value.store.entry Signal.chargeState = v.store.entry Signal.chargeState ∨
      (v.tick now).value.state = .charging ∧ ∃ state : ChargeState, state ≠ .done ∧
        (v.tick now).value.store.entry Signal.chargeState =
          (v.store.entry Signal.chargeState).showing now (some state) := by
  obtain ⟨_ | state, hentry, hleads⟩ := v.exists_leads_tick now
  · exact .inl hentry
  · obtain ⟨hdone, hcharging⟩ := hleads.of_shown
    exact .inr ⟨hcharging, state, hdone, hentry⟩

/-- What ends charging, and where it leads. -/
lemma state_tick_of_charging (h : v.state = .charging) :
    ((v.tick now).value.state = .charging ∨ (v.tick now).value.state = .awake) ∧
      ((v.tick now).value.state = .awake ↔ v.store.Shows .doorOpen ∧
        (v.inputs now).pilotPresent = false ∧ (v.inputs now).chargePortOpen = false) := by
  obtain ⟨shown, -, hleads⟩ := v.exists_leads_tick now
  rw [h] at hleads
  obtain ⟨hends, hawake⟩ := hleads.closes_iff
  refine ⟨hends, hawake.trans ?_⟩
  rw [MetricStore.shows_iff_text, ← chargeState_inputs v now]
  exact ⟨fun hclosed => ⟨hclosed.1, hclosed.2, hclosed.3⟩, fun ⟨hstate, hpilot, hport⟩ =>
    ⟨hstate, hpilot, hport⟩⟩

/-- A tick of a charging vehicle takes an edge from the state of charging if there is
one, and keeps the state otherwise. -/
lemma edge_tick (h : v.state = .charging) {state : ChargeState} (hshows : v.store.Shows state)
    (hdone : state ≠ .done) :
    ∃ next : ChargeState, (v.tick now).value.store.Shows next ∧
      (state = next ∧ (∀ other, ¬ ChargeState.Edge (v.inputs now) state other) ∨
        ChargeState.Edge (v.inputs now) state next) := by
  obtain ⟨shown, hentry, hleads⟩ := v.exists_leads_tick now
  rw [h] at hleads
  have htext : (v.inputs now).chargeState = state.text := by
    rw [chargeState_inputs]
    exact MetricStore.shows_iff_text.mp hshows
  obtain ⟨rfl, hstill⟩ | ⟨next, rfl, hedge⟩ := hleads.stays_or_moves htext hdone
  · exact ⟨state, hshows.congr (congrArg MetricEntry.value hentry), .inl ⟨rfl, hstill⟩⟩
  · exact ⟨next, MetricStore.shows_of_entry hentry, .inr hedge⟩

/-! ### Other steps -/

/-- Between ticks the state of charging is shown until the host writes another. -/
lemma shows_step {s : Step ρ} (htick : s.operation ≠ .tick)
    (hset : ∀ value, s.operation ≠ .setMetric Signal.chargeState value) {state : ChargeState}
    (h : v.store.Shows state) : (v.step s).1.store.Shows state :=
  h.congr (v.value?_step (by decide) (fun _ => by decide)
    (fun part _ => Signal.not_mem_ofPid (by decide) part.pid) (fun htick' => absurd htick' htick)
    hset)

/-- So does a run between two ticks, and the vehicle goes on charging. -/
lemma run_between {between : List (Step ρ)}
    (hbetween : ∀ s ∈ between, s.operation ≠ .tick ∧
      ∀ value, s.operation ≠ .setMetric Signal.chargeState value)
    {state : ChargeState} (h : v.state = .charging ∧ v.store.Shows state) :
    (v.run between).state = .charging ∧ (v.run between).store.Shows state := by
  refine run_preserves (P := fun u => u.state = .charging ∧ u.store.Shows state) between ?_ h
  rintro u s hs ⟨hstate, hshows⟩
  obtain ⟨htick, hset⟩ := hbetween s hs
  refine ⟨?_, u.shows_step htick hset hshows⟩
  rw [Vehicle.state, u.machine_step htick]
  exact hstate

/-! ### Runs -/

/-- **The protocol of charging.** In every run of a vehicle, whatever the host does
to its metrics:

* after a tick that ends in charging the metric shows the open lid, the connected
  cable or charging;
* a step in which the host leaves the metric alone leaves its entry alone, or is a
  tick that ends in charging and publishes another state than the end of charging;
* charging leads to nothing but awake, by a tick that finds the open lid published,
  no cable and, after its reconciliation, the lid closed;
* from one tick that ends in charging to the next tick, with a host that does not
  write the metric in between, the metric takes an edge if the signals of that tick
  allow one, and keeps its state otherwise. -/
theorem run_charging (steps : List (Step ρ)) :
    (∀ before s after, steps = before ++ s :: after →
      let u := v.run before
      let w := (u.step s).1
      let inputs := u.inputs s.time
      (s.operation = .tick → w.state = .charging →
        ∃ state : ChargeState, state ≠ .done ∧ w.store.Shows state) ∧
      (s.Leaves [Signal.chargeState] →
        w.store.entry Signal.chargeState = u.store.entry Signal.chargeState ∨
          s.operation = .tick ∧ w.state = .charging ∧
            ∃ state : ChargeState, state ≠ .done ∧ w.store.entry Signal.chargeState =
              (u.store.entry Signal.chargeState).showing s.time (some state)) ∧
      (u.state = .charging →
        (w.state = .charging ∨ w.state = .awake) ∧
          (w.state = .awake ↔ s.operation = .tick ∧ u.store.Shows .doorOpen ∧
            inputs.pilotPresent = false ∧ inputs.chargePortOpen = false))) ∧
    ∀ before first between second after,
      steps = before ++ first :: (between ++ second :: after) →
      first.operation = .tick → second.operation = .tick →
      (∀ s ∈ between, s.operation ≠ .tick ∧
        ∀ value, s.operation ≠ .setMetric Signal.chargeState value) →
      let u := ((v.run before).step first).1
      let w := u.run between
      u.state = .charging →
        ∃ state next : ChargeState, u.store.Shows state ∧ (w.step second).1.store.Shows next ∧
          (state = next ∧ (∀ other, ¬ ChargeState.Edge (w.inputs second.time) state other) ∨
            ChargeState.Edge (w.inputs second.time) state next) := by
  constructor
  -- one step: nothing but a tick evaluates the session
  · rintro before s after rfl u w inputs
    by_cases htick : s.operation = .tick
    · have hw : w = (u.tick s.time).value := u.step_of_tick htick
      rw [hw]
      refine ⟨fun _ => u.shows_tick s.time, fun _ => ?_, fun hcharging => ?_⟩
      · exact (u.chargeState_tick s.time).imp_right fun h => ⟨htick, h⟩
      · obtain ⟨hends, hawake⟩ := u.state_tick_of_charging s.time hcharging
        exact ⟨hends, hawake.trans ⟨fun h => ⟨htick, h⟩, fun h => h.2⟩⟩
    · have hw : w.state = u.state := congrArg SessionMachine.state (u.machine_step htick)
      refine ⟨fun h => absurd h htick, fun hleaves => .inl ?_, fun hcharging => ?_⟩
      · have htouched : Signal.chargeState ∉ s.operation.touched := fun hmem =>
          hleaves _ hmem (List.mem_singleton.mpr rfl)
        exact u.changesOnly_step s _ (Operation.chargeState_not_mem_signals htick htouched)
      · rw [hw, hcharging]
        exact ⟨.inl rfl, nofun, fun h => absurd h.1 htick⟩
  -- from tick to tick: what the first tick has published is still shown when the second comes
  · rintro before first between second after rfl hfirst hsecond hbetween u w hcharging
    have hu : u = ((v.run before).tick first.time).value := step_of_tick _ hfirst
    obtain ⟨state, hdone, hshows⟩ : ∃ state : ChargeState, state ≠ .done ∧ u.store.Shows state := by
      rw [hu] at hcharging ⊢
      exact shows_tick _ _ hcharging
    obtain ⟨hstill, hshown⟩ := u.run_between hbetween ⟨hcharging, hshows⟩
    obtain ⟨next, hnext, hedge⟩ := w.edge_tick second.time hstill hshown hdone
    rw [← w.step_of_tick hsecond] at hnext
    exact ⟨state, next, hshows, hnext, hedge⟩

/-- The host replaces the state of charging by a number, which the next tick mends;
then a cable is plugged in and out as the host sees it, and the lid is not heard of
until it counts as closed. -/
theorem run_charging_mended :
    let lid : Chunk :=
      { sender := Ecu.plugInControl.responseId, pid := Pid.chargingLid.number, first := true,
        bytes := [0, 2], remaining := 0 }
    let before : List (Step Script) := [⟨1000, .frame⟩, ⟨1000, .tick⟩, ⟨1500, .chunk lid⟩,
      ⟨2000, .tick⟩, ⟨2500, .setMetric Signal.chargeState (.int 7)⟩]
    let mend : Step Script := ⟨3000, .tick⟩
    let plugIn : List (Step Script) := [⟨3500, .setMetric Signal.pilot (.bool true)⟩]
    let connect : Step Script := ⟨4000, .tick⟩
    let plugOut : List (Step Script) :=
      [⟨4500, .setMetric Signal.pilot (.bool false)⟩, ⟨5000, .tick⟩]
    let close : Step Script := ⟨500000, .tick⟩
    let u := bench.run (before ++ [mend])
    let w := u.run plugIn
    let last := bench.run (before ++ mend :: (plugIn ++ connect :: plugOut))
    u.state = .charging ∧ last.state = .charging ∧ (last.step close).1.state = .awake ∧
      (∃ state next : ChargeState, u.store.Shows state ∧ (w.step connect).1.store.Shows next ∧
        (state = next ∧ (∀ other, ¬ ChargeState.Edge (w.inputs connect.time) state other) ∨
          ChargeState.Edge (w.inputs connect.time) state next)) ∧
      last.store.Shows .doorOpen ∧ (last.inputs close.time).pilotPresent = false ∧
      (last.inputs close.time).chargePortOpen = false := by
  intro lid before mend plugIn connect plugOut close u w last
  have hmended : u.state = .charging := by decide +kernel
  have hlast : last.state = .charging := by decide +kernel
  have hclosed : (last.step close).1.state = .awake := by decide +kernel
  have hbetween : ∀ s ∈ plugIn, s.operation ≠ .tick ∧
      ∀ value, s.operation ≠ .setMetric Signal.chargeState value := by
    have hpilot : Signal.pilot ≠ Signal.chargeState := by decide
    simp [plugIn, hpilot]
  have hmend : ((bench.run before).step mend).1 = u := (run_append bench before [mend]).symm
  have h := run_charging bench (before ++ mend :: (plugIn ++ connect :: (plugOut ++ [close])))
  have hconnect := h.2 before mend plugIn connect (plugOut ++ [close]) rfl rfl rfl hbetween
  have hclose := h.1 (before ++ mend :: (plugIn ++ connect :: plugOut)) close []
    (by simp only [List.append_assoc, List.cons_append])
  rw [hmend] at hconnect
  exact ⟨hmended, hlast, hclosed, hconnect hmended, ((hclose.2.2 hlast).2.mp hclosed).2⟩

end Vehicle

end VehicleTelemetry
