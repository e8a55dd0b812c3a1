import Mathlib.Tactic
import VehicleTelemetry.Proofs.Recorder.Reconcile
import VehicleTelemetry.Proofs.Vehicle.Charging

/-!
Which of the signals that a tick acts on are fresh.

A reconciliation switches off three of the five signals that the session machine
looks at; all five have a lifetime.

* `Vehicle.ActsOnFresh`: no signal that a tick hands to the session machine is on
  while its metric is stale;
* `actsOnFresh_iff`: this is so exactly when the two signals that are not switched
  off, the cable and charging, are not on and stale before the tick;
* `Plugged.run_ticks`: as these two never time out, a connected vehicle from which
  nothing is heard any more keeps charging for ever.
-/

namespace VehicleTelemetry

/-- The signals of the session machine that no reconciliation switches off. -/
def Signal.held : List String :=
  [pilot, chargeInProgress]

/-- The signals that are on or off, each with the metric that it is read from. -/
def SessionInputs.switches (inputs : SessionInputs) : List (String × Bool) :=
  [(Signal.awake, inputs.awake), (Signal.on, inputs.vehicleOn),
    (Signal.chargePort, inputs.chargePortOpen), (Signal.pilot, inputs.pilotPresent),
    (Signal.chargeInProgress, inputs.chargingInProgress)]

lemma Recorder.switches_sessionInputs (r : Recorder) :
    r.sessionInputs.switches =
      (Signal.switched ++ Signal.held).map fun name => (name, r.store.bool name) :=
  rfl

namespace Vehicle

variable {ρ : Type} (v : Vehicle ρ) (now : Nat)

/-- No signal that a tick hands to the session machine is on while its metric is
stale. -/
def ActsOnFresh : Prop :=
  ∀ p ∈ (v.inputs now).switches, p.2 = true →
    (v.reconciled now).store.isStale now p.1 = false

/-- A signal that is switched off when it is stale is fresh when it is on. -/
lemma isStale_reconciled_of_switched {name : String} (hname : name ∈ Signal.switched)
    (hon : (v.reconciled now).store.bool name = true) :
    (v.reconciled now).store.isStale now name = false := by
  have hentry : (v.reconciled now).store.entry name = v.store.entry name :=
    v.recorder.entry_reconcile_of_bool now hname hon
  have hbefore : (v.store.bool name && !v.store.isStale now name) = true :=
    (v.recorder.bool_reconcile now hname).symm.trans hon
  rw [Bool.and_eq_true, Bool.not_eq_true'] at hbefore
  exact (MetricStore.isStale_congr hentry now).trans hbefore.2

/-- A reconciliation leaves the other two signals as they are. -/
lemma entry_reconciled_of_held {name : String} (hname : name ∈ Signal.held) :
    (v.reconciled now).store.entry name = v.store.entry name := by
  refine v.recorder.changesOnly_reconcile now name ?_
  revert name
  decide

/-- **A tick acts on stale signals of the cable and of charging, and on no other
ones.** -/
theorem actsOnFresh_iff :
    v.ActsOnFresh now ↔
      ∀ name ∈ [Signal.pilot, Signal.chargeInProgress],
        v.store.bool name = true → v.store.isStale now name = false := by
  -- the reconciliation passes over the two held signals, stale or not
  have hheld : ∀ name ∈ Signal.held,
      (v.reconciled now).store.bool name = v.store.bool name ∧
        (v.reconciled now).store.isStale now name = v.store.isStale now name := by
    intro name hname
    have hentry := v.entry_reconciled_of_held now hname
    exact ⟨MetricStore.bool_congr hentry, MetricStore.isStale_congr hentry now⟩
  rw [ActsOnFresh, inputs, Recorder.switches_sessionInputs, List.forall_mem_map]
  constructor
  · intro h name hname
    obtain ⟨hbool, hstale⟩ := hheld name hname
    rw [← hbool, ← hstale]
    exact h name (List.mem_append_right _ hname)
  · intro h name hname hon
    -- one that is switched off when stale cannot be on and stale after it
    obtain hswitched | hheld' := List.mem_append.mp hname
    · exact v.isStale_reconciled_of_switched now hswitched hon
    · obtain ⟨hbool, hstale⟩ := hheld name hheld'
      rw [hstale]
      exact h name hheld' (hbool ▸ hon)

/-- The bus goes silent when a cable has been plugged in. Eleven seconds later the
cable counts as stale, and the tick takes it for connected. -/
theorem silent_cable_acts_stale :
    let lid : Chunk :=
      { sender := Ecu.plugInControl.responseId, pid := Pid.chargingLid.number, first := true,
        bytes := [0, 2], remaining := 0 }
    let cable : Chunk :=
      { sender := Ecu.plugInControl.responseId, pid := Pid.piswStatus.number, first := true,
        bytes := [3], remaining := 0 }
    let v := bench.run [⟨0, .frame⟩, ⟨0, .tick⟩, ⟨0, .chunk lid⟩, ⟨0, .tick⟩, ⟨0, .chunk cable⟩]
    ¬ v.ActsOnFresh 11000 ∧ (v.inputs 11000).pilotPresent = true ∧
      (v.tick 11000).value.store.Shows .connected := by
  intro lid cable v
  have hpilot : (v.inputs 11000).pilotPresent = true := by decide +kernel
  have hstale : (v.reconciled 11000).store.isStale 11000 Signal.pilot = true := by decide +kernel
  have hshows : (v.tick 11000).value.store.Shows .connected := by decide +kernel
  -- what is left does not depend on the steps, and must not evaluate the run again
  clear_value v
  refine ⟨fun hfresh => ?_, hpilot, hshows⟩
  have hmem : (Signal.pilot, (v.inputs 11000).pilotPresent) ∈ (v.inputs 11000).switches :=
    .tail _ (.tail _ (.tail _ (.head _)))
  have hnot := hfresh _ hmem hpilot
  rw [hstale] at hnot
  cases hnot

/-! ### Silence -/

/-- A vehicle in a charging session, with a cable connected and no charging going
on. -/
structure Plugged (v : Vehicle ρ) : Prop where
  state_eq : v.state = .charging
  shows : v.store.Shows .connected
  pilot_eq : v.store.bool Signal.pilot = true
  charging_eq : v.store.bool Signal.chargeInProgress = false

variable {v}

lemma Plugged.tick [Responder ρ] (h : v.Plugged) (now : Nat) : (v.tick now).value.Plugged := by
  have hframe := v.changesOnly_tick now
  have hreconcile := v.recorder.changesOnly_reconcile now
  have hpilot : (v.inputs now).pilotPresent = true :=
    (hreconcile.bool_eq (by decide)).trans h.pilot_eq
  have hcharging : (v.inputs now).chargingInProgress = false :=
    (hreconcile.bool_eq (by decide)).trans h.charging_eq
  obtain ⟨hends, hawake⟩ := v.state_tick_of_charging now h.state_eq
  -- each way out of the connected state needs another reading of the cable or of the charge
  refine ⟨?_, ?_, ?_, ?_⟩
  · refine hends.resolve_right fun hclosed => ?_
    rw [(hawake.mp hclosed).2.1] at hpilot
    cases hpilot
  · obtain ⟨next, hnext, ⟨rfl, -⟩ | hedge⟩ := v.edge_tick now h.state_eq h.shows nofun
    · exact hnext
    · cases hedge with
      | start hstarts =>
          rw [hcharging] at hstarts
          cases hstarts
      | unplug _ hunplugged =>
          rw [hpilot] at hunplugged
          cases hunplugged
  · rw [hframe.bool_eq (by decide)]
    exact h.pilot_eq
  · rw [hframe.bool_eq (by decide)]
    exact h.charging_eq

/-- A connected vehicle from which nothing is heard keeps charging, however long it
is silent. -/
theorem Plugged.run_ticks [Responder ρ] (h : v.Plugged) (times : List Nat) :
    (v.run (times.map fun now => ⟨now, .tick⟩)).Plugged := by
  refine run_preserves (P := Plugged) _ ?_ h
  intro u s hs hu
  obtain ⟨now, -, rfl⟩ := List.mem_map.mp hs
  exact hu.tick now

end Vehicle

end VehicleTelemetry
