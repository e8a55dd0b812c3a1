import Mathlib.Tactic
import VehicleTelemetry.Proofs.Recorder.Reconcile
import VehicleTelemetry.Proofs.Vehicle.Energy
import VehicleTelemetry.Proofs.Vehicle.Trip

/-!
The energy of one drive does not count for the next one.

A drive is a session in ready. The session goes by the level of the ready signal, once
a second and after a reconciliation; the battery is counted anew at an edge of it, when
a reply is applied. What ties the two together is that the signal is off when a drive
ends and on when the next one begins (`EndsReady.not_on`, `GetsReady.on`).

* `Vehicle.meterEvents`, `Vehicle.meterHistory`: what is counted and counted anew in a
  run, whatever the host writes (`meter_run`);
* `reset_of_run`: the signal does not come on without a reset of the battery;
* `run_drives`: the theorem for all runs of a new vehicle.
-/

namespace VehicleTelemetry

namespace Vehicle

variable {ρ : Type} [Responder ρ] (v : Vehicle ρ)

/-! ### What is counted -/

/-- What a step is to the meter. A metric that the host writes is nothing to it, also
if that is a signal whose edges reset it. -/
def meterEvents (s : Step ρ) : List (EnergyEvent Float) :=
  match s.operation with
  | .setMetric _ _ => []
  | _ => v.energyEvents s

/-- What a run is to the meter. -/
def meterHistory (v : Vehicle ρ) : List (Step ρ) → List (EnergyEvent Float)
  | [] => []
  | s :: rest => v.meterEvents s ++ (v.step s).1.meterHistory rest

lemma meterHistory_append (before after : List (Step ρ)) :
    v.meterHistory (before ++ after) = v.meterHistory before ++
      (v.run before).meterHistory after := by
  induction before generalizing v with
  | nil => rfl
  | cons s rest ih =>
      rw [List.cons_append, meterHistory, ih, meterHistory, run_cons, List.append_assoc]

/-- A step that is no write of the host counts the events of its energy. -/
lemma meterEvents_of_not_set {s : Step ρ}
    (h : ∀ name value, s.operation ≠ .setMetric name value) :
    v.meterEvents s = v.energyEvents s := by
  obtain ⟨now, operation⟩ := s
  cases operation with
  | setMetric name value => exact absurd rfl (h name value)
  | _ => rfl

lemma meter_step (s : Step ρ) :
    (v.step s).1.recorder.meter = v.recorder.meter.recordAll (v.meterEvents s) := by
  by_cases hset : ∃ name value, s.operation = .setMetric name value
  · obtain ⟨now, operation⟩ := s
    obtain ⟨name, value, rfl⟩ : ∃ name value, operation = .setMetric name value := hset
    rfl
  · have hnot : ∀ name value, s.operation ≠ .setMetric name value :=
      fun name value h => hset ⟨name, value, h⟩
    rw [v.meterEvents_of_not_set hnot]
    exact (v.accounts_step fun name value h => absurd h (hnot name value)).meter_eq

/-- The meter has recorded the history of a run, and nothing else. -/
lemma meter_run (steps : List (Step ρ)) :
    (v.run steps).recorder.meter = v.recorder.meter.recordAll (v.meterHistory steps) := by
  induction steps generalizing v with
  | nil => rfl
  | cons s rest ih =>
      rw [run_cons, ih, meter_step, meterHistory, EnergyMeter.recordAll_append]

/-! ### Edges of the ready signal -/

/-- The ready signal comes on with a reset of the battery, unless the host writes it. -/
lemma reset_of_step {s : Step ρ} (hon : ∀ value, s.operation ≠ .setMetric Signal.on value)
    (hbefore : v.store.bool Signal.on = false) (hafter : (v.step s).1.store.bool Signal.on = true) :
    .reset .battery ∈ v.meterEvents s := by
  by_cases hset : ∃ name value, s.operation = .setMetric name value
  · obtain ⟨now, operation⟩ := s
    obtain ⟨name, value, rfl⟩ : ∃ name value, operation = .setMetric name value := hset
    have hne : Signal.on ≠ name := fun h => hon value (h ▸ rfl)
    have hsame : (v.step ⟨now, .setMetric name value⟩).1.store.value? Signal.on =
        v.store.value? Signal.on := MetricStore.value?_set_of_ne _ _ hne _
    rw [MetricStore.bool, hsame] at hafter
    rw [MetricStore.bool, hafter] at hbefore
    cases hbefore
  · rw [v.meterEvents_of_not_set fun name value h => hset ⟨name, value, h⟩]
    have hrises : v.store.rises Signal.on (v.step s).1.store = true := by
      rw [MetricStore.rises, hbefore, hafter]
      rfl
    simp [energyEvents, resetsBetween, hrises]

/-- Over a run the same: between a moment when the signal is off and one when it is on the
battery has been reset. -/
lemma reset_of_run {steps : List (Step ρ)}
    (hon : ∀ s ∈ steps, ∀ value, s.operation ≠ .setMetric Signal.on value)
    (hbefore : v.store.bool Signal.on = false)
    (hafter : (v.run steps).store.bool Signal.on = true) :
    .reset .battery ∈ v.meterHistory steps := by
  induction steps generalizing v with
  | nil =>
      rw [run_nil, hbefore] at hafter
      cases hafter
  | cons s rest ih =>
      rw [meterHistory, List.mem_append]
      cases hfirst : (v.step s).1.store.bool Signal.on with
      | true => exact .inl (v.reset_of_step (hon s (.head _)) hbefore hfirst)
      | false =>
          exact .inr (ih (v.step s).1 (fun t ht => hon t (.tail _ ht)) hfirst hafter)

/-! ### The ends of a drive -/

/-- The session leaves readiness. -/
def EndsReady (s : Step ρ) : Prop :=
  v.state = .ready ∧ (v.step s).1.state ≠ .ready

instance (s : Step ρ) : Decidable (v.EndsReady s) :=
  inferInstanceAs (Decidable (_ ∧ _))

variable {v}

/-- The ready signal is on when a drive begins. -/
lemma GetsReady.on {s : Step ρ} (h : v.GetsReady s) : v.store.bool Signal.on = true := by
  have htick : s.operation = .tick := by
    by_contra hnot
    exact v.not_getsReady hnot h
  have hmachine := v.machine_step_of_tick htick
  have hvehicle : (v.inputs s.time).vehicleOn = true := by
    refine v.machine.vehicleOn_of_ready _ ?_
    rw [← hmachine]
    exact h.2
  have hreconciled : (v.recorder.reconcile s.time).value.store.bool Signal.on = true := hvehicle
  rw [v.recorder.bool_reconcile s.time (by decide), Bool.and_eq_true] at hreconciled
  exact hreconciled.1

/-- The ready signal is off when a drive has ended. -/
lemma EndsReady.not_on {s : Step ρ} (h : v.EndsReady s) :
    (v.step s).1.store.bool Signal.on = false := by
  have htick : s.operation = .tick := by
    by_contra hnot
    refine h.2 ?_
    rw [state, v.machine_step hnot]
    exact h.1
  have hmachine := v.machine_step_of_tick htick
  have hvehicle : (v.inputs s.time).vehicleOn = false := by
    refine v.machine.not_vehicleOn_of_not_ready _ h.1 ?_
    rw [← hmachine]
    exact h.2
  have hperform := (v.decided s.time).performFrame_performAll s.time (v.decision s.time).1
  rw [v.step_of_tick htick, value_tick, hperform.changesOnly.bool_eq (by decide)]
  exact hvehicle

variable (v)

/-- A run that gets to a drive has a step with which it begins. -/
lemma exists_getsReady {steps : List (Step ρ)} (hbefore : v.state ≠ .ready)
    (hafter : (v.run steps).state = .ready) :
    ∃ prior s rest, steps = prior ++ s :: rest ∧ (v.run prior).GetsReady s := by
  induction steps generalizing v with
  | nil => exact absurd hafter hbefore
  | cons s rest ih =>
      by_cases hfirst : (v.step s).1.state = .ready
      · exact ⟨[], s, rest, rfl, hbefore, hfirst⟩
      · obtain ⟨prior, t, after, rfl, hready⟩ := ih (v.step s).1 hfirst hafter
        exact ⟨s :: prior, t, after, rfl, hready⟩

/-- A run that has not begun, or that has just ended a drive. -/
def BetweenDrives (before : List (Step ρ)) : Prop :=
  before = [] ∨ ∃ prior s, before = prior ++ [s] ∧ (v.run prior).EndsReady s

variable {v}

/-- Between drives the session is not ready and the signal is off. -/
lemma BetweenDrives.off {before : List (Step ρ)} (h : v.BetweenDrives before)
    (hstate : v.state ≠ .ready) (hon : v.store.bool Signal.on = false) :
    (v.run before).state ≠ .ready ∧ (v.run before).store.bool Signal.on = false := by
  obtain rfl | ⟨prior, s, rfl, hends⟩ := h
  · exact ⟨hstate, hon⟩
  · rw [run_append]
    exact ⟨hends.2, hends.not_on⟩

omit [Responder ρ] in
/-- The ready signal of a new vehicle is off. -/
lemma not_on_create (config : VehicleConfig) (store : MetricStore) (poller : Poller ρ)
    (start : Nat) : (create config store poller start).value.store.bool Signal.on = false := by
  rw [value_create]
  show (((((store.set start Signal.awake (.bool false)).set start Signal.on (.bool false)).set
    start Signal.chargePort (.bool false)).setLifetime Signal.chargePort _).set start
    Signal.pollState _).bool Signal.on = false
  rw [MetricStore.bool, MetricStore.value?_set_of_ne _ _ (by decide),
    MetricStore.value?_setLifetime, MetricStore.value?_set_of_ne _ _ (by decide),
    MetricStore.value?_set_self]
  rfl

/-- **No energy of one drive counts for the next.** In every run of a new vehicle in which
the host does not write the ready signal, take a moment `u` between drives and a
later one `w`:

* the meter has recorded the history from `u` to `w`, and nothing else;
* the battery has been reset in that history if a drive begins after `w`;
* in a drive the battery holds what a new meter holds that is fed the samples of
  that history since its last reset. -/
theorem run_drives (config : VehicleConfig) (store : MetricStore) (poller : Poller ρ) (start : Nat)
    {steps : List (Step ρ)}
    (hon : ∀ s ∈ steps, ∀ value, s.operation ≠ .setMetric Signal.on value) :
    let v := (create config store poller start).value
    ∀ before between after, steps = before ++ (between ++ after) → v.BetweenDrives before →
      let u := v.run before
      let w := u.run between
      w.recorder.meter = u.recorder.meter.recordAll (u.meterHistory between) ∧
      (∀ s ∈ after.head?, w.GetsReady s → .reset .battery ∈ u.meterHistory between) ∧
      (w.state = .ready → w.recorder.meter.channel .battery =
        (EnergyMeter.fed .battery (samplesSinceReset .battery (u.meterHistory between))).channel
          .battery) := by
  rintro v before between after rfl hbetween u w
  have hnew : v.state ≠ .ready := nofun
  obtain ⟨hstate, hoff⟩ := hbetween.off hnew (not_on_create config store poller start)
  have hwrites : ∀ s ∈ between, ∀ value, s.operation ≠ .setMetric Signal.on value :=
    fun s hs => hon s (by simp [hs])
  refine ⟨u.meter_run between, fun s _ hready => u.reset_of_run hwrites hoff hready.on,
    fun hready => ?_⟩
  -- the drive that is going on began at a step in between, and a reset comes before that step
  obtain ⟨prior, s, rest, rfl, hbegins⟩ := u.exists_getsReady hstate hready
  have hreset : .reset .battery ∈ u.meterHistory (prior ++ s :: rest) := by
    rw [meterHistory_append, List.mem_append]
    exact .inl (u.reset_of_run (fun t ht => hwrites t (by simp [ht])) hoff hbegins.on)
  rw [u.meter_run]
  exact EnergyMeter.channel_recordAll_of_reset _ hreset

/-- Ready falls silent in the first drive, and the tick that ends it counts a last sample
of the pack. The sample between the drives is dropped when ready comes back, and the
second drive counts the one after that alone. -/
theorem run_drives_ready_silent :
    let part (pid : Pid) (bytes : List UInt8) : Operation Script :=
      .chunk { sender := Ecu.hybridControl.responseId, pid := pid.number, first := true, bytes,
               remaining := 0 }
    let pack (tenths : UInt8) := part .batteryVoltageAndCurrent [0, 0, 0x64, 0x00, 0x00, tenths]
    let ready := part .readySignal [0, 1]
    let before : List (Step Script) := [⟨1000, .frame⟩, ⟨1000, .tick⟩, ⟨1500, ready⟩,
      ⟨2000, .tick⟩, ⟨3000, pack 50⟩, ⟨14000, .tick⟩]
    let between : List (Step Script) := [⟨20000, pack 100⟩, ⟨21000, ready⟩, ⟨21500, pack 200⟩]
    let tick : Step Script := ⟨22000, .tick⟩
    let u := bench.run before
    let w := u.run (between ++ [tick])
    (∀ s ∈ before ++ (between ++ [tick]), ∀ value,
        s.operation ≠ .setMetric Signal.on value) ∧
      bench.BetweenDrives before ∧ (u.run between).GetsReady tick ∧
      .reset .battery ∈ u.meterHistory between ∧
      w.recorder.meter.channel .battery =
        (EnergyMeter.fed .battery [(8.0, 21500)]).channel .battery := by
  intro part pack ready before between tick
  have hon : ∀ s ∈ before ++ (between ++ [tick]), ∀ value,
      s.operation ≠ .setMetric Signal.on value := by
    simp [before, between, tick, pack, ready, part]
  have hends : bench.BetweenDrives before :=
    .inr ⟨before.dropLast, ⟨14000, .tick⟩, rfl, by decide +kernel⟩
  have hbegins : ((bench.run before).run between).GetsReady tick := by decide +kernel
  have hsamples : samplesSinceReset .battery
      ((bench.run before).meterHistory (between ++ [tick])) = [(8.0, 21500)] := by
    decide +kernel
  -- what is left does not depend on the steps, and must not evaluate the run again
  clear_value before between tick
  intro u w
  have h := run_drives VehicleConfig.bench MetricStore.withLifetimes ScriptedPoller.empty 0 hon
  have hbench : bench =
      (create VehicleConfig.bench MetricStore.withLifetimes ScriptedPoller.empty 0).value := rfl
  simp only [← hbench] at h
  obtain ⟨-, hreset, -⟩ := h before between [tick] rfl hends
  obtain ⟨-, -, hcounts⟩ := h before (between ++ [tick]) [] (by simp) hends
  have hready : (u.run (between ++ [tick])).state = .ready := by
    rw [run_append]
    exact hbegins.2
  refine ⟨hon, hends, hbegins, hreset tick rfl hbegins, ?_⟩
  rw [← hsamples]
  exact hcounts hready

end Vehicle

end VehicleTelemetry
