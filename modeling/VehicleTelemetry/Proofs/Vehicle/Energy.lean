import Mathlib.Tactic
import VehicleTelemetry.Proofs.Reply.Energy
import VehicleTelemetry.Proofs.Vehicle.Perform

/-!
Published energy is the energy of the current trip and of the current charge.

* `Vehicle.samples`, `Vehicle.energyEvents`: the power samples and the resets of
  a step, read off the replies that it applies and the signals before and after;
* `accounts_step`: a step without writes of the host to metered signals counts
  its events and nothing else;
* `run_energy`: in every run the four metrics show the meter, and each channel
  counts its samples since its last reset.
-/

namespace VehicleTelemetry

/-- A step in which the host leaves the metered signals to the vehicle. -/
def Step.LeavesMetered {ρ : Type} (s : Step ρ) : Prop :=
  ∀ name value, s.operation = .setMetric name value → name ∉ Signal.metered

namespace Vehicle

variable {ρ : Type} [Responder ρ]

open Recorder (Accounts LeavesEnergy)

/-- The power samples of a step: that of a reply which it completes and applies,
or that of a tick which finds the power of the pack stale. -/
def samples (v : Vehicle ρ) (s : Step ρ) : List (EnergyEvent Float) :=
  match s.operation with
  | .chunk chunk =>
    match (v.reassembly.receive chunk).value.2, (v.step s).2 with
    | some payload, some outcome =>
      Reply.counted { sender := chunk.sender, pid := chunk.pid, payload, time := s.time } outcome
    | _, _ => []
  | .tick => v.recorder.staleSamples s.time
  | _ => []

/-- What a step is to the meter: edges of ready and charging, then samples. -/
def energyEvents (v : Vehicle ρ) (s : Step ρ) : List (EnergyEvent Float) :=
  resetsBetween v.store (v.step s).1.store ++ v.samples s

/-- What a run is to the meter. -/
def energyHistory (v : Vehicle ρ) : List (Step ρ) → List (EnergyEvent Float)
  | [] => []
  | s :: rest => v.energyEvents s ++ (v.step s).1.energyHistory rest

/-! ### One step -/

/-- A step without samples that leaves the metered signals and the meter alone. -/
lemma accounts_of_leavesEnergy {v : Vehicle ρ} {s : Step ρ} (hsamples : v.samples s = [])
    (h : LeavesEnergy v.recorder (v.step s).1.recorder) :
    Accounts (v.energyEvents s) v.recorder (v.step s).1.recorder := by
  have hresets : resetsBetween v.store (v.step s).1.store = [] := h.resetsBetween_eq_nil
  rw [energyEvents, hsamples, hresets]
  exact h.accounts

lemma accounts_chunk (v : Vehicle ρ) (now : Nat) (chunk : Chunk) :
    Accounts (v.energyEvents ⟨now, .chunk chunk⟩) v.recorder
      (v.step ⟨now, .chunk chunk⟩).1.recorder := by
  have hstep : v.step ⟨now, .chunk chunk⟩ = (v.receiveChunk now chunk).value := rfl
  cases hpayload : (v.reassembly.receive chunk).value.2 with
  | none =>
      refine accounts_of_leavesEnergy ?_ ?_
      · simp only [samples, hpayload]
      · rw [hstep, value_receiveChunk_of_none now hpayload]
        exact ⟨rfl, fun _ _ => rfl⟩
  | some payload =>
      simp only [energyEvents, samples, hpayload, hstep, value_receiveChunk_of_some now hpayload]
      exact accounts_dispatch _ v.recorder

lemma accounts_tick (v : Vehicle ρ) (now : Nat) :
    Accounts (v.energyEvents ⟨now, .tick⟩) v.recorder (v.step ⟨now, .tick⟩).1.recorder := by
  have hstep : (v.step ⟨now, .tick⟩).1 = (v.decided now).performAll now (v.decision now).1 :=
    v.value_tick now
  -- the reconciliation comes first, and what the session asks for after it touches no energy
  have hframe := (v.decided now).performFrame_performAll now (v.decision now).1
  have hleaves : LeavesEnergy (v.reconciled now).recorder (v.step ⟨now, .tick⟩).1.recorder := by
    rw [hstep]
    exact .of_changesOnly hframe.meter_eq hframe.changesOnly (by decide)
  have hbool : ∀ name ∈ Signal.metered, (v.step ⟨now, .tick⟩).1.store.bool name =
      (v.reconciled now).store.bool name := fun name hname => hleaves.bool_eq hname
  -- signals are only switched off, so no drive and no charge begins here
  have hready : v.store.rises Signal.on (v.step ⟨now, .tick⟩).1.store = false := by
    rw [MetricStore.rises, hbool _ (by decide)]
    exact v.recorder.rises_on_reconcile now
  have hcharging : v.store.rises Signal.chargeInProgress (v.step ⟨now, .tick⟩).1.store = false := by
    rw [MetricStore.rises, hbool _ (by decide)]
    exact v.recorder.rises_charging_reconcile now
  have haccounts := (v.recorder.accounts_reconcile now).trans hleaves.accounts
  rw [List.append_nil] at haccounts
  rw [energyEvents, resetsBetween_eq_nil hready hcharging]
  exact haccounts

omit [Responder ρ] in
/-- A request's answer is no metered signal. -/
lemma leavesEnergy_answered (v : Vehicle ρ) (now : Nat) {name : String}
    (hname : name ∉ Signal.metered) (decode : Payload → Except PayloadError String)
    (answer : Except PollError Payload × Poller ρ) :
    LeavesEnergy v.recorder (v.answered now name decode answer).recorder := by
  obtain ⟨hmeter, hstore⟩ := recordAnswer_frame now v.recorder name decode answer.1
  refine .of_changesOnly hmeter hstore fun other hother hmem => ?_
  exact hname (List.mem_singleton.mp hmem ▸ hother)

lemma leavesEnergy_requestVin (v : Vehicle ρ) (now : Nat) :
    LeavesEnergy v.recorder (v.requestVin now).value.recorder := by
  rw [value_requestVin]
  exact v.leavesEnergy_answered now (by decide) _ _

/-- Every step counts its events and nothing else, and the metrics follow. -/
lemma accounts_step (v : Vehicle ρ) {s : Step ρ} (hs : s.LeavesMetered) :
    Accounts (v.energyEvents s) v.recorder (v.step s).1.recorder := by
  obtain ⟨now, operation⟩ := s
  cases operation with
  | chunk chunk => exact v.accounts_chunk now chunk
  | tick => exact v.accounts_tick now
  | frame => exact accounts_of_leavesEnergy rfl (.put _ now (by decide) _)
  | slowTick =>
      refine accounts_of_leavesEnergy rfl ?_
      show LeavesEnergy v.recorder (v.slowTick now).value.recorder
      rw [value_slowTick]
      split
      · exact v.leavesEnergy_requestVin now
      · exact ⟨rfl, fun _ _ => rfl⟩
  | requestVin => exact accounts_of_leavesEnergy rfl (v.leavesEnergy_requestVin now)
  | requestChargeMode =>
      refine accounts_of_leavesEnergy rfl ?_
      show LeavesEnergy v.recorder (v.requestChargeMode now).value.recorder
      rw [value_requestChargeMode]
      exact v.leavesEnergy_answered now (by decide) _ _
  | requestChargeType =>
      refine accounts_of_leavesEnergy rfl ?_
      show LeavesEnergy v.recorder (v.requestChargeType now).value.recorder
      rw [value_requestChargeType]
      exact v.leavesEnergy_answered now (by decide) _ _
  | setMetric name value =>
      exact accounts_of_leavesEnergy rfl (.put v.recorder now (hs name value rfl) value)
  | markMetric name stale =>
      exact accounts_of_leavesEnergy rfl ⟨rfl, fun other _ => MetricStore.value?_mark _ _ _ _⟩
  | setLifetime name seconds =>
      exact accounts_of_leavesEnergy rfl
        ⟨rfl, fun other _ => MetricStore.value?_setLifetime _ _ _ _⟩
  | changePoller change => exact accounts_of_leavesEnergy rfl ⟨rfl, fun _ _ => rfl⟩

/-! ### Whole runs -/

lemma accounts_run (v : Vehicle ρ) {steps : List (Step ρ)} (hsteps : ∀ s ∈ steps, s.LeavesMetered) :
    Accounts (v.energyHistory steps) v.recorder (v.run steps).recorder := by
  induction steps generalizing v with
  | nil => exact .refl v.recorder
  | cons s rest ih =>
      have hfirst : Accounts (v.energyEvents s) v.recorder (v.step s).1.recorder :=
        v.accounts_step (hsteps s (by simp))
      exact hfirst.trans (ih (v.step s).1 fun t ht => hsteps t (by simp [ht]))

/-- A chunk that carries power of charging, or the end of it, leaves no trace in
metrics and meter while the vehicle does not charge. -/
lemma step_of_not_charging (v : Vehicle ρ) (now : Nat) {chunk : Chunk}
    (hidle : v.store.bool Signal.chargeInProgress = false)
    (hpid : chunk.pid = Pid.batteryChargingPower.number ∨
      chunk.pid = Pid.chargerInputPower.number) :
    (v.step ⟨now, .chunk chunk⟩).1.recorder = v.recorder := by
  show (v.receiveChunk now chunk).value.1.recorder = v.recorder
  cases hpayload : (v.reassembly.receive chunk).value.2 with
  | none => rw [value_receiveChunk_of_none now hpayload]
  | some payload =>
      rw [value_receiveChunk_of_some now hpayload]
      exact dispatch_of_not_charging _ v.recorder hpid hidle

omit [Responder ρ] in
/-- A new vehicle has counted nothing and shows nothing. -/
lemma recorder_create (config : VehicleConfig) {store : MetricStore} (poller : Poller ρ)
    (start : Nat) (hstore : ∀ name ∈ Signal.energies, store.value? name = none) :
    let r := (create config store poller start).value.recorder
    r.meter = EnergyMeter.empty ∧ r.store.energies = r.meter.totals := by
  intro r
  have hlifetime : ∀ r : Recorder, LeavesEnergy r { r with
      store := r.store.setLifetime Signal.chargePort (some config.chargePortLifetime) } :=
    fun r => ⟨rfl, fun _ _ => MetricStore.value?_setLifetime _ _ _ _⟩
  have haccounts : Accounts [] (Recorder.ofStore store) r :=
    ((((Accounts.put _ start (by decide) _).trans (.put _ start (by decide) _)).trans
      (.put _ start (by decide) _)).trans (hlifetime _).accounts).trans
      (.put _ start (by decide) _)
  have hnothing : store.energies = EnergyTotals.zero := by
    simp only [Signal.energies, List.forall_mem_cons] at hstore
    obtain ⟨hused, hrecovered, hcharger, hgrid, -⟩ := hstore
    simp only [MetricStore.energies, MetricStore.float, hused, hrecovered, hcharger, hgrid]
    rfl
  exact ⟨haccounts.meter_eq, haccounts.energies_eq hnothing⟩

/-- **Published energy is the energy of the current trip or charge.** In every run
of a new vehicle, with a host that leaves the metered signals to it:

* the four energy metrics show what the meter has counted;
* each channel holds what a new meter holds that is fed the channel's samples
  since its last reset;
* powers of charging that come while the vehicle does not charge are not counted. -/
theorem run_energy (config : VehicleConfig) {store : MetricStore} (poller : Poller ρ) (start : Nat)
    {steps : List (Step ρ)} (hstore : ∀ name ∈ Signal.energies, store.value? name = none)
    (hsteps : ∀ s ∈ steps, s.LeavesMetered) :
    let v := (create config store poller start).value
    let r := (v.run steps).recorder
    r.store.energies = r.meter.totals ∧
    (∀ channel, r.meter.channel channel =
      (EnergyMeter.fed channel (samplesSinceReset channel (v.energyHistory steps))).channel
        channel) ∧
    ∀ before now chunk after, steps = before ++ ⟨now, .chunk chunk⟩ :: after →
      (v.run before).store.bool Signal.chargeInProgress = false →
      chunk.pid = Pid.batteryChargingPower.number ∨ chunk.pid = Pid.chargerInputPower.number →
      (v.run (before ++ [⟨now, .chunk chunk⟩])).recorder = (v.run before).recorder := by
  intro v r
  obtain ⟨hmeter, hshown⟩ := recorder_create config poller start hstore
  have haccounts : Accounts (v.energyHistory steps) v.recorder r := v.accounts_run hsteps
  refine ⟨haccounts.energies_eq hshown, fun channel => ?_, ?_⟩
  · rw [haccounts.meter_eq, hmeter]
    exact EnergyMeter.channel_recordAll _ channel
  · intro before now chunk after _ hidle hpid
    rw [run_append]
    exact (v.run before).step_of_not_charging now hidle hpid

/-- A trip that a charge follows: the power from the grid that comes before the
charge is not counted, and the charge counts the battery anew. -/
theorem run_energy_trip_and_charge :
    let part (ecu : Ecu) (pid : Pid) (bytes : List UInt8) : Operation Script :=
      .chunk { sender := ecu.responseId, pid := pid.number, first := true, bytes, remaining := 0 }
    let pack := part .hybridControl .batteryVoltageAndCurrent [0, 0, 0x64, 0x00, 0x00, 0x64]
    let power := part .plugInControl .chargerInputPower [0x80, 0x00]
    let steps : List (Step Script) := [⟨1000, pack⟩, ⟨1500, power⟩,
      ⟨2000, part .hybridControl .readySignal [0, 1]⟩, ⟨3000, pack⟩,
      ⟨4000, part .plugInControl .charging [1]⟩, ⟨5000, power⟩, ⟨9000, power⟩, ⟨60000, .tick⟩]
    let r := (bench.run steps).recorder
    (∀ name ∈ Signal.energies, MetricStore.withLifetimes.value? name = none) ∧
      (∀ s ∈ steps, s.LeavesMetered) ∧
      r.store.energies = r.meter.totals ∧
      r.meter.channel .battery = (EnergyMeter.fed .battery [(0.0, 60000)]).channel .battery ∧
      r.meter.channel .grid =
        (EnergyMeter.fed .grid [(163.84, 5000), (163.84, 9000)]).channel .grid := by
  intro part pack power steps
  have hstore : ∀ name ∈ Signal.energies, MetricStore.withLifetimes.value? name = none := by
    decide +kernel
  have hsteps : ∀ s ∈ steps, s.LeavesMetered := by
    simp [steps, pack, power, part, Step.LeavesMetered]
  have hbattery : samplesSinceReset .battery (bench.energyHistory steps) = [(0.0, 60000)] := by
    decide +kernel
  have hgrid : samplesSinceReset .grid (bench.energyHistory steps) =
      [(163.84, 5000), (163.84, 9000)] := by
    decide +kernel
  -- what is left does not depend on the steps, and must not evaluate the run again
  clear_value steps
  have h := run_energy VehicleConfig.bench ScriptedPoller.empty 0 hstore hsteps
  have hbench : bench =
      (create VehicleConfig.bench MetricStore.withLifetimes ScriptedPoller.empty 0).value := rfl
  simp only [← hbench] at h
  obtain ⟨hshown, hchannels, -⟩ := h
  refine ⟨hstore, hsteps, hshown, ?_, ?_⟩
  · rw [← hbattery]
    exact hchannels .battery
  · rw [← hgrid]
    exact hchannels .grid

end Vehicle

end VehicleTelemetry
