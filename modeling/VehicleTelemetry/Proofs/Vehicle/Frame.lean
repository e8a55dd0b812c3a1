import Mathlib.Tactic
import VehicleTelemetry.Proofs.Recorder.Frame
import VehicleTelemetry.Proofs.Reply.Outcome
import VehicleTelemetry.Proofs.Vehicle.Perform

/-!
What a step of a vehicle leaves alone.

* `Operation.signals` lists the metrics that an operation can change, and
  `changesOnly_step` is the frame of all operations, after `changesOnly_create`;
  `Operation.not_mem_signals` says when an entry is left alone, and `value?_step` when
  only its value is;
* `Step.Leaves`: a step in which the host touches none of some metrics;
* `rest_step`: a step that is no tick leaves the settings and the session machine
  alone; the settings stay as they are through all steps (`config_run`);
* `Vehicle.inputs`: the signals that a tick hands to the session machine, which
  nothing but a tick moves (`machine_step`, `machine_step_of_tick`).
-/

namespace VehicleTelemetry

variable {ρ : Type}

/-- The metrics that a tick can change. -/
def Signal.ticked : List String :=
  [awake, on, chargePort, batteryCurrent, batteryPower, energyUsed, energyRecovered] ++ performed

/-- The metrics that a new vehicle writes. -/
def Signal.initialized : List String :=
  [awake, on, chargePort, pollState]

namespace Operation

/-- The metrics that the host touches in an operation: it writes or marks them, or
changes how long they last. -/
def touched : Operation ρ → List String
  | .setMetric name _ | .markMetric name _ | .setLifetime name _ => [name]
  | _ => []

/-- The metrics that an operation can change. -/
def signals : Operation ρ → List String
  | .frame => [Signal.awake]
  | .chunk part => Signal.ofPid part.pid
  | .tick => Signal.ticked
  | .slowTick | .requestVin => [Signal.vin]
  | .requestChargeMode => [Signal.chargeMode]
  | .requestChargeType => [Signal.chargeType]
  | .setMetric name _ | .markMetric name _ | .setLifetime name _ => [name]
  | .changePoller _ => []

/-- A metric that holds no answer to a request is left alone by an operation, unless
that is a frame, a part of a response or a tick that can change it, or the host
touches it. -/
lemma not_mem_signals {operation : Operation ρ} {name : String}
    (hanswered : name ∉ Signal.answered) (hframe : operation = .frame → name ≠ Signal.awake)
    (hchunk : ∀ part, operation = .chunk part → name ∉ Signal.ofPid part.pid)
    (htick : operation = .tick → name ∉ Signal.ticked) (htouched : name ∉ operation.touched) :
    name ∉ operation.signals := by
  simp only [Signal.answered, List.mem_cons, List.not_mem_nil, or_false, not_or] at hanswered
  obtain ⟨hvin, hmode, htype⟩ := hanswered
  have hsingle {other : String} (hne : name ≠ other) : name ∉ [other] :=
    fun hmem => hne (List.mem_singleton.mp hmem)
  cases operation with
  | frame => exact hsingle (hframe rfl)
  | chunk part => exact hchunk part rfl
  | tick => exact htick rfl
  | slowTick => exact hsingle hvin
  | requestVin => exact hsingle hvin
  | requestChargeMode => exact hsingle hmode
  | requestChargeType => exact hsingle htype
  | setMetric other value => exact htouched
  | markMetric other stale => exact htouched
  | setLifetime other seconds => exact htouched
  | changePoller change => exact List.not_mem_nil

end Operation

/-- A step in which the host touches none of some metrics. -/
def Step.Leaves (names : List String) (s : Step ρ) : Prop :=
  ∀ name ∈ s.operation.touched, name ∉ names

namespace Vehicle

open MetricStore (ChangesOnly)

/-- The signals that a tick hands to the session machine. -/
def inputs (v : Vehicle ρ) (now : Nat) : SessionInputs :=
  (v.reconciled now).recorder.sessionInputs

lemma decision_eq (v : Vehicle ρ) (now : Nat) :
    v.decision now = (v.machine.step (v.inputs now)).value := rfl

/-- A new vehicle has written four metrics. -/
lemma changesOnly_create (config : VehicleConfig) (store : MetricStore) (poller : Poller ρ)
    (start : Nat) :
    ChangesOnly Signal.initialized store (create config store poller start).value.store :=
  (((((ChangesOnly.refl _ _).then_set (by simp [Signal.initialized]) start _).then_set
    (by simp [Signal.initialized]) start _).then_set (by simp [Signal.initialized]) start _).trans
    (.setLifetime (by simp [Signal.initialized]) _ _)).then_set (by simp [Signal.initialized])
    start _

variable [Responder ρ] (v : Vehicle ρ)

/-! ### Metrics -/

lemma changesOnly_requestVin (now : Nat) :
    ChangesOnly [Signal.vin] v.store (v.requestVin now).value.store := by
  rw [value_requestVin]
  exact (PerformFrame.answered v now _ _ _).changesOnly

lemma changesOnly_tick (now : Nat) :
    ChangesOnly Signal.ticked v.store (v.tick now).value.store := by
  have hreconcile : ChangesOnly Signal.ticked v.store (v.decided now).store :=
    (v.recorder.changesOnly_reconcile now).mono (List.subset_append_left _ _)
  have hperform := (v.decided now).performFrame_performAll now (v.decision now).1
  rw [value_tick]
  exact hreconcile.trans (hperform.changesOnly.mono (List.subset_append_right _ _))

/-- A step changes no metrics but those of its operation. -/
lemma changesOnly_step (s : Step ρ) :
    ChangesOnly s.operation.signals v.store (v.step s).1.store := by
  obtain ⟨now, operation⟩ := s
  cases operation with
  | frame => exact .set (by simp [Operation.signals]) _ _ _
  | chunk chunk =>
      show ChangesOnly _ v.store (v.receiveChunk now chunk).value.1.store
      cases hpayload : (v.reassembly.receive chunk).value.2 with
      | none =>
          rw [value_receiveChunk_of_none now hpayload]
          exact .refl _ _
      | some payload =>
          rw [value_receiveChunk_of_some now hpayload]
          exact changesOnly_dispatch_ofPid
            { sender := chunk.sender, pid := chunk.pid, payload, time := now } v.recorder
  | tick => exact v.changesOnly_tick now
  | slowTick =>
      show ChangesOnly _ v.store (v.slowTick now).value.store
      rw [value_slowTick]
      split
      · exact v.changesOnly_requestVin now
      · exact .refl _ _
  | requestVin => exact v.changesOnly_requestVin now
  | requestChargeMode => exact (v.performFrame_perform now .requestChargeMode).changesOnly
  | requestChargeType => exact (v.performFrame_perform now .requestChargeType).changesOnly
  | setMetric name value => exact .set (by simp [Operation.signals]) _ _ _
  | markMetric name stale => exact .mark (by simp [Operation.signals]) _ _
  | setLifetime name seconds => exact .setLifetime (by simp [Operation.signals]) _ _
  | changePoller change => exact .refl _ _

/-- A step that does not write a metric leaves its value, though the host may mark it
or change how long it lasts. -/
lemma value?_step {s : Step ρ} {name : String} (hanswered : name ∉ Signal.answered)
    (hframe : s.operation = .frame → name ≠ Signal.awake)
    (hchunk : ∀ part, s.operation = .chunk part → name ∉ Signal.ofPid part.pid)
    (htick : s.operation = .tick → name ∉ Signal.ticked)
    (hset : ∀ value, s.operation ≠ .setMetric name value) :
    (v.step s).1.store.value? name = v.store.value? name := by
  have hother (htouched : name ∉ s.operation.touched) :
      (v.step s).1.store.value? name = v.store.value? name :=
    (v.changesOnly_step s).value?_eq
      (Operation.not_mem_signals hanswered hframe hchunk htick htouched)
  obtain ⟨now, operation⟩ := s
  cases operation with
  | markMetric other stale => exact MetricStore.value?_mark _ _ _ _
  | setLifetime other seconds => exact MetricStore.value?_setLifetime _ _ _ _
  | setMetric other value =>
      refine hother fun hmem => ?_
      obtain rfl := List.mem_singleton.mp hmem
      exact hset value rfl
  | _ => exact hother List.not_mem_nil

/-! ### Settings and the session machine -/

/-- A step that is no tick leaves the settings and the session machine alone. -/
lemma rest_step {s : Step ρ} (h : s.operation ≠ .tick) :
    (v.step s).1.config = v.config ∧ (v.step s).1.machine = v.machine := by
  obtain ⟨now, operation⟩ := s
  cases operation with
  | tick => exact absurd rfl h
  | chunk chunk =>
      obtain ⟨reassembly, recorder, hchunk⟩ := v.exists_receiveChunk now chunk
      show (v.receiveChunk now chunk).value.1.config = _ ∧
        (v.receiveChunk now chunk).value.1.machine = _
      rw [hchunk]
      exact ⟨rfl, rfl⟩
  | slowTick =>
      show (v.slowTick now).value.config = _ ∧ (v.slowTick now).value.machine = _
      rw [value_slowTick, value_requestVin]
      split <;> exact ⟨rfl, rfl⟩
  | requestVin =>
      show (v.requestVin now).value.config = _ ∧ (v.requestVin now).value.machine = _
      rw [value_requestVin]
      exact ⟨rfl, rfl⟩
  | requestChargeMode =>
      have hframe := v.performFrame_perform now .requestChargeMode
      exact ⟨hframe.config_eq, hframe.machine_eq⟩
  | requestChargeType =>
      have hframe := v.performFrame_perform now .requestChargeType
      exact ⟨hframe.config_eq, hframe.machine_eq⟩
  | frame | setMetric | markMetric | setLifetime | changePoller => exact ⟨rfl, rfl⟩

/-- Nothing changes the settings. -/
lemma config_step (s : Step ρ) : (v.step s).1.config = v.config := by
  by_cases htick : s.operation = .tick
  · rw [v.step_of_tick htick, value_tick,
      ((v.decided s.time).performFrame_performAll s.time _).config_eq]
    rfl
  · exact (v.rest_step htick).1

lemma config_run (steps : List (Step ρ)) : (v.run steps).config = v.config :=
  run_preserves (P := fun u => u.config = v.config) steps
    (fun u s _ h => (u.config_step s).trans h) rfl

/-- Only a tick moves the session machine. -/
lemma machine_step {s : Step ρ} (h : s.operation ≠ .tick) : (v.step s).1.machine = v.machine :=
  (v.rest_step h).2

/-- A tick moves it by the signals that it is handed. -/
lemma machine_step_of_tick {s : Step ρ} (h : s.operation = .tick) :
    (v.step s).1.machine = (v.machine.step (v.inputs s.time)).value.2 := by
  rw [v.step_of_tick h, machine_tick, decision_eq]

end Vehicle

end VehicleTelemetry
