import Mathlib.Tactic
import VehicleTelemetry.Proofs.Poll.Reassembly
import VehicleTelemetry.Proofs.Reply.Lookup
import VehicleTelemetry.Vehicle.Basic

/-!
Runs of a vehicle: operations of the bus, of time and of the host in any order,
each at a time of its own, since nothing says that the clock goes forward.

* `Operation` and `Step` are what can happen, `Vehicle.step` what comes of it;
* `Vehicle.run` chains steps, and `run_preserves` is the induction over it;
* `value_create`, `value_receiveChunk_of_some` and `value_tick` give what is made
  of parts without the events that it reports.
-/

namespace VehicleTelemetry

/-- What can happen to a vehicle in front of a responder `ρ`. -/
inductive Operation (ρ : Type) where
  /-- The bus shows a frame. -/
  | frame
  /-- A part of a response arrives. -/
  | chunk (chunk : Chunk)
  /-- A second is over. -/
  | tick
  /-- A longer while is over. -/
  | slowTick
  /-- The host has a request made. -/
  | requestVin
  | requestChargeMode
  | requestChargeType
  /-- The host changes a metric. -/
  | setMetric (name : String) (value : MetricValue)
  | markMetric (name : String) (stale : Bool)
  | setLifetime (name : String) (seconds : Option Nat)
  /-- The host changes the poller, for instance the answers that it will give. -/
  | changePoller (change : Poller ρ → Poller ρ)

/-- An operation and the time on the clock when it comes. -/
structure Step (ρ : Type) where
  time : Nat
  operation : Operation ρ

/-- The reply that a chunk is if it is a whole response. -/
def Chunk.reply (chunk : Chunk) (now : Nat) : Reply :=
  { sender := chunk.sender, pid := chunk.pid, payload := chunk.bytes, time := now }

namespace Vehicle

variable {ρ : Type}

/-- The parts of a chunk's way apart from reports: the reassembly, then the
table if the response is complete. -/
lemma value_receiveChunk (v : Vehicle ρ) (now : Nat) (chunk : Chunk) :
    (v.receiveChunk now chunk).value =
      let received := (v.reassembly.receive chunk).value
      match received.2 with
      | none => ({ v with reassembly := received.1 }, none)
      | some payload =>
        let reply : Reply := { sender := chunk.sender, pid := chunk.pid, payload, time := now }
        let result := (platformTable.dispatch reply v.recorder).value
        ({ v with reassembly := received.1, recorder := result.1 }, some result.2) := by
  rw [receiveChunk]
  simp only [Logged.value_bind]
  rcases (v.reassembly.receive chunk).value with ⟨after, _ | payload⟩ <;> rfl

/-- A chunk that leaves bytes to come is only taken in. -/
lemma value_receiveChunk_of_none {v : Vehicle ρ} {chunk : Chunk} (now : Nat)
    (h : (v.reassembly.receive chunk).value.2 = none) :
    (v.receiveChunk now chunk).value =
      ({ v with reassembly := (v.reassembly.receive chunk).value.1 }, none) := by
  rw [value_receiveChunk]
  simp only [h]

/-- A chunk that completes a response is dispatched with it. -/
lemma value_receiveChunk_of_some {v : Vehicle ρ} {chunk : Chunk} (now : Nat) {payload : Payload}
    (h : (v.reassembly.receive chunk).value.2 = some payload) :
    (v.receiveChunk now chunk).value =
      let reply : Reply := { sender := chunk.sender, pid := chunk.pid, payload, time := now }
      let result := (platformTable.dispatch reply v.recorder).value
      ({ v with reassembly := (v.reassembly.receive chunk).value.1, recorder := result.1 },
        some result.2) := by
  rw [value_receiveChunk]
  simp only [h]

/-- A chunk that is the whole response is dispatched as it is. -/
lemma value_receiveChunk_of_whole (v : Vehicle ρ) (now : Nat) {chunk : Chunk} (h : chunk.Whole) :
    (v.receiveChunk now chunk).value =
      let result := (platformTable.dispatch (chunk.reply now) v.recorder).value
      ({ v with reassembly := (v.reassembly.receive chunk).value.1, recorder := result.1 },
        some result.2) :=
  value_receiveChunk_of_some now (v.reassembly.payload_receive_of_whole h)

/-- Whatever comes of it, a chunk leaves all but the reassembly and the recorder as they are. -/
lemma exists_receiveChunk (v : Vehicle ρ) (now : Nat) (chunk : Chunk) :
    ∃ reassembly recorder,
      (v.receiveChunk now chunk).value.1 = { v with reassembly, recorder } := by
  cases hpayload : (v.reassembly.receive chunk).value.2 with
  | none => exact ⟨_, v.recorder, congrArg Prod.fst (value_receiveChunk_of_none now hpayload)⟩
  | some payload => exact ⟨_, _, congrArg Prod.fst (value_receiveChunk_of_some now hpayload)⟩

/-- A new vehicle apart from reports: three signals are off, and sleep is published. -/
lemma value_create (config : VehicleConfig) (store : MetricStore) (poller : Poller ρ) (now : Nat) :
    (create config store poller now).value =
      let off := (((Recorder.ofStore store).put now Signal.awake (.bool false)).put now Signal.on
        (.bool false)).put now Signal.chargePort (.bool false)
      let recorder : Recorder := { off with
        store := off.store.setLifetime Signal.chargePort (some config.chargePortLifetime) }
      { config, recorder := recorder.setPollState now SessionState.sleep.number
        poller := (poller.choose SessionState.sleep.number).install pollList
        reassembly := Reassembly.empty
        machine := { state := .sleep, margin := config.wakeMargin } } :=
  rfl

/-- A vehicle that can be created may ask at least once, and is the new one of its settings. -/
lemma of_create?_eq_ok {config : VehicleConfig} {store : MetricStore} {poller : Poller ρ}
    {now : Nat} {created : Logged (Vehicle ρ)} (h : create? config store poller now = .ok created) :
    0 < config.queryAttempts ∧ created = create config store poller now := by
  rw [create?] at h
  cases hrefusal : config.refusal? with
  | some refusal =>
      rw [hrefusal] at h
      cases h
  | none =>
      rw [hrefusal] at h
      refine ⟨Nat.pos_of_ne_zero fun hzero => ?_, (Except.ok.inj h).symm⟩
      rw [VehicleConfig.refusal?, if_pos hzero] at hrefusal
      cases hrefusal

variable [Responder ρ]

/-- Does what the session machine asks for, one action after the other. -/
def performAll (v : Vehicle ρ) (now : Nat) (actions : List SessionAction) : Vehicle ρ :=
  actions.foldl (fun v action => (v.perform now action).value) v

/-- The vehicle when a tick has reconciled stale signals. -/
def reconciled (v : Vehicle ρ) (now : Nat) : Vehicle ρ :=
  { v with recorder := (v.recorder.reconcile now).value }

/-- What the session machine asks for in a tick, and the machine after it. -/
def decision (v : Vehicle ρ) (now : Nat) : List SessionAction × SessionMachine :=
  (v.machine.step (v.reconciled now).recorder.sessionInputs).value

/-- The vehicle when a tick has decided what to do. -/
def decided (v : Vehicle ρ) (now : Nat) : Vehicle ρ :=
  { v.reconciled now with machine := (v.decision now).2 }

/-- A tick apart from reports: reconciliation, decision, actions. -/
lemma value_tick (v : Vehicle ρ) (now : Nat) :
    (v.tick now).value = (v.decided now).performAll now (v.decision now).1 := by
  simp only [tick, Logged.value_bind, Logged.value_foldl]
  rfl

/-- The vehicle after a step, and the outcome of the reply that the step completes. -/
def step (v : Vehicle ρ) (s : Step ρ) : Vehicle ρ × Option ReplyOutcome :=
  match s.operation with
  | .frame => (v.receiveFrame s.time, none)
  | .chunk chunk => (v.receiveChunk s.time chunk).value
  | .tick => ((v.tick s.time).value, none)
  | .slowTick => ((v.slowTick s.time).value, none)
  | .requestVin => ((v.requestVin s.time).value, none)
  | .requestChargeMode => ((v.requestChargeMode s.time).value, none)
  | .requestChargeType => ((v.requestChargeType s.time).value, none)
  | .setMetric name value => (v.setMetric s.time name value, none)
  | .markMetric name stale => (v.withStore (v.store.mark name stale), none)
  | .setLifetime name seconds => (v.withStore (v.store.setLifetime name seconds), none)
  | .changePoller change => ({ v with poller := change v.poller }, none)

lemma step_of_tick (v : Vehicle ρ) {s : Step ρ} (h : s.operation = .tick) :
    (v.step s).1 = (v.tick s.time).value := by
  rw [step, h]

/-- The vehicle after some steps. -/
def run (v : Vehicle ρ) (steps : List (Step ρ)) : Vehicle ρ :=
  steps.foldl (fun v s => (v.step s).1) v

@[simp] lemma run_nil (v : Vehicle ρ) : v.run [] = v := rfl

@[simp] lemma run_cons (v : Vehicle ρ) (s : Step ρ) (steps : List (Step ρ)) :
    v.run (s :: steps) = (v.step s).1.run steps := rfl

lemma run_append (v : Vehicle ρ) (before after : List (Step ρ)) :
    v.run (before ++ after) = (v.run before).run after :=
  List.foldl_append

/-- The outcomes of the steps of a run. -/
def outcomes (v : Vehicle ρ) : List (Step ρ) → List (Option ReplyOutcome)
  | [] => []
  | s :: rest => (v.step s).2 :: (v.step s).1.outcomes rest

lemma outcomes_append (v : Vehicle ρ) (before after : List (Step ρ)) :
    v.outcomes (before ++ after) = v.outcomes before ++ (v.run before).outcomes after := by
  induction before generalizing v with
  | nil => rfl
  | cons s rest ih => rw [List.cons_append, outcomes, ih, outcomes, run_cons, List.cons_append]

/-- What every step keeps, every run keeps. -/
lemma run_preserves {P : Vehicle ρ → Prop} (steps : List (Step ρ))
    (hstep : ∀ u : Vehicle ρ, ∀ s ∈ steps, P u → P (u.step s).1) {v : Vehicle ρ} (hv : P v) :
    P (v.run steps) := by
  induction steps generalizing v with
  | nil => exact hv
  | cons s rest ih =>
      have hs : P (v.step s).1 := hstep v s (by simp) hv
      exact ih (fun u t ht => hstep u t (by simp [ht])) hs

/-- A new vehicle with the settings of the bench and a script without answers. -/
def bench : Vehicle Script :=
  (create VehicleConfig.bench MetricStore.withLifetimes ScriptedPoller.empty 0).value

end Vehicle

end VehicleTelemetry
