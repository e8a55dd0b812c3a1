import Mathlib.Tactic
import VehicleTelemetry.Proofs.Reply.Alike
import VehicleTelemetry.Proofs.Vehicle.Perform

/-!
Answers to the vehicle's own requests cannot disturb a session.

Two vehicles, in front of responders of any two kinds, are `Alike` if nothing tells
them apart but the answers that they have recorded and the requests that they have
made.

* `alike_answered`: a request makes an alike vehicle, whatever its answer is, so
  requests may be made by one of two vehicles alone;
* `Alike.perform`, `Alike.tick`, `Alike.step`: every step keeps vehicles alike and
  gives the same outcome, if the host does the same to both (`Step.Alike`);
* `run_answers`: the theorem for all runs of two new vehicles.
-/

namespace VehicleTelemetry

variable {ρ σ τ : Type}

/-- Two pollers have chosen the same poll states and asked for as many resets. -/
structure Poller.Alike (p : Poller ρ) (q : Poller σ) : Prop where
  pollStates_eq : q.pollStates = p.pollStates
  resets_eq : q.resets = p.resets

/-- The host does the same to two vehicles, except that it may prepare other answers. -/
inductive Operation.Alike : Operation ρ → Operation σ → Prop
  | frame : Alike .frame .frame
  | chunk (part : Chunk) : Alike (.chunk part) (.chunk part)
  | tick : Alike .tick .tick
  | slowTick : Alike .slowTick .slowTick
  | requestVin : Alike .requestVin .requestVin
  | requestChargeMode : Alike .requestChargeMode .requestChargeMode
  | requestChargeType : Alike .requestChargeType .requestChargeType
  | setMetric (name : String) (value : MetricValue) :
      Alike (.setMetric name value) (.setMetric name value)
  | markMetric (name : String) (stale : Bool) :
      Alike (.markMetric name stale) (.markMetric name stale)
  | setLifetime (name : String) (seconds : Option Nat) :
      Alike (.setLifetime name seconds) (.setLifetime name seconds)
  | changePoller {change : Poller ρ → Poller ρ} {other : Poller σ → Poller σ}
      (h : ∀ p q, p.Alike q → (change p).Alike (other q)) :
      Alike (.changePoller change) (.changePoller other)

/-- Two steps at the same time, the same but for answers that the host prepares. -/
structure Step.Alike (s : Step ρ) (t : Step σ) : Prop where
  time_eq : t.time = s.time
  operation : s.operation.Alike t.operation

namespace Vehicle

/-- Two vehicles differ at most in the answers to requests. -/
structure Alike (v : Vehicle ρ) (w : Vehicle σ) : Prop where
  machine_eq : w.machine = v.machine
  reassembly_eq : w.reassembly = v.reassembly
  recorder : v.recorder.Alike w.recorder
  poller : v.poller.Alike w.poller

namespace Alike

variable {u : Vehicle τ} {v : Vehicle ρ} {w : Vehicle σ}

lemma symm (h : v.Alike w) : w.Alike v :=
  ⟨h.machine_eq.symm, h.reassembly_eq.symm, h.recorder.symm,
    ⟨h.poller.pollStates_eq.symm, h.poller.resets_eq.symm⟩⟩

lemma trans (h : u.Alike v) (h' : v.Alike w) : u.Alike w :=
  ⟨h'.machine_eq.trans h.machine_eq, h'.reassembly_eq.trans h.reassembly_eq,
    h.recorder.trans h'.recorder, ⟨h'.poller.pollStates_eq.trans h.poller.pollStates_eq,
      h'.poller.resets_eq.trans h.poller.resets_eq⟩⟩

/-- What each vehicle does on its own makes no difference. -/
lemma both (h : v.Alike w) {v' : Vehicle ρ} {w' : Vehicle σ} (hv : v.Alike v') (hw : w.Alike w') :
    v'.Alike w' :=
  hv.symm.trans (h.trans hw)

lemma receiveChunk (h : v.Alike w) (now : Nat) (part : Chunk) :
    (w.receiveChunk now part).value.2 = (v.receiveChunk now part).value.2 ∧
      (v.receiveChunk now part).value.1.Alike (w.receiveChunk now part).value.1 := by
  have hreceived : (w.reassembly.receive part).value = (v.reassembly.receive part).value := by
    rw [h.reassembly_eq]
  have hreassembly := congrArg Prod.fst hreceived
  cases hpayload : (v.reassembly.receive part).value.2 with
  | none =>
      rw [value_receiveChunk_of_none now hpayload,
        value_receiveChunk_of_none now ((congrArg Prod.snd hreceived).trans hpayload)]
      exact ⟨rfl, h.machine_eq, hreassembly, h.recorder, h.poller⟩
  | some payload =>
      rw [value_receiveChunk_of_some now hpayload,
        value_receiveChunk_of_some now ((congrArg Prod.snd hreceived).trans hpayload)]
      obtain ⟨houtcome, hrecorder⟩ := alike_dispatch h.recorder
        { sender := part.sender, pid := part.pid, payload, time := now }
      exact ⟨congrArg some houtcome, h.machine_eq, hreassembly, hrecorder, h.poller⟩

/-- Settings of requests make no difference to a new vehicle. -/
lemma create (config : VehicleConfig) (timeout attempts : Nat) (store : MetricStore)
    {poller : Poller ρ} {other : Poller σ} (hpoller : poller.Alike other) (start : Nat) :
    (create config store poller start).value.Alike
      (Vehicle.create { config with queryTimeout := timeout, queryAttempts := attempts } store other
        start).value := by
  refine ⟨rfl, rfl, .refl _, ⟨?_, hpoller.resets_eq⟩⟩
  exact congrArg (Array.push · SessionState.sleep.number) hpoller.pollStates_eq

end Alike

/-! ### Requests -/

section Requests

variable [Responder ρ] (v : Vehicle ρ) (now : Nat)

omit [Responder ρ] in
/-- An answer makes no difference but to the metric that holds it. -/
lemma alike_answered {name : String} (hname : name ∈ Signal.answered)
    (decode : Payload → Except PayloadError String) {answer : Except PollError Payload × Poller ρ}
    (hanswer : ∃ responder queries, answer.2 = { v.poller with responder, queries }) :
    v.Alike (v.answered now name decode answer) := by
  obtain ⟨responder, queries, hpoller⟩ := hanswer
  obtain ⟨hmeter, hstore⟩ := recordAnswer_frame now v.recorder name decode answer.1
  have hsub : [name] ⊆ Signal.answered := List.cons_subset.mpr ⟨hname, List.nil_subset _⟩
  refine ⟨rfl, rfl, ⟨hmeter, hstore.mono hsub⟩, ?_⟩
  rw [answered, hpoller]
  exact ⟨rfl, rfl⟩

lemma alike_requestVin : v.Alike (v.requestVin now).value := by
  rw [value_requestVin]
  exact v.alike_answered now (by decide) _ (v.poller.exists_ask _)

lemma alike_requestChargeMode : v.Alike (v.requestChargeMode now).value := by
  rw [value_requestChargeMode]
  exact v.alike_answered now (by decide) _ (v.poller.exists_retry _ _)

lemma alike_requestChargeType : v.Alike (v.requestChargeType now).value := by
  rw [value_requestChargeType]
  exact v.alike_answered now (by decide) _ (v.poller.exists_retry _ _)

/-- Whether the number is asked for depends on an answer, but makes no difference. -/
lemma alike_slowTick : v.Alike (v.slowTick now).value := by
  rw [value_slowTick]
  split
  · exact v.alike_requestVin now
  · exact ⟨rfl, rfl, .refl _, ⟨rfl, rfl⟩⟩

end Requests

/-! ### Steps of two vehicles -/

namespace Alike

variable [Responder ρ] [Responder σ] {v : Vehicle ρ} {w : Vehicle σ}

lemma perform (h : v.Alike w) (now : Nat) (action : SessionAction) :
    (v.perform now action).value.Alike (w.perform now action).value := by
  cases action with
  | resetBus =>
      exact ⟨h.machine_eq, h.reassembly_eq, h.recorder,
        ⟨h.poller.pollStates_eq, congrArg (· + 1) h.poller.resets_eq⟩⟩
  | transition source target =>
      exact ⟨h.machine_eq, h.reassembly_eq, h.recorder.put now _ _,
        ⟨congrArg (Array.push · target.number) h.poller.pollStates_eq, h.poller.resets_eq⟩⟩
  | setChargeState state =>
      exact ⟨h.machine_eq, h.reassembly_eq, h.recorder.put now _ _, h.poller⟩
  | markTripStart =>
      exact ⟨h.machine_eq, h.reassembly_eq,
        ⟨h.recorder.meter_eq, h.recorder.changesOnly.update_both _ _⟩, h.poller⟩
  | requestChargeMode =>
      exact h.both (v.alike_requestChargeMode now) (w.alike_requestChargeMode now)
  | requestChargeType =>
      exact h.both (v.alike_requestChargeType now) (w.alike_requestChargeType now)

lemma performAll (h : v.Alike w) (now : Nat) (actions : List SessionAction) :
    (v.performAll now actions).Alike (w.performAll now actions) := by
  induction actions generalizing v w with
  | nil => exact h
  | cons action rest ih => exact ih (h.perform now action)

lemma tick (h : v.Alike w) (now : Nat) : (v.tick now).value.Alike (w.tick now).value := by
  have hreconcile : (v.reconciled now).recorder.Alike (w.reconciled now).recorder :=
    h.recorder.reconcile now
  have hdecision : w.decision now = v.decision now := by
    rw [decision, decision, h.machine_eq, hreconcile.sessionInputs_eq]
  have hdecided : (v.decided now).Alike (w.decided now) :=
    ⟨congrArg Prod.snd hdecision, h.reassembly_eq, hreconcile, h.poller⟩
  rw [value_tick, value_tick, hdecision]
  exact hdecided.performAll now _

/-- The same step of two vehicles has the same outcome, and makes no difference. -/
lemma step (h : v.Alike w) {s : Step ρ} {t : Step σ} (hstep : s.Alike t) :
    (w.step t).2 = (v.step s).2 ∧ (v.step s).1.Alike (w.step t).1 := by
  obtain ⟨now, operation⟩ := s
  obtain ⟨time, other⟩ := t
  obtain ⟨rfl, hoperation⟩ := hstep
  cases hoperation with
  | frame => exact ⟨rfl, h.machine_eq, h.reassembly_eq, h.recorder.put _ _ _, h.poller⟩
  | chunk part => exact h.receiveChunk _ part
  | tick => exact ⟨rfl, h.tick _⟩
  | slowTick => exact ⟨rfl, h.both (v.alike_slowTick _) (w.alike_slowTick _)⟩
  | requestVin => exact ⟨rfl, h.both (v.alike_requestVin _) (w.alike_requestVin _)⟩
  | requestChargeMode =>
      exact ⟨rfl, h.both (v.alike_requestChargeMode _) (w.alike_requestChargeMode _)⟩
  | requestChargeType =>
      exact ⟨rfl, h.both (v.alike_requestChargeType _) (w.alike_requestChargeType _)⟩
  | setMetric name value =>
      exact ⟨rfl, h.machine_eq, h.reassembly_eq, h.recorder.put _ name value, h.poller⟩
  | markMetric name stale =>
      exact ⟨rfl, h.machine_eq, h.reassembly_eq,
        ⟨h.recorder.meter_eq, h.recorder.changesOnly.update_both _ _⟩, h.poller⟩
  | setLifetime name seconds =>
      exact ⟨rfl, h.machine_eq, h.reassembly_eq,
        ⟨h.recorder.meter_eq, h.recorder.changesOnly.update_both _ _⟩, h.poller⟩
  | changePoller hchange =>
      exact ⟨rfl, h.machine_eq, h.reassembly_eq, h.recorder, hchange _ _ h.poller⟩

end Alike

/-! ### Runs of two vehicles -/

lemma Alike.run [Responder ρ] [Responder σ] {v : Vehicle ρ} {w : Vehicle σ} (h : v.Alike w)
    {steps : List (Step ρ)} {others : List (Step σ)}
    (hsteps : List.Forall₂ Step.Alike steps others) :
    w.outcomes others = v.outcomes steps ∧ (v.run steps).Alike (w.run others) := by
  induction hsteps generalizing v w with
  | nil => exact ⟨rfl, h⟩
  | cons hfirst hrest ih =>
      obtain ⟨houtcome, hstep⟩ := h.step hfirst
      obtain ⟨houtcomes, hrun⟩ := ih hstep
      exact ⟨congrArg₂ List.cons houtcome houtcomes, hrun⟩

/-- **Requests that fail cannot disturb a session.** Two new vehicles that start from
the same metrics, with settings that differ at most in how long they wait for answers
and how often they ask, and with responders that answer in any way, are run with the
same operations at the same times. All steps have the same outcomes, and after every
number of steps the two agree on the state of the session, the poll states, the
resets, the reassembly, the energy, and on all metrics but the three that hold
answers: their values, times of writing, marks and lifetimes. -/
theorem run_answers [Responder ρ] [Responder σ] (config : VehicleConfig) (timeout attempts : Nat)
    (store : MetricStore) {poller : Poller ρ} {other : Poller σ} (hpoller : poller.Alike other)
    (start : Nat) {steps : List (Step ρ)} {others : List (Step σ)}
    (hsteps : List.Forall₂ Step.Alike steps others) :
    let v := (create config store poller start).value
    let w := (create { config with queryTimeout := timeout, queryAttempts := attempts } store other
      start).value
    w.outcomes others = v.outcomes steps ∧
    ∀ n,
      let v' := v.run (steps.take n)
      let w' := w.run (others.take n)
      w'.state = v'.state ∧ w'.poller.pollStates = v'.poller.pollStates ∧
        w'.poller.resets = v'.poller.resets ∧ w'.reassembly = v'.reassembly ∧
        w'.recorder.meter = v'.recorder.meter ∧
        ∀ name, name ∉ [Signal.vin, Signal.chargeMode, Signal.chargeType] →
          w'.store.entry name = v'.store.entry name ∧
            ∀ now, w'.store.isStale now name = v'.store.isStale now name := by
  intro v w
  -- settings and pollers differ, so what the runs keep is likeness and not equality
  have hcreated : v.Alike w := .create config timeout attempts store hpoller start
  refine ⟨(hcreated.run hsteps).1, fun n => ?_⟩
  intro v' w'
  have h : v'.Alike w' := (hcreated.run (List.forall₂_take n hsteps)).2
  refine ⟨congrArg SessionMachine.state h.machine_eq, h.poller.pollStates_eq, h.poller.resets_eq,
    h.reassembly_eq, h.recorder.meter_eq, fun name hname => ?_⟩
  exact ⟨h.recorder.changesOnly name hname, h.recorder.changesOnly.isStale_eq hname⟩

/-- Of two vehicles that are being charged, one is told the charge mode and the other
one, which waits less and asks more often, is not. -/
theorem run_answers_one_silent :
    let part (pid : Pid) (bytes : List UInt8) : Operation Script :=
      .chunk { sender := Ecu.plugInControl.responseId, pid := pid.number, first := true, bytes,
               remaining := 0 }
    let steps (prepare : ScriptedPoller → ScriptedPoller) : List (Step Script) :=
      [⟨0, .changePoller prepare⟩, ⟨1000, .frame⟩, ⟨1000, .tick⟩, ⟨1500, part .chargingLid [0, 2]⟩,
        ⟨2000, .tick⟩, ⟨2500, part .piswStatus [3]⟩, ⟨3000, .tick⟩, ⟨3500, part .charging [1]⟩,
        ⟨4000, .tick⟩]
    let told := steps (·.push .chargingControlStatus (.ok [0]))
    let silent := steps (·.setResetFailure (some (.bus "down")))
    let v := bench.run told
    let w := (create { VehicleConfig.bench with queryTimeout := 50, queryAttempts := 3 }
      MetricStore.withLifetimes ScriptedPoller.empty 0).value.run silent
    ScriptedPoller.empty.Alike ScriptedPoller.empty ∧ List.Forall₂ Step.Alike told silent ∧
      v.store.value? Signal.chargeMode = some (.text "Standard") ∧
      w.store.value? Signal.chargeMode = none ∧ v.store.text Signal.chargeState = "charging" ∧
      w.state = v.state ∧ w.store.entry Signal.chargeState = v.store.entry Signal.chargeState := by
  intro part steps told silent v w
  have hpoller : ScriptedPoller.empty.Alike ScriptedPoller.empty := ⟨rfl, rfl⟩
  have hsteps : List.Forall₂ Step.Alike told silent := by
    have hprepare : ∀ p q : ScriptedPoller, p.Alike q →
        Poller.Alike (p.push .chargingControlStatus (.ok [0]))
          (q.setResetFailure (some (.bus "down"))) :=
      fun p q h => ⟨h.pollStates_eq, h.resets_eq⟩
    exact .cons ⟨rfl, .changePoller hprepare⟩ (.cons ⟨rfl, .frame⟩ (.cons ⟨rfl, .tick⟩
      (.cons ⟨rfl, .chunk _⟩ (.cons ⟨rfl, .tick⟩ (.cons ⟨rfl, .chunk _⟩ (.cons ⟨rfl, .tick⟩
      (.cons ⟨rfl, .chunk _⟩ (.cons ⟨rfl, .tick⟩ .nil))))))))
  have htold : v.store.value? Signal.chargeMode = some (.text "Standard") := by decide +kernel
  have hsilent : w.store.value? Signal.chargeMode = none := by decide +kernel
  have hcharging : v.store.text Signal.chargeState = "charging" := by decide +kernel
  have hlengths : told.length = silent.length := rfl
  -- what is left does not depend on the steps, and must not evaluate the runs again
  clear_value told silent
  have h := run_answers VehicleConfig.bench 50 3 MetricStore.withLifetimes hpoller 0 hsteps
  have hwhole := h.2 told.length
  rw [List.take_length, hlengths, List.take_length] at hwhole
  obtain ⟨hstate, -, -, -, -, hstore⟩ := hwhole
  exact ⟨hpoller, hsteps, htold, hsilent, hcharging, hstate, (hstore _ (by decide)).1⟩

end Vehicle

end VehicleTelemetry
