import Mathlib.Tactic
import VehicleTelemetry.Proofs.Poll.Burst
import VehicleTelemetry.Proofs.Vehicle.Charging

/-!
What a vehicle asks of the bus by itself, and when.

* `Vehicle.StartsCharge`: the tick that finds the cable connected and charging begun;
  it asks for the charge mode and for the connector, each in a burst of its own
  (`exists_bursts_tick`), and what they come to is what the two metrics show;
* `queries_tick`, `queries_step`: no other step asks for anything but the vehicle
  identification number, and that once in a slow tick;
* `run_queries`: the theorem for all runs of a vehicle whose settings are accepted.
-/

namespace VehicleTelemetry

open Poller (Burst)

/-- The code in the first byte of a response, as an answer carries it. -/
def answerCode? : Except PollError Payload → Option Nat
  | .ok (byte :: _) => some byte.toNat
  | _ => none

lemma Payload.unsigned_byte (byte : UInt8) (rest : Payload) :
    Payload.unsigned (byte :: rest) 0 1 = .ok byte.toNat := by
  simp [unsigned, field, bigEndian]

/-- A text that is decoded from a code depends on the first byte, and needs it. -/
lemma answerText?_code {α : Type} (ofCode : Nat → α) (text : α → String)
    (answer : Except PollError Payload) :
    answerText? (fun response => text <$> ofCode <$> response.unsigned 0 1) answer =
      (answerCode? answer).map fun code => text (ofCode code) := by
  rcases answer with cause | _ | ⟨byte, rest⟩
  · rfl
  · rfl
  · simp only [answerText?, Except.toOption, Option.bind_some, Payload.unsigned_byte, answerCode?]
    rfl

/-- A step with which the host neither makes a request nor changes the record of them. -/
structure Step.LeavesQueries {ρ : Type} (s : Step ρ) : Prop where
  vin : s.operation ≠ .requestVin
  chargeMode : s.operation ≠ .requestChargeMode
  chargeType : s.operation ≠ .requestChargeType
  poller : ∀ change, s.operation = .changePoller change →
    ∀ p : Poller ρ, (change p).queries = p.queries

namespace Vehicle

variable {ρ : Type} [Responder ρ] (v : Vehicle ρ) (now : Nat)

/-- A tick of a vehicle that charges by its state, with the cable connected by what it
has published, and that has been told that charging has begun. -/
structure StartsCharge (v : Vehicle ρ) (s : Step ρ) : Prop where
  operation_eq : s.operation = .tick
  state_eq : v.state = .charging
  shows : v.store.Shows .connected
  inProgress : v.store.bool Signal.chargeInProgress = true

/-! ### Actions that ask for nothing -/

lemma queries_perform {action : SessionAction} (hmode : action ≠ .requestChargeMode)
    (htype : action ≠ .requestChargeType) :
    (v.perform now action).value.poller.queries = v.poller.queries := by
  cases action with
  | requestChargeMode => exact absurd rfl hmode
  | requestChargeType => exact absurd rfl htype
  | _ => rfl

/-- Actions without a request ask for nothing and leave the metrics of the answers
alone. -/
lemma queries_performAll {actions : List SessionAction}
    (h : ∀ action ∈ actions, action ≠ .requestChargeMode ∧ action ≠ .requestChargeType) :
    (v.performAll now actions).poller.queries = v.poller.queries ∧
      ∀ name ∈ [Signal.chargeMode, Signal.chargeType],
        (v.performAll now actions).store.entry name = v.store.entry name := by
  induction actions generalizing v with
  | nil => exact ⟨rfl, fun _ _ => rfl⟩
  | cons action rest ih =>
      obtain ⟨⟨hmode, htype⟩, hrest⟩ := List.forall_mem_cons.mp h
      obtain ⟨hqueries, hentries⟩ := ih (v.perform now action).value hrest
      have hsignals : ∀ name ∈ [Signal.chargeMode, Signal.chargeType], name ∉ action.signals := by
        cases action with
        | requestChargeMode => exact absurd rfl hmode
        | requestChargeType => exact absurd rfl htype
        | _ => simp only [SessionAction.signals]; decide
      refine ⟨hqueries.trans (v.queries_perform now hmode htype), fun name hname => ?_⟩
      rw [performAll_cons, hentries name hname]
      exact (v.performFrame_perform now action).changesOnly name (hsignals name hname)

/-! ### Ticks -/

omit [Responder ρ] in
lemma startsCharge_iff :
    v.StartsCharge ⟨now, .tick⟩ ↔ v.machine.StartsCharge (v.inputs now) := by
  have hprogress : (v.inputs now).chargingInProgress = v.store.bool Signal.chargeInProgress :=
    (v.recorder.changesOnly_reconcile now).bool_eq (by decide)
  have htext := v.chargeState_inputs now
  constructor
  · intro h
    refine ⟨h.state_eq, ?_, hprogress.trans h.inProgress⟩
    rw [htext]
    exact MetricStore.shows_iff_text.mp h.shows
  · intro h
    refine ⟨rfl, h.state_eq, ?_, hprogress.symm.trans h.chargingInProgress_eq⟩
    rw [MetricStore.shows_iff_text, ← htext]
    exact h.chargeState_eq

omit [Responder ρ] in
/-- What a tick finds of the two metrics is what was there before it. -/
lemma entry_decided {name : String} (hname : name ∈ [Signal.chargeMode, Signal.chargeType]) :
    (v.decided now).store.entry name = v.store.entry name := by
  refine v.recorder.changesOnly_reconcile now name ?_
  revert name
  decide

/-- A request for a code that is repeated until it is answered is a burst, and the text of the
code in its last answer is recorded. -/
lemma exists_burst_answered {α : Type} (query : Query) (name : String) (ofCode : Nat → α)
    (text : α → String) :
    let after := v.answered now name (fun response => text <$> ofCode <$> response.unsigned 0 1)
      (v.poller.retry query v.config.queryAttempts).value
    ∃ answers, Burst query (v.config.queryAttempts - 1 + 1) v.poller after.poller answers ∧
      after.store.entry name = (v.store.entry name).writeText? now
        ((answers.getLast?.bind answerCode?).map fun code => text (ofCode code)) := by
  obtain ⟨answers, hburst, hlast⟩ := v.poller.burst_retry query v.config.queryAttempts
  refine ⟨answers, hburst, ?_⟩
  rw [hlast]
  exact (entry_recordAnswer now v.recorder _ _ _).trans
    (congrArg _ (answerText?_code ofCode text _))

lemma exists_burst_requestChargeMode :
    let after := (v.perform now .requestChargeMode).value
    ∃ modes, Burst v.chargeModeQuery (v.config.queryAttempts - 1 + 1) v.poller after.poller modes ∧
      after.store.entry Signal.chargeMode =
        (v.store.entry Signal.chargeMode).writeText? now
          ((modes.getLast?.bind answerCode?).map fun code => (ChargeMode.ofCode code).text) := by
  rw [value_perform_requestChargeMode, value_requestChargeMode]
  exact v.exists_burst_answered now _ _ ChargeMode.ofCode ChargeMode.text

lemma exists_burst_requestChargeType :
    let after := (v.perform now .requestChargeType).value
    ∃ types, Burst v.chargeTypeQuery (v.config.queryAttempts - 1 + 1) v.poller after.poller types ∧
      after.store.entry Signal.chargeType =
        (v.store.entry Signal.chargeType).writeText? now
          ((types.getLast?.bind answerCode?).map fun code => (ChargeType.ofCode code).text) := by
  rw [value_perform_requestChargeType, value_requestChargeType]
  exact v.exists_burst_answered now _ _ ChargeType.ofCode ChargeType.text

/-- The two bursts of the tick with which charging starts, one after the other and
whatever the first one comes to. -/
lemma exists_bursts_tick (h : v.machine.StartsCharge (v.inputs now)) :
    ∃ between modes types,
      Burst v.chargeModeQuery (v.config.queryAttempts - 1 + 1) v.poller between modes ∧
      Burst v.chargeTypeQuery (v.config.queryAttempts - 1 + 1) between
        (v.tick now).value.poller types ∧
      (v.tick now).value.store.entry Signal.chargeMode =
        (v.store.entry Signal.chargeMode).writeText? now
          ((modes.getLast?.bind answerCode?).map fun code => (ChargeMode.ofCode code).text) ∧
      (v.tick now).value.store.entry Signal.chargeType =
        (v.store.entry Signal.chargeType).writeText? now
          ((types.getLast?.bind answerCode?).map fun code => (ChargeType.ofCode code).text) := by
  -- the vehicle when charging is published, and with the first answer
  set shown := ((v.decided now).perform now (.setChargeState .charging)).value
  set moded := (shown.perform now .requestChargeMode).value
  have htick : (v.tick now).value = (moded.perform now .requestChargeType).value := by
    rw [value_tick, decision_eq, h.step_eq]
    rfl
  have hpublish : PerformFrame [Signal.chargeState] (v.decided now) shown :=
    (v.decided now).performFrame_perform now (.setChargeState .charging)
  have hmode : PerformFrame [Signal.chargeMode] shown moded :=
    shown.performFrame_perform now .requestChargeMode
  have htype : PerformFrame [Signal.chargeType] moded
      (moded.perform now .requestChargeType).value :=
    moded.performFrame_perform now .requestChargeType
  have hconfig : moded.config = v.config := hmode.config_eq.trans hpublish.config_eq
  obtain ⟨modes, hmodes, hmodeEntry⟩ := shown.exists_burst_requestChargeMode now
  obtain ⟨types, htypes, htypeEntry⟩ := moded.exists_burst_requestChargeType now
  rw [chargeTypeQuery, hconfig] at htypes
  rw [htick]
  refine ⟨moded.poller, modes, types, hmodes, htypes, ?_, ?_⟩
  · rw [htype.changesOnly _ (by decide), hmodeEntry, hpublish.changesOnly _ (by decide),
      v.entry_decided now (.head _)]
  · rw [htypeEntry, hmode.changesOnly _ (by decide), hpublish.changesOnly _ (by decide),
      v.entry_decided now (.tail _ (.head _))]

/-- No other tick asks for anything. -/
lemma queries_tick (h : ¬ v.machine.StartsCharge (v.inputs now)) :
    (v.tick now).value.poller.queries = v.poller.queries ∧
      ∀ name ∈ [Signal.chargeMode, Signal.chargeType],
        (v.tick now).value.store.entry name = v.store.entry name := by
  have hactions := v.machine.not_request_step (v.inputs now) h
  rw [← decision_eq] at hactions
  obtain ⟨hqueries, hentries⟩ := (v.decided now).queries_performAll now hactions
  rw [value_tick]
  exact ⟨hqueries, fun name hname => (hentries name hname).trans (v.entry_decided now hname)⟩

/-! ### Other steps -/

/-- A slow tick asks at most once, for the vehicle identification number. -/
lemma queries_slowTick :
    (v.slowTick now).value.poller.queries =
      if v.recorder.vin.isEmpty && v.state == .ready then v.poller.queries.push v.vinQuery
      else v.poller.queries := by
  rw [value_slowTick, value_requestVin]
  split <;> rfl

/-- A step in which the host leaves requests to the vehicle asks for nothing else, if it
is no tick. -/
lemma queries_step {s : Step ρ} (htick : s.operation ≠ .tick) (hs : s.LeavesQueries) :
    (v.step s).1.poller.queries = v.poller.queries ∨
      s.operation = .slowTick ∧
        (v.step s).1.poller.queries = v.poller.queries.push v.vinQuery := by
  obtain ⟨now, operation⟩ := s
  cases operation with
  | tick => exact absurd rfl htick
  | requestVin => exact absurd rfl hs.vin
  | requestChargeMode => exact absurd rfl hs.chargeMode
  | requestChargeType => exact absurd rfl hs.chargeType
  | changePoller change => exact .inl (hs.poller change rfl v.poller)
  | slowTick =>
      have hqueries : (v.step ⟨now, .slowTick⟩).1.poller.queries = _ := v.queries_slowTick now
      rw [hqueries]
      split
      · exact .inr ⟨rfl, rfl⟩
      · exact .inl rfl
  | chunk part =>
      obtain ⟨reassembly, recorder, hchunk⟩ := v.exists_receiveChunk now part
      show (v.receiveChunk now part).value.1.poller.queries = v.poller.queries ∨ _
      rw [hchunk]
      exact .inl rfl
  | _ => exact .inl rfl

/-- Such a step leaves the metrics of the answers alone, if the host does. -/
lemma entry_step_of_leavesQueries {s : Step ρ} (htick : s.operation ≠ .tick)
    (hs : s.LeavesQueries) {name : String} (hname : name ∈ [Signal.chargeMode, Signal.chargeType])
    (htouched : name ∉ s.operation.touched) :
    (v.step s).1.store.entry name = v.store.entry name := by
  have hothers : ∀ name ∈ [Signal.chargeMode, Signal.chargeType],
      name ∉ [Signal.awake] ∧ name ∉ [Signal.vin] ∧ name ∉ Signal.replied := by decide
  obtain ⟨hawake, hvin, hreplied⟩ := hothers name hname
  refine v.changesOnly_step s name ?_
  obtain ⟨now, operation⟩ := s
  cases operation with
  | tick => exact absurd rfl htick
  | requestVin => exact absurd rfl hs.vin
  | requestChargeMode => exact absurd rfl hs.chargeMode
  | requestChargeType => exact absurd rfl hs.chargeType
  | frame => exact hawake
  | slowTick => exact hvin
  | chunk part => exact Signal.not_mem_ofPid hreplied part.pid
  | setMetric other value => exact htouched
  | markMetric other stale => exact htouched
  | setLifetime other seconds => exact htouched
  | changePoller change => exact List.not_mem_nil

/-- **The vehicle asks for the charge mode and the connector when charging starts, and at
no other time.** In every run of a vehicle whose settings are accepted, with a host that
makes no requests itself:

* a tick that finds the cable connected and charging begun makes two bursts of
  requests, each of them until it is answered or the attempts are used up, and each
  of the two metrics shows the text of the code in the last answer to its burst, if
  that has one, and is left alone otherwise;
* any other step makes no request, or is a slow tick with a single request for the
  vehicle identification number, and leaves the two metrics alone if the host does. -/
theorem run_queries {config : VehicleConfig} {store : MetricStore} {poller : Poller ρ} {start : Nat}
    {created : Logged (Vehicle ρ)} (hcreated : create? config store poller start = .ok created)
    {steps : List (Step ρ)} (hsteps : ∀ s ∈ steps, s.LeavesQueries) :
    ∀ before s after, steps = before ++ s :: after →
      let u := created.value.run before
      let w := (u.step s).1
      (u.StartsCharge s →
        ∃ between modes types,
          Burst (.read .plugInControl .chargingControlStatus config.queryTimeout)
            config.queryAttempts u.poller between modes ∧
          Burst (.read .plugInControl .chargingVoltageType config.queryTimeout)
            config.queryAttempts between w.poller types ∧
          w.store.entry Signal.chargeMode =
            (u.store.entry Signal.chargeMode).writeText? s.time
              ((modes.getLast?.bind answerCode?).map fun code => (ChargeMode.ofCode code).text) ∧
          w.store.entry Signal.chargeType =
            (u.store.entry Signal.chargeType).writeText? s.time
              ((types.getLast?.bind answerCode?).map
                fun code => (ChargeType.ofCode code).text)) ∧
      (¬ u.StartsCharge s →
        (w.poller.queries = u.poller.queries ∨
          s.operation = .slowTick ∧ w.poller.queries =
            u.poller.queries.push (.read .hybridControl .vin config.queryTimeout)) ∧
        ∀ name ∈ [Signal.chargeMode, Signal.chargeType], name ∉ s.operation.touched →
          w.store.entry name = u.store.entry name) := by
  rintro before s after rfl u w
  obtain ⟨hpositive, rfl⟩ := of_create?_eq_ok hcreated
  have hattempts : config.queryAttempts - 1 + 1 = config.queryAttempts :=
    Nat.sub_add_cancel hpositive
  have hconfig : u.config = config := config_run _ before
  have hs : s.LeavesQueries := hsteps s (by simp)
  -- only a tick starts a charge, and of the other steps only the slow tick asks anything
  by_cases htick : s.operation = .tick
  · obtain ⟨now, operation⟩ := s
    obtain rfl : operation = .tick := htick
    constructor
    · intro hstarts
      have hbursts := u.exists_bursts_tick now ((u.startsCharge_iff now).mp hstarts)
      rw [chargeModeQuery, chargeTypeQuery, hconfig, hattempts] at hbursts
      exact hbursts
    · intro hnot
      obtain ⟨hqueries, hentries⟩ :=
        u.queries_tick now fun hstarts => hnot ((u.startsCharge_iff now).mpr hstarts)
      exact ⟨.inl hqueries, fun name hname _ => hentries name hname⟩
  · refine ⟨fun hstarts => absurd hstarts.operation_eq htick, fun _ => ⟨?_, fun name hname => ?_⟩⟩
    · rw [← hconfig]
      exact u.queries_step htick hs
    · exact u.entry_step_of_leavesQueries htick hs hname

/-- The charge mode comes at the second attempt, the connector not at all, and the next
tick does not ask again. -/
theorem run_queries_second_attempt :
    let part (pid : Pid) (bytes : List UInt8) : Operation Script :=
      .chunk { sender := Ecu.plugInControl.responseId, pid := pid.number, first := true, bytes,
               remaining := 0 }
    let failure : Except PollError Payload := .error (.bus "no acknowledgement")
    let poller := ((ScriptedPoller.empty.push .chargingControlStatus failure).push
      .chargingControlStatus (.ok [1])).push .chargingVoltageType failure
    let created := create VehicleConfig.bench MetricStore.withLifetimes poller 0
    let before : List (Step Script) := [⟨1000, .frame⟩, ⟨1000, .tick⟩,
      ⟨1500, part .chargingLid [0, 2]⟩, ⟨2000, .tick⟩, ⟨2500, part .piswStatus [1]⟩,
      ⟨3000, .tick⟩, ⟨3500, part .charging [1]⟩]
    let first : Step Script := ⟨4000, .tick⟩
    let second : Step Script := ⟨5000, .tick⟩
    let u := created.value.run before
    let w := (u.step first).1
    create? VehicleConfig.bench MetricStore.withLifetimes poller 0 = .ok created ∧
      (∀ s ∈ before ++ [first, second], s.LeavesQueries) ∧ u.StartsCharge first ∧
      w.poller.queries.size = 4 ∧
      (∃ between modes types,
        Burst (.read .plugInControl .chargingControlStatus 100) 2 u.poller between modes ∧
        Burst (.read .plugInControl .chargingVoltageType 100) 2 between w.poller types ∧
        w.store.entry Signal.chargeMode =
          (u.store.entry Signal.chargeMode).writeText? 4000
            ((modes.getLast?.bind answerCode?).map fun code => (ChargeMode.ofCode code).text) ∧
        w.store.entry Signal.chargeType =
          (u.store.entry Signal.chargeType).writeText? 4000
            ((types.getLast?.bind answerCode?).map fun code => (ChargeType.ofCode code).text)) ∧
      ¬ w.StartsCharge second ∧ (w.step second).1.poller.queries = w.poller.queries := by
  intro part failure poller created before first second
  have hcreated : create? VehicleConfig.bench MetricStore.withLifetimes poller 0 = .ok created := by
    have haccepted : VehicleConfig.bench.refusal? = none := by decide +kernel
    rw [create?, haccepted]
  have hsteps : ∀ s ∈ before ++ [first, second], s.LeavesQueries := by
    simp only [before, first, second, part, List.cons_append, List.nil_append,
      List.forall_mem_cons]
    refine ⟨?_, ?_, ?_, ?_, ?_, ?_, ?_, ?_, ?_, List.forall_mem_nil _⟩ <;>
      exact ⟨by rintro ⟨⟩, by rintro ⟨⟩, by rintro ⟨⟩, by rintro _ ⟨⟩⟩
  have hstarts : (created.value.run before).StartsCharge first :=
    ⟨rfl, by decide +kernel, by decide +kernel, by decide +kernel⟩
  have hagain : ¬ ((created.value.run before).step first).1.StartsCharge second := by
    have hcharging : ¬ ((created.value.run before).step first).1.store.Shows .connected := by
      decide +kernel
    exact fun h => hcharging h.shows
  have hsize : ((created.value.run before).step first).1.poller.queries.size = 4 := by
    decide +kernel
  -- what is left does not depend on the steps, and must not evaluate the run again
  clear_value poller created before
  intro u w
  have hsplit : before ++ [first, second] = (before ++ [first]) ++ second :: [] :=
    (List.append_assoc before [first] [second]).symm
  obtain ⟨hbursts, -⟩ := run_queries hcreated hsteps before first [second] rfl
  obtain ⟨-, hquiet⟩ := run_queries hcreated hsteps (before ++ [first]) second [] hsplit
  rw [run_append] at hquiet
  refine ⟨hcreated, hsteps, hstarts, hsize, hbursts hstarts, hagain, ?_⟩
  obtain ⟨hqueries | ⟨hslow, -⟩, -⟩ := hquiet hagain
  · exact hqueries
  · cases hslow

end Vehicle

end VehicleTelemetry
