import Mathlib.Tactic
import VehicleTelemetry.Proofs.Payload.Vin
import VehicleTelemetry.Proofs.Vehicle.Queries

/-!
The vehicle identification number over whole runs.

* `Vehicle.AsksVin`: the slow ticks that ask for the number; `Vehicle.vinAnswers`: the
  answers that a run has got to it;
* `step_of_asksVin`, `keepsVin_of_not_asksVin`: what such a slow tick does, and what no
  other step does;
* `KnowsVin`: the number is the first one that was accepted, and was not asked for after
  that. This is kept by every step (`KnowsVin.step`);
* `run_vin`: the theorem for all runs of a new vehicle.

A slow tick asks when the number reads as an empty text. That this is when there is none
rests on `Decode.isVin_of_vin`: an empty text is never accepted.
-/

namespace VehicleTelemetry

/-- A step with which the host neither writes the number nor asks for it, nor changes the
record of requests. -/
structure Step.LeavesVin {ρ : Type} (s : Step ρ) : Prop where
  write : ∀ value, s.operation ≠ .setMetric Signal.vin value
  request : s.operation ≠ .requestVin
  poller : ∀ change, s.operation = .changePoller change →
    ∀ p : Poller ρ, (change p).queries = p.queries

/-- If a store holds a number, then it is one that can be accepted. -/
def MetricStore.VinAccepted (store : MetricStore) : Prop :=
  ∀ value, store.value? Signal.vin = some value → ∃ text, value = .text text ∧ IsVin text

namespace Vehicle

variable {ρ : Type} [Responder ρ] (v : Vehicle ρ) (now : Nat)

/-- A slow tick in ready, with no number so far. -/
structure AsksVin (v : Vehicle ρ) (s : Step ρ) : Prop where
  operation_eq : s.operation = .slowTick
  state_eq : v.state = .ready
  unset : v.store.value? Signal.vin = none

/-- The answer that a step gets to a request for the number, if it makes one. -/
def vinAnswer? (s : Step ρ) : Option (Except PollError Payload) :=
  match s.operation with
  | .slowTick =>
    if v.state = .ready ∧ v.store.value? Signal.vin = none then
      some (Responder.answer v.poller.responder v.vinQuery).1
    else none
  | _ => none

/-- The answers that a run gets to its requests for the number, in order. -/
def vinAnswers (v : Vehicle ρ) : List (Step ρ) → List (Except PollError Payload)
  | [] => []
  | s :: rest => (v.vinAnswer? s).toList ++ (v.step s).1.vinAnswers rest

lemma vinAnswers_concat (before : List (Step ρ)) (s : Step ρ) :
    v.vinAnswers (before ++ [s]) =
      v.vinAnswers before ++ ((v.run before).vinAnswer? s).toList := by
  induction before generalizing v with
  | nil => exact List.append_nil _
  | cons first rest ih =>
      rw [List.cons_append, vinAnswers, ih, vinAnswers, run_cons, List.append_assoc]

/-! ### A slow tick that asks -/

omit [Responder ρ] in
/-- A number that has been accepted does not read as an empty text. -/
lemma vin_isEmpty_iff (h : v.store.VinAccepted) :
    v.recorder.vin.isEmpty = true ↔ v.store.value? Signal.vin = none := by
  have hvin : v.recorder.vin = v.store.text Signal.vin := rfl
  rw [hvin, MetricStore.text]
  cases hvalue : v.store.value? Signal.vin with
  | none => exact ⟨fun _ => rfl, fun _ => rfl⟩
  | some value =>
      obtain ⟨text, rfl, htext⟩ := h value hvalue
      refine ⟨fun hempty => ?_, fun hnone => absurd hnone (Option.some_ne_none _)⟩
      exact absurd (String.isEmpty_iff.mp hempty) htext.ne_empty

variable {v}

lemma AsksVin.vinAnswer?_eq {s : Step ρ} (h : v.AsksVin s) :
    v.vinAnswer? s = some (v.poller.ask v.vinQuery).value.1 := by
  rw [vinAnswer?, h.operation_eq]
  exact if_pos ⟨h.state_eq, h.unset⟩

lemma vinAnswer?_of_not_asksVin {s : Step ρ} (h : ¬ v.AsksVin s) : v.vinAnswer? s = none := by
  obtain ⟨now, operation⟩ := s
  cases operation with
  | slowTick => exact if_neg fun hasks => h ⟨rfl, hasks.1, hasks.2⟩
  | _ => rfl

/-- It makes the request once and records the answer. -/
lemma step_of_asksVin {s : Step ρ} (h : v.AsksVin s) :
    (v.step s).1 = v.answered s.time Signal.vin Decode.vin (v.poller.ask v.vinQuery).value := by
  obtain ⟨now, operation⟩ := s
  obtain rfl : operation = .slowTick := h.operation_eq
  have hempty : v.recorder.vin.isEmpty = true := by
    have htext : v.recorder.vin = v.store.text Signal.vin := rfl
    rw [htext, MetricStore.text, h.unset]
    rfl
  have hready : (v.state == .ready) = true := beq_iff_eq.mpr h.state_eq
  show (v.slowTick now).value = _
  rw [value_slowTick, hempty, hready, value_requestVin]
  rfl

/-! ### All other steps -/

/-- The number is neither written nor asked for. -/
structure KeepsVin (before after : Vehicle ρ) : Prop where
  value?_eq : after.store.value? Signal.vin = before.store.value? Signal.vin
  written_eq : (after.store.entry Signal.vin).written = (before.store.entry Signal.vin).written
  queryCount_eq : after.poller.queryCount .vin = before.poller.queryCount .vin

namespace KeepsVin

variable {a b c : Vehicle ρ}

omit [Responder ρ] in
lemma refl (a : Vehicle ρ) : KeepsVin a a := ⟨rfl, rfl, rfl⟩

omit [Responder ρ] in
lemma trans (h : KeepsVin a b) (h' : KeepsVin b c) : KeepsVin a c :=
  ⟨h'.value?_eq.trans h.value?_eq, h'.written_eq.trans h.written_eq,
    h'.queryCount_eq.trans h.queryCount_eq⟩

omit [Responder ρ] in
lemma of_changesOnly {names : List String} (hstore : MetricStore.ChangesOnly names a.store b.store)
    (hname : Signal.vin ∉ names) (hqueries : b.poller.queryCount .vin = a.poller.queryCount .vin) :
    KeepsVin a b :=
  ⟨hstore.value?_eq hname, congrArg MetricEntry.written (hstore _ hname), hqueries⟩

end KeepsVin

variable (v)

/-- A tick may ask for other things, but not for the number. -/
lemma keepsVin_tick : KeepsVin v (v.tick now).value := by
  refine .of_changesOnly (v.changesOnly_tick now) (by decide) ?_
  by_cases hstarts : v.machine.StartsCharge (v.inputs now)
  · obtain ⟨between, modes, types, hmodes, htypes, -⟩ := v.exists_bursts_tick now hstarts
    have hmode : v.chargeModeQuery.pid ≠ .vin := nofun
    have htype : v.chargeTypeQuery.pid ≠ .vin := nofun
    rw [htypes.queryCount_of_ne htype, hmodes.queryCount_of_ne hmode]
  · rw [Poller.queryCount, (v.queries_tick now hstarts).1, Poller.queryCount]

lemma keepsVin_requestChargeMode : KeepsVin v (v.requestChargeMode now).value := by
  obtain ⟨modes, hburst, -⟩ := v.exists_burst_requestChargeMode now
  have hframe := v.performFrame_perform now .requestChargeMode
  exact .of_changesOnly hframe.changesOnly (by decide) (hburst.queryCount_of_ne nofun)

lemma keepsVin_requestChargeType : KeepsVin v (v.requestChargeType now).value := by
  obtain ⟨types, hburst, -⟩ := v.exists_burst_requestChargeType now
  have hframe := v.performFrame_perform now .requestChargeType
  exact .of_changesOnly hframe.changesOnly (by decide) (hburst.queryCount_of_ne nofun)

lemma keepsVin_chunk (part : Chunk) : KeepsVin v (v.receiveChunk now part).value.1 := by
  have hstore := v.changesOnly_step ⟨now, .chunk part⟩
  obtain ⟨reassembly, recorder, hchunk⟩ := v.exists_receiveChunk now part
  refine .of_changesOnly hstore (Signal.not_mem_ofPid (by decide) part.pid) ?_
  rw [hchunk]

variable {v}

/-- A slow tick that does not ask does nothing. -/
lemma slowTick_of_not_asksVin (hvin : v.store.VinAccepted) (h : ¬ v.AsksVin ⟨now, .slowTick⟩) :
    (v.slowTick now).value = v := by
  rw [value_slowTick, if_neg]
  intro hasks
  rw [Bool.and_eq_true, v.vin_isEmpty_iff hvin, beq_iff_eq] at hasks
  exact h ⟨rfl, hasks.2, hasks.1⟩

lemma keepsVin_of_not_asksVin {s : Step ρ} (hvin : v.store.VinAccepted) (hs : s.LeavesVin)
    (h : ¬ v.AsksVin s) : KeepsVin v (v.step s).1 := by
  obtain ⟨now, operation⟩ := s
  cases operation with
  | slowTick =>
      have hsame : (v.step ⟨now, .slowTick⟩).1 = v := slowTick_of_not_asksVin now hvin h
      rw [hsame]
      exact .refl v
  | tick => exact v.keepsVin_tick now
  | chunk part => exact v.keepsVin_chunk now part
  | requestVin => exact absurd rfl hs.request
  | requestChargeMode => exact v.keepsVin_requestChargeMode now
  | requestChargeType => exact v.keepsVin_requestChargeType now
  | frame =>
      have hname : Signal.vin ∉ [Signal.awake] := by decide
      exact .of_changesOnly (v.changesOnly_step ⟨now, .frame⟩) hname rfl
  | setMetric name value =>
      have hne : Signal.vin ≠ name := fun hname => hs.write value (hname ▸ rfl)
      exact .of_changesOnly (v.changesOnly_step ⟨now, .setMetric name value⟩)
        (fun hmem => hne (List.mem_singleton.mp hmem)) rfl
  | markMetric name stale =>
      refine ⟨MetricStore.value?_mark _ _ _ _, ?_, rfl⟩
      show ((v.store.mark name stale).entry _).written = _
      rw [MetricStore.entry_mark]
      split
      · next hname => rw [hname]
      · rfl
  | setLifetime name seconds =>
      refine ⟨MetricStore.value?_setLifetime _ _ _ _, ?_, rfl⟩
      show ((v.store.setLifetime name seconds).entry _).written = _
      rw [MetricStore.entry_setLifetime]
      split
      · next hname => rw [hname]
      · rfl
  | changePoller change =>
      refine ⟨rfl, rfl, ?_⟩
      show (change v.poller).queryCount .vin = v.poller.queryCount .vin
      rw [Poller.queryCount, hs.poller change rfl, Poller.queryCount]

/-! ### Runs -/

/-- The number is the first one that has been accepted, and none of the answers before
the last one has been. -/
structure KnowsVin (v : Vehicle ρ) (answers : List (Except PollError Payload)) : Prop where
  value?_eq : v.store.value? Signal.vin =
    (answers.findSome? (answerText? Decode.vin)).map .text
  refused : ∀ answer ∈ answers.dropLast, answerText? Decode.vin answer = none

namespace KnowsVin

variable {answers : List (Except PollError Payload)}

omit [Responder ρ] in
/-- What is accepted is a number. -/
lemma accepted (h : v.KnowsVin answers) : v.store.VinAccepted := by
  intro value hvalue
  rw [h.value?_eq, Option.map_eq_some_iff] at hvalue
  obtain ⟨text, hfound, rfl⟩ := hvalue
  obtain ⟨answer, -, htext⟩ := List.exists_of_findSome?_eq_some hfound
  obtain ⟨response, -, hvin⟩ := exists_of_answerText?_eq_some htext
  exact ⟨text, rfl, Decode.isVin_of_vin hvin⟩

/-- Every step keeps it so, with the answer that it gets if it asks. -/
lemma step (h : v.KnowsVin answers) {s : Step ρ} (hs : s.LeavesVin) :
    (v.step s).1.KnowsVin (answers ++ (v.vinAnswer? s).toList) := by
  by_cases hasks : v.AsksVin s
  -- the number is asked for while it is unset, and then none of the answers so far was accepted
  · have hnone : answers.findSome? (answerText? Decode.vin) = none := by
      have hunset := hasks.unset
      rw [h.value?_eq] at hunset
      exact Option.map_eq_none_iff.mp hunset
    have hentry := entry_recordAnswer s.time v.recorder Signal.vin Decode.vin
      (v.poller.ask v.vinQuery).value.1
    rw [hasks.vinAnswer?_eq, Option.toList_some]
    refine ⟨?_, ?_⟩
    · rw [step_of_asksVin hasks, List.findSome?_append, hnone, MetricStore.value?]
      refine (congrArg MetricEntry.value hentry).trans ?_
      cases htext : answerText? Decode.vin (v.poller.ask v.vinQuery).value.1 with
      | none =>
          simp only [MetricEntry.writeText?, List.findSome?_cons, htext]
          exact hasks.unset
      | some text =>
          simp only [List.findSome?_cons, htext]
          rfl
    · rw [List.dropLast_concat]
      exact List.findSome?_eq_none_iff.mp hnone
  · rw [vinAnswer?_of_not_asksVin hasks, Option.toList_none, List.append_nil]
    have hkeeps := keepsVin_of_not_asksVin h.accepted hs hasks
    exact ⟨hkeeps.value?_eq.trans h.value?_eq, h.refused⟩

lemma run (h : v.KnowsVin []) {steps : List (Step ρ)} (hsteps : ∀ s ∈ steps, s.LeavesVin) :
    (v.run steps).KnowsVin (v.vinAnswers steps) := by
  induction steps using List.reverseRecOn with
  | nil => exact h
  | append_singleton before s ih =>
      have hbefore := ih fun t ht => hsteps t (List.mem_append_left _ ht)
      rw [run_append, vinAnswers_concat]
      exact hbefore.step (hsteps s (by simp))

end KnowsVin

/-- Once there is a number it is neither written nor asked for again. -/
lemma keepsVin_run (v : Vehicle ρ) {text : String} (hvin : IsVin text)
    (hvalue : v.store.value? Signal.vin = some (.text text)) {steps : List (Step ρ)}
    (hsteps : ∀ s ∈ steps, s.LeavesVin) : KeepsVin v (v.run steps) := by
  refine run_preserves (P := KeepsVin v) steps (fun u s hs hkeeps => ?_) (.refl v)
  have hsome : u.store.value? Signal.vin = some (.text text) := hkeeps.value?_eq.trans hvalue
  refine hkeeps.trans (keepsVin_of_not_asksVin ?_ (hsteps s hs) fun hasks => ?_)
  · intro value h
    obtain rfl := Option.some.inj (hsome.symm.trans h)
    exact ⟨text, rfl, hvin⟩
  · exact nomatch hasks.unset.symm.trans hsome

/-- **The vehicle asks for its identification number until it gets one.** In every run of a
new vehicle that has none, with a host that leaves the number to it:

* the number is the first answer that is accepted, graphic characters and at least one,
  and only the last answer can be;
* a slow tick in ready without a number makes one request for it; a failed or refused
  answer to it changes nothing but the poller, and an accepted one is written;
* no other step makes a request for it or writes it, and any other slow tick does
  nothing at all;
* once there is a number, it is never written or asked for again. -/
theorem run_vin (config : VehicleConfig) {store : MetricStore} (poller : Poller ρ) (start : Nat)
    {steps : List (Step ρ)} (hstore : store.value? Signal.vin = none)
    (hsteps : ∀ s ∈ steps, s.LeavesVin) :
    let v := (create config store poller start).value
    ((v.run steps).store.value? Signal.vin =
        ((v.vinAnswers steps).findSome? (answerText? Decode.vin)).map .text ∧
      (∀ value, (v.run steps).store.value? Signal.vin = some value →
        ∃ text, value = .text text ∧ IsVin text) ∧
      ∀ answer ∈ (v.vinAnswers steps).dropLast, answerText? Decode.vin answer = none) ∧
    (∀ before s after, steps = before ++ s :: after →
      let u := v.run before
      let w := (u.step s).1
      (u.AsksVin s →
        w.poller.queries = u.poller.queries.push (.read .hybridControl .vin config.queryTimeout) ∧
        ∃ answer, u.vinAnswer? s = some answer ∧
          (answerText? Decode.vin answer = none → w = { u with poller := w.poller }) ∧
          ∀ text, answerText? Decode.vin answer = some text → w.store.entry Signal.vin =
            (u.store.entry Signal.vin).write s.time (.text text)) ∧
      (¬ u.AsksVin s →
        u.vinAnswer? s = none ∧ KeepsVin u w ∧ (s.operation = .slowTick → w = u))) ∧
    ∀ before between after, steps = before ++ (between ++ after) →
      (v.run before).store.value? Signal.vin ≠ none →
      KeepsVin (v.run before) ((v.run before).run between) := by
  intro v
  have hcreated : v.KnowsVin [] := by
    refine ⟨?_, nofun⟩
    exact ((changesOnly_create config store poller start).value?_eq (by decide)).trans hstore
  have hknows : ∀ before after, steps = before ++ after →
      (v.run before).KnowsVin (v.vinAnswers before) := by
    rintro before after rfl
    exact hcreated.run fun s hs => hsteps s (List.mem_append_left _ hs)
  have hall := hknows steps [] (List.append_nil _).symm
  refine ⟨⟨hall.value?_eq, hall.accepted, hall.refused⟩, ?_, ?_⟩
  · intro before s after hsplit u w
    have hbefore := hknows before (s :: after) hsplit
    have hs : s.LeavesVin := hsteps s (by simp [hsplit])
    have hconfig : u.config = config := config_run _ before
    constructor
    · intro hasks
      have hw : w = u.answered s.time Signal.vin Decode.vin (u.poller.ask u.vinQuery).value :=
        step_of_asksVin hasks
      refine ⟨?_, _, hasks.vinAnswer?_eq, fun hnone => ?_, fun text htext => ?_⟩
      · rw [hw, ← hconfig]
        rfl
      · rw [hw, answered, recordAnswer_of_none s.time u.recorder Signal.vin hnone]
      · have hentry := entry_recordAnswer s.time u.recorder Signal.vin Decode.vin
          (u.poller.ask u.vinQuery).value.1
        rw [htext] at hentry
        rw [hw]
        exact hentry
    · intro hnot
      refine ⟨vinAnswer?_of_not_asksVin hnot,
        keepsVin_of_not_asksVin hbefore.accepted hs hnot, fun hslow => ?_⟩
      obtain ⟨now, operation⟩ := s
      obtain rfl : operation = .slowTick := hslow
      exact slowTick_of_not_asksVin now hbefore.accepted hnot
  -- what is set is an accepted text, and with that nothing asks again
  · intro before between after hsplit hset
    obtain ⟨value, hvalue⟩ := Option.ne_none_iff_exists'.mp hset
    obtain ⟨text, rfl, hvin⟩ := (hknows before _ hsplit).accepted value hvalue
    exact keepsVin_run _ hvin hvalue fun s hs => hsteps s (by simp [hsplit, hs])

/-- A slow tick asleep asks for nothing; in ready the first request fails, the second is
answered with padding alone, the third with a number, and the fourth slow tick is
quiet. -/
theorem run_vin_third_answer :
    let ready : Operation Script :=
      .chunk { sender := Ecu.hybridControl.responseId, pid := Pid.readySignal.number,
               first := true, bytes := [0, 1], remaining := 0 }
    let failure : Except PollError Payload := .error (.bus "no acknowledgement")
    let poller := ((ScriptedPoller.empty.push .vin failure).push .vin (.ok [0x20, 0])).push .vin
      (.ok [0x4A, 0x54, 0x31, 0x20, 0])
    let v := (create VehicleConfig.bench MetricStore.withLifetimes poller 0).value
    let before : List (Step Script) := [⟨500, .slowTick⟩, ⟨1000, .frame⟩, ⟨1000, .tick⟩,
      ⟨1500, ready⟩, ⟨2000, .tick⟩, ⟨3000, .slowTick⟩, ⟨4000, .slowTick⟩, ⟨5000, .slowTick⟩]
    let last : Step Script := ⟨6000, .slowTick⟩
    MetricStore.withLifetimes.value? Signal.vin = none ∧
      (∀ s ∈ before ++ [last], s.LeavesVin) ∧
      v.vinAnswers (before ++ [last]) =
        [failure, .ok [0x20, 0], .ok [0x4A, 0x54, 0x31, 0x20, 0]] ∧
      (v.run (before ++ [last])).store.value? Signal.vin = some (.text "JT1") ∧
      KeepsVin (v.run before) ((v.run before).run [last]) := by
  intro ready failure poller v before last
  have hstore : MetricStore.withLifetimes.value? Signal.vin = none := by decide +kernel
  have hsteps : ∀ s ∈ before ++ [last], s.LeavesVin := by
    simp only [before, last, ready, List.cons_append, List.nil_append, List.forall_mem_cons]
    refine ⟨?_, ?_, ?_, ?_, ?_, ?_, ?_, ?_, ?_, List.forall_mem_nil _⟩ <;>
      exact ⟨by rintro _ ⟨⟩, by rintro ⟨⟩, by rintro _ ⟨⟩⟩
  have hanswers : v.vinAnswers (before ++ [last]) =
      [failure, .ok [0x20, 0], .ok [0x4A, 0x54, 0x31, 0x20, 0]] := by decide +kernel
  have hset : (v.run before).store.value? Signal.vin ≠ none := by decide +kernel
  have hfirst : (([failure, .ok [0x20, 0], .ok [0x4A, 0x54, 0x31, 0x20, 0]] :
      List (Except PollError Payload)).findSome? (answerText? Decode.vin)).map MetricValue.text =
      some (.text "JT1") := by decide +kernel
  -- what is left does not depend on the steps, and must not evaluate the run again
  clear_value before last
  obtain ⟨⟨hvin, -, -⟩, -, hkeeps⟩ := run_vin VehicleConfig.bench poller 0 hstore hsteps
  have hshown := hvin.trans ((congrArg (fun answers =>
    (answers.findSome? (answerText? Decode.vin)).map MetricValue.text) hanswers).trans hfirst)
  exact ⟨hstore, hsteps, hanswers, hshown, hkeeps before [last] [] (by simp) hset⟩

end Vehicle

end VehicleTelemetry
