import Mathlib.Tactic
import VehicleTelemetry.Proofs.Recorder.Effects
import VehicleTelemetry.Vehicle.Basic

/-!
The vehicle's own requests, apart from what they report.

* `exists_ask`, `exists_retry`: however often a request is repeated, only the
  responder and the list of requests change in the poller;
* `Vehicle.answered` is what all requests do with their answer: a text that is
  decoded from it (`answerText?`) becomes a metric, and anything else is dropped.
-/

namespace VehicleTelemetry

variable {ρ : Type} [Responder ρ]

/-! ### The poller's record -/

namespace Poller

lemma exists_ask (poller : Poller ρ) (query : Query) :
    ∃ responder queries, (poller.ask query).value.2 = { poller with responder, queries } :=
  ⟨_, _, rfl⟩

lemma exists_retryFrom (query : Query) (made left : Nat) (poller : Poller ρ) :
    ∃ responder queries,
      (retryFrom query made left poller).value.2 = { poller with responder, queries } := by
  induction left generalizing made poller with
  | zero =>
      rw [retryFrom]
      simp only [Logged.value_bind]
      rcases (poller.ask query).value.1 with cause | response <;>
        exact poller.exists_ask query
  | succ left ih =>
      obtain ⟨responder, queries, hask⟩ := poller.exists_ask query
      rw [retryFrom]
      simp only [Logged.value_bind]
      rcases (poller.ask query).value.1 with cause | response
      · obtain ⟨responder', queries', hretry⟩ := ih (made + 1) (poller.ask query).value.2
        refine ⟨responder', queries', ?_⟩
        rw [hask] at hretry ⊢
        exact hretry
      · exact ⟨responder, queries, hask⟩

/-- Repeating a request changes nothing but the responder and the requests. -/
lemma exists_retry (poller : Poller ρ) (query : Query) (attempts : Nat) :
    ∃ responder queries,
      (poller.retry query attempts).value.2 = { poller with responder, queries } :=
  exists_retryFrom query 0 (attempts - 1) poller

end Poller

/-! ### Answers -/

/-- A metric's entry once a text has been written, if there is one. -/
def MetricEntry.writeText? (entry : MetricEntry) (now : Nat) : Option String → MetricEntry
  | none => entry
  | some text => entry.write now (.text text)

/-- The text that is decoded from an answer. -/
def answerText? (decode : Payload → Except PayloadError String)
    (answer : Except PollError Payload) : Option String :=
  answer.toOption.bind fun response => (decode response).toOption

/-- What is decoded from an answer is decoded from a response. -/
lemma exists_of_answerText?_eq_some {decode : Payload → Except PayloadError String}
    {answer : Except PollError Payload} {text : String}
    (h : answerText? decode answer = some text) :
    ∃ response, answer = .ok response ∧ decode response = .ok text := by
  rcases answer with cause | response
  · cases h
  · refine ⟨response, rfl, ?_⟩
    rw [answerText?, Except.toOption, Option.bind_some] at h
    cases hdecode : decode response with
    | error cause =>
        rw [hdecode] at h
        cases h
    | ok found =>
        rw [hdecode] at h
        exact congrArg _ (Option.some.inj h)

namespace Vehicle

/-- The recorder once an answer has come: a text that is decoded from it is
written to a metric. -/
def recordAnswer (recorder : Recorder) (now : Nat) (name : String)
    (decode : Payload → Except PayloadError String) (answer : Except PollError Payload) :
    Recorder :=
  match answer with
  | .error _ => recorder
  | .ok response =>
    match decode response with
    | .error _ => recorder
    | .ok text => recorder.put now name (.text text)

/-- The vehicle once a request has been answered. -/
def answered (v : Vehicle ρ) (now : Nat) (name : String)
    (decode : Payload → Except PayloadError String)
    (answer : Except PollError Payload × Poller ρ) : Vehicle ρ :=
  { v with poller := answer.2, recorder := recordAnswer v.recorder now name decode answer.1 }

variable (v : Vehicle ρ) (now : Nat)

lemma value_requestVin :
    (v.requestVin now).value =
      v.answered now Signal.vin Decode.vin (v.poller.ask v.vinQuery).value := by
  simp only [requestVin, Logged.value_bind, answered, recordAnswer]
  rcases (v.poller.ask v.vinQuery).value with ⟨cause | response, poller⟩
  · rfl
  · simp only []
    cases Decode.vin response <;> rfl

lemma value_requestChargeMode :
    (v.requestChargeMode now).value =
      v.answered now Signal.chargeMode
        (fun response => ChargeMode.text <$> Decode.chargeMode response)
        (v.poller.retry v.chargeModeQuery v.config.queryAttempts).value := by
  simp only [requestChargeMode, Logged.value_bind, answered, recordAnswer]
  rcases (v.poller.retry v.chargeModeQuery v.config.queryAttempts).value with
    ⟨cause | response, poller⟩
  · rfl
  · simp only []
    cases Decode.chargeMode response <;> rfl

lemma value_requestChargeType :
    (v.requestChargeType now).value =
      v.answered now Signal.chargeType
        (fun response => ChargeType.text <$> Decode.chargeType response)
        (v.poller.retry v.chargeTypeQuery v.config.queryAttempts).value := by
  simp only [requestChargeType, Logged.value_bind, answered, recordAnswer]
  rcases (v.poller.retry v.chargeTypeQuery v.config.queryAttempts).value with
    ⟨cause | response, poller⟩
  · rfl
  · simp only []
    cases Decode.chargeType response <;> rfl

lemma value_slowTick :
    (v.slowTick now).value =
      if v.recorder.vin.isEmpty && v.state == .ready then (v.requestVin now).value else v := by
  simp [slowTick]

/-- An answer changes at most its own metric, and no energy. -/
lemma recordAnswer_frame (recorder : Recorder) (name : String)
    (decode : Payload → Except PayloadError String) (answer : Except PollError Payload) :
    (recordAnswer recorder now name decode answer).meter = recorder.meter ∧
      MetricStore.ChangesOnly [name] recorder.store
        (recordAnswer recorder now name decode answer).store := by
  rcases answer with cause | response
  · exact ⟨rfl, .refl _ _⟩
  · rw [recordAnswer]
    cases decode response with
    | error cause => exact ⟨rfl, .refl _ _⟩
    | ok text => exact ⟨rfl, .set (by simp) _ _ _⟩

/-- The text that is decoded from an answer, if there is one, is what the metric shows. -/
lemma entry_recordAnswer (recorder : Recorder) (name : String)
    (decode : Payload → Except PayloadError String) (answer : Except PollError Payload) :
    (recordAnswer recorder now name decode answer).store.entry name =
      (recorder.store.entry name).writeText? now (answerText? decode answer) := by
  rcases answer with cause | response
  · rfl
  · simp only [recordAnswer, answerText?, Except.toOption, Option.bind_some]
    cases decode response with
    | error cause => rfl
    | ok text => exact MetricStore.entry_set_self _ _ _ _

/-- An answer from which no text is decoded is dropped. -/
lemma recordAnswer_of_none (recorder : Recorder) (name : String)
    {decode : Payload → Except PayloadError String} {answer : Except PollError Payload}
    (h : answerText? decode answer = none) :
    recordAnswer recorder now name decode answer = recorder := by
  rcases answer with cause | response
  · rfl
  · simp only [answerText?, Except.toOption, Option.bind_some] at h
    rw [recordAnswer]
    cases hdecode : decode response with
    | error cause => rfl
    | ok text => simp [hdecode] at h

end Vehicle

end VehicleTelemetry
