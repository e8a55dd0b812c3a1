import Mathlib.Tactic
import VehicleTelemetry.Proofs.Poll.Script

/-!
The answers of a script are handed out once each and in their order.

A script forgets what it has handed out. A `Ledger` answers as its script does and keeps a record of
that, so that what was prepared can be compared with what was given.

* `accounted_answer`: a request moves the first answer from the queue to the record;
* `Poller.retry_map`: a poller in front of another responder does the same if the answers are, so
  that the record is not seen (`map_run`);
* `accounted_run`: over any calls, the record and the queue together are what was prepared;
* `retry_script` puts this together with what one retry does.
-/

namespace VehicleTelemetry

/-! ### The record of what was handed out -/

/-- A script with the record of the prepared answers that it has handed out. -/
structure Ledger where
  script : Script := {}
  handed : List (Pid × Except PollError Payload) := []

namespace Ledger

/-- Answers as the script does. What the script had in the queue is recorded when it is given as
an answer. -/
def answer (ledger : Ledger) (query : Query) : Except PollError Payload × Ledger :=
  let (answer, script) := ledger.script.answer query
  let dry := (ledger.script.queue query.pid).isEmpty
  (answer,
    { script, handed := if dry then ledger.handed else ledger.handed ++ [(query.pid, answer)] })

/-- Resets as the script does. -/
def reset (ledger : Ledger) : Except PollError Unit × Ledger :=
  let (outcome, script) := ledger.script.reset
  (outcome, { ledger with script })

instance : Responder Ledger := ⟨answer, reset⟩

/-- What was handed out to requests for an identifier, in order. -/
def handedFor (ledger : Ledger) (pid : Pid) : List (Except PollError Payload) :=
  (ledger.handed.filter (·.1 == pid)).map (·.2)

/-- What was prepared for an identifier, by the record and the queue. -/
def accounted (ledger : Ledger) (pid : Pid) : List (Except PollError Payload) :=
  ledger.handedFor pid ++ ledger.script.queue pid

/-- An answer goes from the queue to the record. -/
lemma accounted_answer (ledger : Ledger) (query : Query) (pid : Pid) :
    (ledger.answer query).2.accounted pid = ledger.accounted pid := by
  have hqueue : (ledger.answer query).2.script.queue pid = _ := ledger.script.queue_answer query pid
  have hhanded : (ledger.answer query).2.handed =
      if (ledger.script.queue query.pid).isEmpty then ledger.handed
      else ledger.handed ++ [(query.pid, ledger.script.reply query 0)] := by
    rw [← Script.answer_fst]
    rfl
  rw [accounted, accounted, hqueue, handedFor, hhanded]
  by_cases hpid : pid = query.pid
  · subst hpid
    cases hprepared : ledger.script.queue query.pid with
    | nil => simp [handedFor]
    | cons prepared rest =>
        have hreply : ledger.script.reply query 0 = prepared := by
          rw [Script.reply, hprepared]
          rfl
        simp [handedFor, hreply, List.filter_append]
  · rw [if_neg hpid]
    split_ifs
    · rfl
    · simp [handedFor, List.filter_append, Ne.symm hpid]

lemma accounted_askAll (ledger : Ledger) (query : Query) (pid : Pid) (n : ℕ) :
    (Responder.askAll query n ledger).2.accounted pid = ledger.accounted pid := by
  induction n generalizing ledger with
  | zero => rfl
  | succ n ih => exact (ih (ledger.answer query).2).trans (accounted_answer ledger query pid)

end Ledger

/-! ### Responders that answer alike -/

namespace Poller

variable {ρ τ : Type} [Responder ρ] [Responder τ]

/-- A poller in front of another responder. -/
def map (f : ρ → τ) (poller : Poller ρ) : Poller τ where
  responder := f poller.responder
  queries := poller.queries
  pollStates := poller.pollStates
  resets := poller.resets
  installed := poller.installed

variable {f : ρ → τ}
  (hf : ∀ responder query, Responder.answer (f responder) query =
    ((Responder.answer responder query).1, f (Responder.answer responder query).2))
include hf

lemma ask_map (poller : Poller ρ) (query : Query) :
    ((poller.map f).ask query).value =
      ((poller.ask query).value.1, (poller.ask query).value.2.map f) := by
  have hanswer := hf poller.responder query
  simp only [ask, Logged.value_bind, map, hanswer]
  rfl

/-- A poller does not look behind the answers. -/
lemma retry_map (poller : Poller ρ) (query : Query) (attempts : ℕ) :
    ((poller.map f).retry query attempts).value =
      ((poller.retry query attempts).value.1, (poller.retry query attempts).value.2.map f) := by
  suffices h : ∀ made left, (retryFrom query made left (poller.map f)).value =
      ((retryFrom query made left poller).value.1,
        (retryFrom query made left poller).value.2.map f) from h 0 (attempts - 1)
  intro made left
  induction left generalizing made poller with
  | zero =>
      rw [retryFrom, retryFrom]
      simp only [Logged.value_bind, ask_map hf]
      rcases (poller.ask query).value with ⟨cause | response, after⟩ <;> rfl
  | succ left ih =>
      rw [retryFrom, retryFrom]
      simp only [Logged.value_bind, ask_map hf]
      rcases (poller.ask query).value with ⟨cause | response, after⟩
      · exact ih after (made + 1)
      · rfl

end Poller

/-! ### Runs -/

/-- What is done with a scripted poller. -/
inductive ScriptCall where
  | push (pid : Pid) (answer : Except PollError Payload)
  | ask (query : Query)
  | retry (query : Query) (attempts : ℕ)

namespace ScriptCall

/-- The poller after a call. -/
def perform (poller : ScriptedPoller) : ScriptCall → ScriptedPoller
  | push pid answer => poller.push pid answer
  | ask query => (poller.ask query).value.2
  | retry query attempts => (poller.retry query attempts).value.2

/-- The same with the record. -/
def record (poller : Poller Ledger) : ScriptCall → Poller Ledger
  | push pid answer =>
    { poller with
      responder := { poller.responder with script := poller.responder.script.push pid answer } }
  | ask query => (poller.ask query).value.2
  | retry query attempts => (poller.retry query attempts).value.2

end ScriptCall

/-- A scripted poller with a history. -/
def ScriptedPoller.run (calls : List ScriptCall) : ScriptedPoller :=
  calls.foldl ScriptCall.perform ScriptedPoller.empty

/-- The answers that were prepared for an identifier, in order. -/
def preparedFor (pid : Pid) (calls : List ScriptCall) : List (Except PollError Payload) :=
  calls.filterMap fun
    | .push known answer => if known = pid then some answer else none
    | _ => none

namespace Ledger

/-- The same poller with the record of what it has handed out. -/
def run (calls : List ScriptCall) : Poller Ledger :=
  calls.foldl ScriptCall.record { responder := {} }

/-- The record is not seen. -/
lemma map_record (poller : Poller Ledger) (call : ScriptCall) :
    (call.record poller).map script = call.perform (poller.map script) := by
  have hanswer (ledger : Ledger) (query : Query) :
      Responder.answer ledger.script query =
        ((Responder.answer ledger query).1, (Responder.answer ledger query).2.script) := rfl
  cases call with
  | push pid answer => rfl
  | ask query => exact (congrArg Prod.snd (Poller.ask_map hanswer poller query)).symm
  | retry query attempts =>
      exact (congrArg Prod.snd (Poller.retry_map hanswer poller query attempts)).symm

lemma map_run (calls : List ScriptCall) :
    (run calls).map script = ScriptedPoller.run calls := by
  induction calls using List.reverseRecOn with
  | nil => rfl
  | append_singleton calls call ih =>
      rw [run, ScriptedPoller.run, List.foldl_append, List.foldl_append]
      exact (map_record _ call).trans (congrArg call.perform ih)

lemma accounted_record (poller : Poller Ledger) (call : ScriptCall) (pid : Pid) :
    (call.record poller).responder.accounted pid =
      poller.responder.accounted pid ++ preparedFor pid [call] := by
  cases call with
  | push known answer =>
      have hqueue := poller.responder.script.queue_push known pid answer
      have hprepared : preparedFor pid [.push known answer] =
          if known = pid then [answer] else [] := by
        by_cases h : known = pid <;> simp [preparedFor, h]
      rw [hprepared, accounted, accounted, List.append_assoc, ← hqueue]
      rfl
  | ask query =>
      rw [show preparedFor pid [.ask query] = [] from rfl, List.append_nil]
      exact accounted_answer poller.responder query pid
  | retry query attempts =>
      obtain ⟨answers, hburst, -⟩ := poller.burst_retry query attempts
      have hresponder := congrArg Prod.snd hburst.asked
      rw [show preparedFor pid [.retry query attempts] = [] from rfl, List.append_nil,
        ← accounted_askAll poller.responder query pid answers.length, hresponder]
      rfl

/-- What was prepared is in the record or still in the queue, in its order. -/
lemma accounted_run (calls : List ScriptCall) (pid : Pid) :
    (run calls).responder.accounted pid = preparedFor pid calls := by
  induction calls using List.reverseRecOn with
  | nil => rfl
  | append_singleton calls call ih =>
      rw [run, List.foldl_append, preparedFor, List.filterMap_append]
      exact (accounted_record _ call pid).trans (congrArg (· ++ preparedFor pid [call]) ih)

end Ledger

/-- **A scripted poller answers in the order of its script, and a retry stops at a success.** After
any calls, a request that is retried takes the answers that its identifier's queue and then missing
responses give, up to the first success, or as many as it may make attempts, and one in any case.
It comes to the last of them. The record of requests grows by one for each, as many of the queue's
answers are used up, and those for other identifiers stay as they are. So of the answers that were
prepared for an identifier, those that were handed out are the first ones, each once and in the
order in which they were prepared, and the others are left. -/
theorem retry_script (calls : List ScriptCall) :
    let poller := ScriptedPoller.run calls
    (∀ (query : Query) (attempts : ℕ), ∃ count,
      Retried query attempts count poller (poller.retry query attempts).value.2
        (poller.retry query attempts).value.1) ∧
    (Ledger.run calls).map Ledger.script = poller ∧
    ∀ pid, preparedFor pid calls =
      (Ledger.run calls).responder.handedFor pid ++ poller.responder.queue pid := by
  intro poller
  refine ⟨fun query attempts => retried_retry poller query attempts, Ledger.map_run calls,
    fun pid => ?_⟩
  rw [← Ledger.accounted_run]
  exact congrArg (_ ++ Script.queue · pid) (congrArg Poller.responder (Ledger.map_run calls))

/-- A queue that runs dry in the middle of a retry. -/
example :
    let query := Query.read .plugInControl .chargingControlStatus 1000
    let poller := ScriptedPoller.run
      [.push .vin (.ok [0x4A]), .push .chargingControlStatus (.error (.bus "bus off"))]
    let after := (poller.retry query 3).value
    after.1 = .error (.timeout 0x74D 1000) ∧ after.2.queries = #[query, query, query] ∧
      after.2.responder.queue .vin = [.ok [0x4A]] := by
  decide +kernel

end VehicleTelemetry
