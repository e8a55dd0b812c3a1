import VehicleTelemetry.Log.Logged
import VehicleTelemetry.Payload.Reader
import VehicleTelemetry.Poll.Schedule

/-!
The poller: what the vehicle asks of the bus outside the periodic polls.

A `Responder` is whatever answers requests and resets. The poller in front of it keeps a record of
every request, reset and chosen poll state, so that what the vehicle has asked for can be read off
it whatever the answers were.

`Poller.retry` repeats a request until an answer comes or the attempts are used up; the first
attempt is made in any case. `Script` is a responder with prepared answers, used up in order for
each data identifier; a request without a prepared answer times out, as if the unit slept.
-/

namespace VehicleTelemetry

/-- Something that answers requests. -/
class Responder (ρ : Type) where
  /-- The answer to a request, and what is left after it. -/
  answer : ρ → Query → Except PollError Payload × ρ
  /-- The outcome of a reset of the bus controller, and what is left after it. -/
  reset : ρ → Except PollError Unit × ρ

/-- A responder with the record of what was asked of it. -/
structure Poller (ρ : Type) where
  responder : ρ
  /-- Every request, in order. -/
  queries : Array Query := #[]
  /-- Every poll state that was chosen, in order. -/
  pollStates : Array UInt8 := #[]
  /-- How many resets were asked for. -/
  resets : Nat := 0
  /-- The periodic polls, once they are installed. -/
  installed : Option (List PollEntry) := none
  deriving DecidableEq

namespace Poller

variable {ρ : Type}

/-- Chooses the poll list's column. -/
def choose (poller : Poller ρ) (state : UInt8) : Poller ρ :=
  { poller with pollStates := poller.pollStates.push state }

/-- Installs the periodic polls. -/
def install (poller : Poller ρ) (entries : List PollEntry) : Poller ρ :=
  { poller with installed := some entries }

/-- How many requests were made for an identifier. -/
def queryCount (poller : Poller ρ) (pid : Pid) : Nat :=
  poller.queries.countP (·.pid == pid)

/-- The poll state that was chosen last. -/
def currentState? (poller : Poller ρ) : Option UInt8 :=
  poller.pollStates.back?

variable [Responder ρ]

/-- Makes one request and waits for its answer. -/
def ask (poller : Poller ρ) (query : Query) : Logged (Except PollError Payload × Poller ρ) := do
  Logged.report (.queryIssued query.target query.pid)
  let (answer, responder) := Responder.answer poller.responder query
  return (answer, { poller with responder, queries := poller.queries.push query })

/-- Asks for a reset of the bus controller. -/
def resetBus (poller : Poller ρ) : Except PollError Unit × Poller ρ :=
  let (outcome, responder) := Responder.reset poller.responder
  (outcome, { poller with responder, resets := poller.resets + 1 })

/-- Repeats a request of which `made` attempts have failed, for at most `left + 1` more attempts. -/
def retryFrom (query : Query) (made left : Nat) (poller : Poller ρ) :
    Logged (Except PollError Payload × Poller ρ) := do
  let (answer, poller) ← poller.ask query
  match answer with
  | .ok response =>
    Logged.report (.queryAnswered query.pid (made + 1))
    return (.ok response, poller)
  | .error cause =>
    match left with
    | 0 =>
      Logged.report (.queryFailed query.pid (made + 1) cause)
      return (.error cause, poller)
    | left + 1 =>
      Logged.report (.queryRetried query.pid cause (made + 1) (made + left + 2))
      retryFrom query (made + 1) left poller

/-- Makes a request up to `attempts` times, and at least once, until it is answered. -/
def retry (poller : Poller ρ) (query : Query) (attempts : Nat) :
    Logged (Except PollError Payload × Poller ρ) :=
  retryFrom query 0 (attempts - 1) poller

end Poller

/-- Prepared answers. -/
structure Script where
  /-- The answers that are left, in the order in which they were prepared. -/
  answers : List (Pid × Except PollError Payload) := []
  /-- Why resets fail, if they do. -/
  resetFailure : Option PollError := none

namespace Script

/-- Prepares the answer to a later request for an identifier. -/
def push (script : Script) (pid : Pid) (answer : Except PollError Payload) : Script :=
  { script with answers := script.answers ++ [(pid, answer)] }

/-- The answers that are left for an identifier. -/
def queue (script : Script) (pid : Pid) : List (Except PollError Payload) :=
  (script.answers.filter (·.1 == pid)).map (·.2)

/-- Uses up the first prepared answer for the request's identifier. -/
def answer (script : Script) (query : Query) : Except PollError Payload × Script :=
  match script.answers.find? (·.1 == query.pid) with
  | some (_, answer) =>
    (answer, { script with answers := script.answers.eraseP (·.1 == query.pid) })
  | none => (.error (.timeout query.responder.responseId query.timeout), script)

/-- Resets succeed unless a failure is prepared. -/
def reset (script : Script) : Except PollError Unit × Script :=
  match script.resetFailure with
  | some cause => (.error cause, script)
  | none => (.ok (), script)

instance : Responder Script := ⟨answer, reset⟩

end Script

/-- A poller with a script. -/
abbrev ScriptedPoller := Poller Script

namespace ScriptedPoller

/-- No answers are prepared and nothing was asked. -/
def empty : ScriptedPoller := { responder := {} }

/-- Prepares the answer to a later request for an identifier. -/
def push (poller : ScriptedPoller) (pid : Pid) (answer : Except PollError Payload) :
    ScriptedPoller :=
  { poller with responder := poller.responder.push pid answer }

/-- Sets why resets fail, if they do. -/
def setResetFailure (poller : ScriptedPoller) (cause : Option PollError) : ScriptedPoller :=
  { poller with responder := { poller.responder with resetFailure := cause } }

end ScriptedPoller

end VehicleTelemetry
