import Std.Data.ExtTreeMap
import VehicleTelemetry.Log.Logged
import VehicleTelemetry.Payload.Reader

/-!
Which action decodes which reply.

A table has a handler for each sender, and a handler an action for each data identifier. A handler
is created when its sender is first named and keeps the name it got then; later uses add to it, and
the action that was given last for an identifier counts. Replies that nobody handles are reported
and dropped.
-/

namespace VehicleTelemetry

/-- A complete response as it reaches the table. -/
structure Reply where
  sender : UInt32
  pid : UInt16
  payload : Payload
  /-- When the response was complete, in milliseconds. -/
  time : Nat
  deriving DecidableEq, Repr

/-- What an action has done with its payload. -/
inductive Disposition where
  /-- The values were taken over. -/
  | applied
  /-- The values were decoded, but are not valid now. -/
  | gated (reason : String)
  deriving DecidableEq, Repr

/-- Decodes the payload of a reply that came at a time, and applies it to a target. -/
abbrev DecodeAction (σ : Type) :=
  (time : Nat) → Payload → σ → Logged (σ × Except PayloadError Disposition)

/-- What has become of a reply. -/
inductive ReplyOutcome where
  | applied
  | gated (reason : String)
  | unknownSender (sender : UInt32)
  | unknownPid (sender : UInt32) (pid : UInt16)
  | refused (cause : PayloadError)
  deriving DecidableEq, Repr

namespace ReplyOutcome

/-- Whether no action was found for the reply. -/
def isDropped : ReplyOutcome → Bool
  | unknownSender _ | unknownPid .. => true
  | _ => false

end ReplyOutcome

/-- The actions for one sender's replies. -/
structure ReplyHandler (σ : Type) where
  /-- The sender's name in messages. -/
  name : String
  /-- Whether the sender is known to send replies that nobody asked for. -/
  quiet : Bool := false
  actions : Std.ExtTreeMap UInt16 (DecodeAction σ) := ∅

namespace ReplyHandler

variable {σ : Type}

/-- Sets the action for an identifier. -/
def on (handler : ReplyHandler σ) (pid : UInt16) (action : DecodeAction σ) : ReplyHandler σ :=
  { handler with actions := handler.actions.insert pid action }

/-- Expects replies that nobody asked for. -/
def silence (handler : ReplyHandler σ) : ReplyHandler σ :=
  { handler with quiet := true }

end ReplyHandler

/-- The handlers of all senders. -/
structure ReplyTable (σ : Type) where
  handlers : Std.ExtTreeMap UInt32 (ReplyHandler σ)

namespace ReplyTable

variable {σ : Type}

/-- A table without handlers. -/
def empty : ReplyTable σ := ⟨∅⟩

/-- The handler of a sender, a new one of the given name if it has none. -/
def handler (table : ReplyTable σ) (sender : UInt32) (name : String) : ReplyHandler σ :=
  table.handlers.getD sender { name }

/-- Names a sender and changes its handler. -/
def register (table : ReplyTable σ) (sender : UInt32) (name : String)
    (change : ReplyHandler σ → ReplyHandler σ) : ReplyTable σ :=
  ⟨table.handlers.insert sender (change (table.handler sender name))⟩

/-- Whether there is an action for a sender's identifier. -/
def contains (table : ReplyTable σ) (sender : UInt32) (pid : UInt16) : Bool :=
  match table.handlers[sender]? with
  | some handler => handler.actions.contains pid
  | none => false

/-- The identifiers that have an action, with their sender. -/
def pairs (table : ReplyTable σ) : List (UInt32 × UInt16) :=
  table.handlers.toList.flatMap fun (sender, handler) =>
    handler.actions.keys.map fun pid => (sender, pid)

/-- How many pairs of sender and identifier have an action. -/
def size (table : ReplyTable σ) : Nat :=
  table.pairs.length

/-- Whether there is no action at all. -/
def isEmpty (table : ReplyTable σ) : Bool :=
  table.size == 0

/-- Applies the action for a reply to a target. -/
def dispatch (table : ReplyTable σ) (reply : Reply) (target : σ) : Logged (σ × ReplyOutcome) := do
  match table.handlers[reply.sender]? with
  | none =>
    Logged.report (.unknownSender reply.sender)
    return (target, .unknownSender reply.sender)
  | some handler =>
    match handler.actions[reply.pid]? with
    | none =>
      Logged.report (.unsupportedPid handler.quiet reply.pid handler.name)
      return (target, .unknownPid reply.sender reply.pid)
    | some action =>
      let (target, result) ← action reply.time reply.payload target
      match result with
      | .ok .applied => return (target, .applied)
      | .ok (.gated reason) =>
        Logged.report (.replyGated reply.pid handler.name reason)
        return (target, .gated reason)
      | .error cause =>
        Logged.report (.replyRefused reply.pid handler.name cause)
        return (target, .refused cause)

end ReplyTable

end VehicleTelemetry
