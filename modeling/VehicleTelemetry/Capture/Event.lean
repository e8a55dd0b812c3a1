import VehicleTelemetry.Metric.Text
import VehicleTelemetry.Poll.Pid
import VehicleTelemetry.Poll.Reassembly

/-!
What a capture records, and how a JSON value spells one event.

An event is an object with its `kind` and the fields of that kind, in any order, each at most once;
other members do not matter. It may also be an array of the kind and the fields in their order.
Only the data of a query may be missing or null, which says that nobody answered.
-/

namespace VehicleTelemetry

/-- A captured event with its time in milliseconds. -/
inductive CaptureEvent where
  /-- Activity on the bus. -/
  | frame (time : Nat)
  /-- A part of a response. -/
  | chunk (time : Nat) (chunk : Chunk)
  /-- A metric that was written from outside. -/
  | metric (time : Nat) (name : String) (value : MetricValue)
  /-- The answer to the next request for an identifier; none if there was no answer. -/
  | query (time : Nat) (pid : Pid) (data : Option (List UInt8))
  deriving DecidableEq

namespace CaptureEvent

/-- When the event happened. -/
def time : CaptureEvent → Nat
  | frame time | chunk time _ | metric time _ _ | query time _ _ => time

/-! ### Fields -/

/-- A whole number below a bound. -/
def natOfJson? (bound : Nat) : Json → Option Nat
  | .int value => if 0 ≤ value ∧ value < bound then some value.toNat else none
  | _ => none

/-- A time in milliseconds, of 64 bits. -/
def timeOfJson? : Json → Option Nat := natOfJson? UInt64.size

/-- A truth value. -/
def boolOfJson? : Json → Option Bool
  | .bool value => some value
  | _ => none

/-- A text. -/
def textOfJson? : Json → Option String
  | .string value => some value
  | _ => none

/-- An array of bytes. -/
def bytesOfJson? : Json → Option (List UInt8)
  | .array items => items.mapM fun item => Nat.toUInt8 <$> natOfJson? UInt8.size item
  | _ => none

/-- A data identifier by its name, which may be the one member of an object without content. -/
def pidOfJson? : Json → Option Pid
  | .string name => Pid.ofName? name
  | .object [(name, .null)] => Pid.ofName? name
  | .object [(name, .object [])] => Pid.ofName? name
  | _ => none

/-- The answer to a request. -/
def dataOfJson? : Option Json → Option (Option (List UInt8))
  | none | some .null => some none
  | some data => some <$> bytesOfJson? data

/-- The member of a name, if there is one; nothing if there are several. -/
def member? (members : List (String × Json)) (name : String) : Option (Option Json) :=
  match members.filter (·.1 == name) with
  | [] => some none
  | [(_, value)] => some (some value)
  | _ => none

/-- Items for a number of fields, with nothing for those that are missing at the end. -/
def aligned? : Nat → List Json → Option (List (Option Json))
  | 0, [] => some []
  | 0, _ :: _ => none
  | count + 1, [] => (none :: ·) <$> aligned? count []
  | count + 1, item :: rest => (some item :: ·) <$> aligned? count rest

/-! ### Events -/

/-- The names of a kind's fields, in their order. -/
def fieldNames? : String → Option (List String)
  | "frame" => some ["t_ms"]
  | "chunk" => some ["t_ms", "module", "pid", "first", "data", "remaining"]
  | "metric" => some ["t_ms", "name", "value"]
  | "query" => some ["t_ms", "pid", "data"]
  | _ => none

/-- The event of a kind and the values of its fields. -/
def ofFields? (kind : String) (fields : List (Option Json)) : Option CaptureEvent :=
  match kind, fields with
  | "frame", [some time] => frame <$> timeOfJson? time
  | "chunk", [some time, some sender, some pid, some first, some data, some remaining] => do
    let time ← timeOfJson? time
    let sender ← natOfJson? UInt32.size sender
    let pid ← natOfJson? UInt16.size pid
    let first ← boolOfJson? first
    let bytes ← bytesOfJson? data
    let remaining ← natOfJson? UInt16.size remaining
    some (chunk time {
      sender := sender.toUInt32
      pid := pid.toUInt16
      first, bytes
      remaining := remaining.toUInt16 })
  | "metric", [some time, some name, some value] => do
    let time ← timeOfJson? time
    let name ← textOfJson? name
    let value ← MetricValue.ofJson? value
    some (metric time name value)
  | "query", [some time, some pid, data] => do
    let time ← timeOfJson? time
    let pid ← pidOfJson? pid
    let data ← dataOfJson? data
    some (query time pid data)
  | _, _ => none

/-- The event that a JSON value spells. -/
def ofJson? : Json → Option CaptureEvent
  | .object members => do
    let some (.string kind) ← member? members "kind" | none
    let fields ← (← fieldNames? kind).mapM (member? members)
    ofFields? kind fields
  | .array (.string kind :: items) => do
    let fields ← aligned? (← fieldNames? kind).length items
    ofFields? kind fields
  | _ => none

/-- The event that a line spells. -/
def ofChars? (line : List Char) : Option CaptureEvent :=
  Json.ofChars? line >>= ofJson?

end CaptureEvent

end VehicleTelemetry
