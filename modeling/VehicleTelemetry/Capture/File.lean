import VehicleTelemetry.Capture.Event
import VehicleTelemetry.Text.Blank

/-!
Reading a capture: one event a line.

Lines are numbered from one. Blank lines and lines that start with `#` count, but hold no event. The
first line that cannot be read decides the error; otherwise the events come in the order of their
times, and those of one time in the order of their lines.
-/

namespace VehicleTelemetry

/-- Why a capture cannot be read. -/
inductive CaptureError where
  /-- The file is not there, or a line is no text. -/
  | unreadable
  /-- A line is no event. -/
  | badLine (number : Nat)
  deriving DecidableEq, Repr

namespace Capture

/-- Drops the carriage return before a newline; the last byte comes first. -/
def dropReturn : List UInt8 → List UInt8
  | 0x0D :: line => line
  | line => line

/-- The lines of bytes, each ended by a newline but perhaps the last; `line` holds the bytes of the
current line so far, the last byte first. -/
def linesFrom (line : List UInt8) : List UInt8 → List (List UInt8)
  | [] => if line.isEmpty then [] else [line.reverse]
  | byte :: rest =>
    if byte = 0x0A then (dropReturn line).reverse :: linesFrom [] rest
    else linesFrom (byte :: line) rest

/-- The lines of a file. -/
def lines (bytes : List UInt8) : List (List UInt8) :=
  linesFrom [] bytes

/-- The characters that bytes encode. -/
def characters? (bytes : List UInt8) : Option (List Char) :=
  String.toList <$> String.fromUTF8? ⟨bytes.toArray⟩

/-- Whether a trimmed line holds no event. -/
def isIdle : List Char → Bool
  | [] => true
  | c :: _ => c == '#'

/-- The event of a line with its number, if it holds one. -/
def readLine (line : List UInt8 × Nat) : Except CaptureError (Option CaptureEvent) :=
  match characters? line.1 with
  | none => .error .unreadable
  | some text =>
    let text := Text.trim text
    if isIdle text then .ok none
    else match CaptureEvent.ofChars? text with
      | some event => .ok (some event)
      | none => .error (.badLine line.2)

/-- The events of a file, in the order of their times. -/
def parse (bytes : List UInt8) : Except CaptureError (List CaptureEvent) := do
  let events ← ((lines bytes).zipIdx 1).mapM readLine
  return (events.filterMap id).mergeSort fun a b => a.time ≤ b.time

/-- The events of a file that may not be there. -/
def load (file : Option (List UInt8)) : Except CaptureError (List CaptureEvent) :=
  match file with
  | none => .error .unreadable
  | some bytes => parse bytes

end Capture

end VehicleTelemetry
