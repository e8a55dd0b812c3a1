import VehicleTelemetry.CommandLine

/-!
The program: runs the command line on the files, arguments and environment of its process, and
writes what was reported to the standard error stream.
-/

namespace VehicleTelemetry.Console

/-- The content of a file, if it can be read. -/
def readFile (path : String) : IO (Option (List UInt8)) := do
  try
    let bytes ← IO.FS.readBinFile path
    return some bytes.toList
  catch _ => return none

/-- The variables of the environment. -/
def readEnvironment : IO (List (String × String)) := do
  let some bytes ← readFile "/proc/self/environ" | return []
  let some text := String.fromUTF8? ⟨bytes.toArray⟩ | return []
  return (text.splitOn "\x00").filterMap fun entry =>
    match entry.splitOn "=" with
    | name :: value :: rest => some (name, String.intercalate "=" (value :: rest))
    | _ => none

/-- The level of a name, and `info` for a name that is none. -/
def shownLevel (name : String) : Level :=
  (Level.ofName? name.toLower).getD .info

/-- One event as a line, in JSON if wanted. -/
def eventLine (json : Bool) (event : Event) : String :=
  if json then
    (Json.object [("level", .string event.level.title), ("message", .string event.message)]).compact
  else event.level.title ++ " " ++ event.message

end VehicleTelemetry.Console

open VehicleTelemetry Console in
/-- Runs the program. -/
def main (arguments : List String) : IO UInt32 := do
  let outcome ← CommandLine.run readFile arguments (← readEnvironment)
  match outcome with
  | .error failure => IO.eprintln ("Error: " ++ failure.message)
  | .ok report =>
    let limit := (shownLevel report.settings.logLevel).rank
    for event in report.events do
      if event.level.rank ≤ limit then
        IO.eprintln (eventLine report.settings.jsonLogs event)
    IO.sleep report.slept.toUInt32
  IO.print (CommandLine.output outcome)
  return CommandLine.exitCode outcome
