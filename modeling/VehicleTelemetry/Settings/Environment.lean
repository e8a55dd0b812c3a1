import VehicleTelemetry.Settings.Table

/-!
Settings in environment variables.

A variable counts if its name starts with `ETNGA__` in any case. The rest of the name says which
setting it is, with two underscores before each name of a deeper table. Its text is read as a
boolean, a whole number or a float if it spells one, in that order.
-/

namespace VehicleTelemetry.Environment

/-- How the names of variables that are settings begin. -/
def marker : List Char := "etnga__".toList

/-- A name with a dot for each two underscores. -/
def dotted : List Char → List Char
  | '_' :: '_' :: rest => '.' :: dotted rest
  | c :: rest => c :: dotted rest
  | [] => []

/-- The setting that a variable names, if it names one. -/
def settingName? (name : String) : Option String :=
  let cs := (foldCase name).toList
  if marker.isPrefixOf cs then some (String.ofList (dotted (cs.drop marker.length))) else none

/-- The value that a variable's text spells. -/
def valueOf (text : String) : SettingValue :=
  match String.ofList (text.toList.map Char.toLower) with
  | "true" => .bool true
  | "false" => .bool false
  | _ =>
    match Numeral.integer? text, Numeral.float? text with
    | some value, _ => .int value
    | none, some value => .float value
    | none, none => .text text

/-- Sets what the variables say. -/
def apply (environment : List (String × String)) (table : SettingTable) : SettingTable :=
  environment.foldl
    (fun table (name, text) =>
      match settingName? name with
      | some setting => table.setAt (.ofName setting) (valueOf text)
      | none => table)
    table

end VehicleTelemetry.Environment
