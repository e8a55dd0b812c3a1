import VehicleTelemetry.Ini.Document
import VehicleTelemetry.Json5.Parser
import VehicleTelemetry.Ron.Parser
import VehicleTelemetry.Settings.Table
import VehicleTelemetry.Toml.Document
import VehicleTelemetry.Yaml.Document

/-!
Documents that hold settings, in one of six formats, and the table of settings in each.

A document has to hold a table. Of a name that occurs twice the last value counts.
-/

namespace VehicleTelemetry

/-- The format of a document. -/
inductive DocumentFormat where
  | toml
  | json
  | yaml
  | ini
  | ron
  | json5
  deriving DecidableEq, Repr

namespace DocumentFormat

/-- All formats, in the order in which a document is looked for. -/
def all : List DocumentFormat :=
  [toml, json, yaml, ini, ron, json5]

/-- The extensions of file names that stand for a format. -/
def extensions : DocumentFormat → List String
  | toml => ["toml"]
  | json => ["json"]
  | yaml => ["yaml", "yml"]
  | ini => ["ini"]
  | ron => ["ron"]
  | json5 => ["json5"]

/-- The format that an extension stands for. -/
def ofExtension? (extension : String) : Option DocumentFormat :=
  all.find? fun format => format.extensions.contains extension

end DocumentFormat

namespace SettingValue

/-- A whole number, which becomes a float if it does not fit 64 bits with a sign. -/
def ofInt (value : Int) : SettingValue :=
  if Word.isSigned value then int value else float (Float.ofInt value)

mutual

/-- The value of a setting in a TOML document. -/
def ofToml : Toml.Value → SettingValue
  | .bool value => bool value
  | .integer value => int value
  | .float value => float value
  | .string value | .moment value => text value
  | .array items => array (itemsOfToml items)
  | .table members => table (membersOfToml members)

/-- The items of an array in a TOML document. -/
def itemsOfToml : List Toml.Value → List SettingValue
  | [] => []
  | item :: rest => ofToml item :: itemsOfToml rest

/-- The members of a table in a TOML document. -/
def membersOfToml : List (String × Toml.Value) → SettingTable
  | [] => []
  | (name, value) :: rest => (name, ofToml value) :: membersOfToml rest

end

mutual

/-- The value of a setting in JSON. -/
def ofJson : Json → SettingValue
  | .null => null
  | .bool value => bool value
  | .int value => ofInt value
  | .float value => float value
  | .string value => text value
  | .array items => array (itemsOfJson items)
  | .object members => table (SettingTable.ofMembers (membersOfJson members))

/-- The items of an array in JSON. -/
def itemsOfJson : List Json → List SettingValue
  | [] => []
  | item :: rest => ofJson item :: itemsOfJson rest

/-- The members of an object in JSON. -/
def membersOfJson : List (String × Json) → SettingTable
  | [] => []
  | (name, value) :: rest => (name, ofJson value) :: membersOfJson rest

end

mutual

/-- The value of a setting in a YAML document, unless it has a key that is no name. -/
def ofYaml? : Yaml.Value → Option SettingValue
  | .null => some null
  | .bool value => some (bool value)
  | .int value => some (int value)
  | .float value => some (float value)
  | .text value => some (text value)
  | .list items => (itemsOfYaml? items).map array
  | .map members => (membersOfYaml? members).map (table ∘ SettingTable.ofMembers)

/-- The items of a list in a YAML document. -/
def itemsOfYaml? : List Yaml.Value → Option (List SettingValue)
  | [] => some []
  | item :: rest => do
    let item ← ofYaml? item
    let others ← itemsOfYaml? rest
    some (item :: others)

/-- The members of a map in a YAML document. A whole number is a name as well. -/
def membersOfYaml? : List (Yaml.Value × Yaml.Value) → Option SettingTable
  | [] => some []
  | (key, value) :: rest => do
    let name ← match key with
      | .text name => some name
      | .int number => some (toString number)
      | _ => none
    let value ← ofYaml? value
    let others ← membersOfYaml? rest
    some ((name, value) :: others)

end

mutual

/-- The value of a setting in a RON document, unless it has a key that is no name. -/
def ofRon? : Ron.Value → Option SettingValue
  | .nothing => some null
  | .bool value => some (bool value)
  | .int value => some (int value)
  | .float value => some (float value)
  | .text value => some (text value)
  | .list items => (itemsOfRon? items).map array
  | .map members => (membersOfRon? members).map (table ∘ SettingTable.ofMembers)

/-- The items of a list in a RON document. -/
def itemsOfRon? : List Ron.Value → Option (List SettingValue)
  | [] => some []
  | item :: rest => do
    let item ← ofRon? item
    let others ← itemsOfRon? rest
    some (item :: others)

/-- The members of a map in a RON document. -/
def membersOfRon? : List (Ron.Value × Ron.Value) → Option SettingTable
  | [] => some []
  | (key, value) :: rest => do
    let name ← match key with
      | .text name => some name
      | _ => none
    let value ← ofRon? value
    let others ← membersOfRon? rest
    some ((name, value) :: others)

end

/-- The members of a table, if a value is one. -/
def toTable? : SettingValue → Option SettingTable
  | table members => some members
  | _ => none

end SettingValue

namespace SettingTable

/-- The settings in an INI document, all of them texts. Keys before the first header are settings
themselves, every other section is a table. -/
def ofIni (sections : List Ini.Section) : SettingTable :=
  ofMembers <| sections.flatMap fun part =>
    let entries := part.entries.map fun (key, value) => (key, SettingValue.text value)
    match part.name with
    | none => entries
    | some name => [(name, .table (ofMembers entries))]

/-- The settings in YAML documents, of which there may be one. -/
def ofYaml? : List Yaml.Value → Option SettingTable
  | [] => some []
  | [value] => (SettingValue.ofYaml? value).bind (·.toTable?)
  | _ => none

/-- The settings in a document. -/
def parse? (format : DocumentFormat) (text : String) : Option SettingTable :=
  match format with
  | .toml => (Toml.parse? text).map SettingValue.membersOfToml
  | .json => (Json.parse? text).bind fun value => (SettingValue.ofJson value).toTable?
  | .yaml => (Yaml.parse? text).bind ofYaml?
  | .ini => (Ini.parse? text).map ofIni
  | .ron => do (← SettingValue.ofRon? (← Ron.parse? text)).toTable?
  | .json5 => (Json5.parse? text).bind fun value => (SettingValue.ofJson value).toTable?

end SettingTable

end VehicleTelemetry
