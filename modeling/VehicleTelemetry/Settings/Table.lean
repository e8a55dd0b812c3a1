import VehicleTelemetry.Settings.Value

/-!
Tables of settings.

Names are compared without regard to case. A name at the top may be a path: names with dots between
them lead into tables, a number in brackets leads to an item of an array. What is no table gives way
to one where a path leads into it, and what is no array gives way to an array.

A table that meets a value sets its own members in that value one by one, so that tables are merged
and an empty one changes nothing; every other value replaces what was there.
-/

namespace VehicleTelemetry

/-- The members of a table of settings. -/
abbrev SettingTable := List (String × SettingValue)

/-! ### Names -/

/-- A name with its Latin letters in lower case. The Kelvin sign is one of them. -/
def foldCase (name : String) : String :=
  String.ofList (name.toList.map fun c => if c == '\u212A' then 'k' else c.toLower)

/-- One step on the way to a value. -/
inductive SettingStep where
  | name (name : String)
  /-- The place of an item; places below zero count from the end of the array. -/
  | place (place : Int)
  deriving DecidableEq, Repr

/-- Where a value belongs. -/
abbrev SettingPath := List SettingStep

namespace SettingPath

/-- The characters of a name in a path. -/
def isNameChar (c : Char) : Bool :=
  c.isAlphanum || c == ' ' || c == '_' || c == '-'

/-- The characters after blanks. -/
def skipBlank (cs : List Char) : List Char :=
  cs.dropWhile fun c => c == ' ' || c == '\t'

/-- A number in brackets, from after the first bracket on. -/
def readPlace (cs : List Char) : Option (Int × List Char) :=
  let rest := skipBlank cs
  let (sign, rest) := match rest with
    | '-' :: rest => (['-'], rest)
    | rest => ([], rest)
  let (digits, rest) := rest.span Char.isDigit
  match Numeral.integer? (String.ofList (sign ++ digits)), skipBlank rest with
  | some place, ']' :: rest => some (place, rest)
  | _, _ => none

/-- The rest of a path, at most `fuel` steps long. -/
def readSteps : Nat → List Char → Option SettingPath
  | _, [] => some []
  | 0, _ => none
  | fuel + 1, '.' :: rest =>
    match rest.span isNameChar with
    | ([], _) => none
    | (name, rest) => (readSteps fuel rest).map (.name (String.ofList name) :: ·)
  | fuel + 1, '[' :: rest =>
    match readPlace rest with
    | some (place, rest) => (readSteps fuel rest).map (.place place :: ·)
    | none => none
  | _ + 1, _ => none

/-- The path that a text spells. -/
def parse? (text : String) : Option SettingPath :=
  match text.toList.span isNameChar with
  | ([], _) => none
  | (name, rest) => (readSteps rest.length rest).map (.name (String.ofList name) :: ·)

/-- The path of a name at the top, which is a name as it stands if it spells none. -/
def ofName (name : String) : SettingPath :=
  (parse? name).getD [.name name]

end SettingPath

/-! ### Writing into tables -/

namespace SettingTable

/-- Puts a value in the place of a name. -/
def replace (name : String) (value : SettingValue) : SettingTable → SettingTable
  | [] => [(name, value)]
  | (other, old) :: rest =>
    if other == name then (name, value) :: rest else (other, old) :: replace name value rest

/-- The table of given members, of which the last with a name counts. -/
def ofMembers (members : SettingTable) : SettingTable :=
  members.foldl (fun table (name, value) => replace name value table) []

mutual

/-- Sets a name to a value. -/
def set (name : String) (table : SettingTable) : SettingValue → SettingTable
  | .table members => replace name (merge ((List.lookup name table).getD (.table [])) members) table
  | value => replace name value table

/-- Sets the names of a table in a value. -/
def merge (value : SettingValue) : List (String × SettingValue) → SettingValue
  | [] => value
  | (name, inner) :: rest => merge (.table (set (foldCase name) value.members inner)) rest

end

end SettingTable

namespace SettingValue

/-- Items with as many in front of them that are left out as it takes to reach a place that counts
from their end. -/
def padFront (place : Int) (items : List SettingValue) : List SettingValue :=
  List.replicate (-place - items.length).toNat .null ++ items

/-- Which of a number of items a place means; there are enough of them to count from the end. -/
def position (place : Int) (length : Nat) : Nat :=
  (if place < 0 then length + place else place).toNat

/-- Puts an item in a position of an array, which grows as far as is needed. -/
def putItem (position : Nat) (item : SettingValue) (items : List SettingValue) :
    List SettingValue :=
  items.take position ++ List.replicate (position - items.length) .null
    ++ item :: items.drop (position + 1)

/-- The value after a new one is set where a path leads. -/
def setAt (new : SettingValue) : SettingPath → SettingValue → SettingValue
  | [], _ => new
  | [.name name], old => table (SettingTable.set (foldCase name) old.members new)
  | .name name :: path, old =>
    let name := foldCase name
    let inner := (List.lookup name old.members).getD null
    table (SettingTable.replace name (setAt new path inner) old.members)
  | .place place :: path, old =>
    let items := padFront place old.items
    let position := position place items.length
    array (putItem position (setAt new path (items[position]?.getD null)) items)

end SettingValue

namespace SettingTable

/-- Sets what a path leads to. -/
def setAt (table : SettingTable) (path : SettingPath) (value : SettingValue) : SettingTable :=
  (SettingValue.setAt value path (.table table)).members

/-- Sets all names of another table, which may be paths. -/
def layer (table members : SettingTable) : SettingTable :=
  members.foldl (fun table (name, value) => table.setAt (.ofName name) value) table

end SettingTable

end VehicleTelemetry
