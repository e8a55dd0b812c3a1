import VehicleTelemetry.Text.Items
import VehicleTelemetry.Toml.Moment
import VehicleTelemetry.Toml.Number
import VehicleTelemetry.Toml.Tree

/-!
Reading TOML documents.

A document is a list of lines, each of which is empty, a header, or a key with its value. Arrays may
go over many lines and end in a comma, inline tables may not. Arrays and inline tables may be
nested `nestingLimit` deep.
-/

namespace VehicleTelemetry.Toml

/-! ### Keys -/

/-- The characters of a key without quotes. -/
def isKeyChar (c : Char) : Bool :=
  c.isAlphanum || c == '_' || c == '-'

/-- One name. -/
def readName (cs : List Char) : Option (String × List Char) :=
  match cs with
  | '"' :: rest => readLineString '"' [] (rest.length + 1) rest
  | '\x27' :: rest => readLineString '\x27' [] (rest.length + 1) rest
  | _ =>
    match cs.span isKeyChar with
    | ([], _) => none
    | (name, rest) => some (String.ofList name, rest)

/-- At most `fuel` names with dots between them: all but the last, and the last. -/
def readKeyPath : Nat → List Char → Option ((List String × String) × List Char)
  | 0, _ => none
  | fuel + 1, cs => do
    let (name, rest) ← readName (skipBlank cs)
    match skipBlank rest with
    | '.' :: rest => do
      let ((path, last), rest) ← readKeyPath fuel rest
      some ((name :: path, last), rest)
    | _ => some (([], name), rest)

/-- How many names a key may have. -/
def pathLimit : Nat := 79

/-- A key. -/
def readKey (cs : List Char) : Option ((List String × String) × List Char) :=
  readKeyPath pathLimit cs

/-! ### Values -/

/-- A key, an equals sign and a value. -/
def readAssignment (value : List Char → Option (Value × List Char)) (cs : List Char) :
    Option ((List String × String × Value) × List Char) := do
  let ((path, name), rest) ← readKey cs
  match skipBlank rest with
  | '=' :: rest => do
    let (value, rest) ← value (skipBlank rest)
    some ((path, name, value), rest)
  | _ => none

/-- The members of an inline table up to its brace, at most `fuel` of them, after the members that
are read so far. -/
def readMembers (value : List Char → Option (Value × List Char)) (members : Members) :
    Nat → List Char → Option (Members × List Char)
  | 0, _ => none
  | fuel + 1, cs => do
    let ((path, name, value'), rest) ← readAssignment value cs
    let members ← members.assign path name value'
    match skipBlank rest with
    | ',' :: rest => readMembers value members fuel rest
    | '\x7d' :: rest => some (members, rest)
    | _ => none

/-- How deep arrays and inline tables may be nested. -/
def nestingLimit : Nat := 79

/-- A value in which arrays and inline tables are nested at most `depth` deep. -/
def readValue (depth : Nat) (cs : List Char) : Option (Value × List Char) :=
  match cs with
  | '"' :: rest => (fun (text, rest) => (.string text, rest)) <$> readString '"' rest
  | '\x27' :: rest => (fun (text, rest) => (.string text, rest)) <$> readString '\x27' rest
  | 't' :: 'r' :: 'u' :: 'e' :: rest => some (.bool true, rest)
  | 'f' :: 'a' :: 'l' :: 's' :: 'e' :: rest => some (.bool false, rest)
  | '[' :: rest =>
    match depth with
    | 0 => none
    | depth + 1 => do
      let (items, rest) ← Text.readItems skipFiller (readValue depth) ']' (rest.length + 1) rest
      some (.array items, rest)
  | '\x7b' :: rest =>
    match depth with
    | 0 => none
    | depth + 1 =>
      match skipBlank rest with
      | '\x7d' :: rest => some (.table [], rest)
      | rest => do
        let (members, rest) ← readMembers (readValue depth) [] (rest.length + 1) rest
        some (.table (Node.membersToValues members), rest)
  | cs => if looksLikeMoment cs then readMoment cs else readNumber cs

/-! ### Lines -/

/-- What a line does. -/
inductive Line where
  | blank
  | table (path : List String) (name : String)
  | element (path : List String) (name : String)
  | assignment (path : List String) (name : String) (value : Value)

/-- The line at the front. -/
def readLine (cs : List Char) : Option (Line × List Char) :=
  match skipBlank cs with
  | '[' :: '[' :: rest => do
    let ((path, name), rest) ← readKey rest
    match skipBlank rest with
    | ']' :: ']' :: rest => some (.element path name, ← endLine? rest)
    | _ => none
  | '[' :: rest => do
    let ((path, name), rest) ← readKey rest
    match skipBlank rest with
    | ']' :: rest => some (.table path name, ← endLine? rest)
    | _ => none
  | rest =>
    match endLine? rest with
    | some rest => some (.blank, rest)
    | none => do
      let ((path, name, value), rest) ← readAssignment (readValue nestingLimit) rest
      some (.assignment path name value, ← endLine? rest)

/-- A document as far as it is read: its members, and the path of the open table. -/
structure Draft where
  members : Members := []
  current : List String := []

/-- Takes in a line. -/
def Draft.add (draft : Draft) : Line → Option Draft
  | .blank => some draft
  | .table path name => do
    let members ← draft.members.openTable path name
    some { members, current := path ++ [name] }
  | .element path name => do
    let members ← draft.members.openElement path name
    some { members, current := path ++ [name] }
  | .assignment path name value => do
    let members ← Members.descend false (fun _ members => members.assign path name value)
      draft.current .header draft.members
    some { draft with members }

/-- Takes in at most `fuel` lines. -/
def readLines (draft : Draft) : Nat → List Char → Option Draft
  | _, [] => some draft
  | 0, _ => none
  | fuel + 1, cs =>
    match readLine cs with
    | some (line, rest) =>
      match draft.add line with
      | some draft => readLines draft fuel rest
      | none => none
    | none => none

/-- The characters after a byte order mark, if there is one. -/
def skipMark : List Char → List Char
  | '\uFEFF' :: rest => rest
  | cs => cs

/-- The table of a document. -/
def parse? (text : String) : Option (List (String × Value)) := do
  let cs := skipMark text.toList
  let draft ← readLines {} cs.length cs
  match ← Value.withMoments? (.table (Node.membersToValues draft.members)) with
  | .table members => some members
  | _ => none

end VehicleTelemetry.Toml
