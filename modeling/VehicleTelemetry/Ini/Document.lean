import VehicleTelemetry.Text.Blank
import VehicleTelemetry.Text.Digit

/-!
Reading INI documents: keys with values, under the headers of sections.

A key goes up to an equals sign or a colon, a value up to the end of its line or of its quotes, a
header up to its bracket. A comment has a line to itself, from the first column on. In all texts a
backslash escapes the character after it.

Each reader takes the characters that are left and gives what it read with the characters after it,
or nothing if the text is wrong.
-/

namespace VehicleTelemetry.Ini

/-- A part of a document: what stands under a header, or before the first one. -/
structure Section where
  /-- The name in the header, if there is one. -/
  name : Option String
  /-- Keys and values as they come; a key may occur twice. -/
  entries : List (String × String)
  deriving DecidableEq, Repr

/-! ### Texts -/

/-- What an escape stands for, after its backslash. A line end stands for nothing. -/
def readEscape : List Char → Option (List Char × List Char)
  | [] => none
  | '0' :: rest => some (['\x00'], rest)
  | 'a' :: rest => some (['\x07'], rest)
  | 'b' :: rest => some (['\x08'], rest)
  | 't' :: rest => some (['\t'], rest)
  | 'r' :: rest => some (['\r'], rest)
  | 'n' :: rest => some (['\n'], rest)
  | '\n' :: rest => some ([], rest)
  | 'x' :: rest => (fun (c, rest) => ([c], rest)) <$> Text.readCodePoint 4 rest
  | c :: rest => some ([c], rest)

/-- The characters up to one that ends them, which is left, or up to the end of the text if it may
end them; at most `fuel` characters. `read` holds what is read so far, the last character first. -/
def readUntil (isEnd : Char → Bool) (mayEnd : Bool) (read : List Char) :
    Nat → List Char → Option (List Char × List Char)
  | _, [] => if mayEnd then some (read.reverse, []) else none
  | 0, _ => none
  | fuel + 1, c :: rest =>
    if isEnd c then some (read.reverse, c :: rest)
    else if c == '\\' then
      match readEscape rest with
      | some (escaped, rest) => readUntil isEnd mayEnd (escaped.reverse ++ read) fuel rest
      | none => none
    else readUntil isEnd mayEnd (c :: read) fuel rest

/-- A text that has to end. -/
def readTo (isEnd : Char → Bool) (cs : List Char) : Option (List Char × List Char) :=
  readUntil isEnd false [] cs.length cs

/-- The rest of a line, without the blanks at its ends. -/
def readLine (cs : List Char) : Option (List Char × List Char) :=
  (fun (text, rest) => (Text.trim text, rest)) <$>
    readUntil (fun c => c == '\n' || c == '\r') true [] cs.length cs

/-! ### Values -/

/-- The blanks inside a line. -/
def isInlineBlank (c : Char) : Bool :=
  Text.isBlank c && c != '\n' && c != '\r'

/-- A value, after the sign in front of it. What follows its quotes belongs to it. -/
def readValue (cs : List Char) : Option (String × List Char) := do
  match cs.dropWhile isInlineBlank with
  | c :: rest =>
    if c == '"' || c == '\x27' then
      let (quoted, rest) ← readTo (· == c) rest
      let (others, rest) ← readLine rest.tail
      some (String.ofList (quoted ++ others), rest)
    else
      let (text, rest) ← readLine (c :: rest)
      some (String.ofList text, rest)
  | [] => some ("", [])

/-! ### Documents -/

/-- Adds a key to the last section, which is the first of the list; keys before a header have a
section of their own. -/
def addEntry (entry : String × String) : List Section → List Section
  | [] => [{ name := none, entries := [entry] }]
  | last :: others => { last with entries := last.entries ++ [entry] } :: others

/-- Whether the character after white space is the first of its line. -/
def startsLine (atStart : Bool) (blanks : List Char) : Bool :=
  match blanks.getLast? with
  | none => atStart
  | some c => c == '\n'

/-- The sections of a document, the last one first; at most `fuel` headers, keys and comments.
`atStart` tells whether a line starts here. -/
def readSections (sections : List Section) :
    Nat → Bool → List Char → Option (List Section)
  | fuel, atStart, cs =>
    let atStart := startsLine atStart (cs.takeWhile Text.isBlank)
    match fuel, cs.dropWhile Text.isBlank with
    | _, [] => some sections
    | 0, _ => none
    | fuel + 1, c :: rest =>
      if c == ';' || c == '#' then
        if atStart then
          readSections sections fuel true ((rest.dropWhile (· != '\n')).drop 1)
        else none
      else if c == '[' then
        match readTo (· == ']') rest with
        | some (name, rest) =>
          let name := String.ofList (Text.trim name)
          readSections ({ name := some name, entries := [] } :: sections) fuel false rest.tail
        | none => none
      else if c == '=' || c == ':' then none
      else
        match readTo (fun c => c == '=' || c == ':') (c :: rest) with
        | some (key, rest) =>
          let key := String.ofList (Text.trim key)
          match readValue rest.tail with
          | some (value, rest) =>
            if key.isEmpty then none
            else readSections (addEntry (key, value) sections) fuel false rest
          | none => none
        | none => none

/-- The sections of a document. -/
def parse? (text : String) : Option (List Section) :=
  let cs := text.toList
  List.reverse <$> readSections [] (cs.length + 1) true cs

end VehicleTelemetry.Ini
