import VehicleTelemetry.Numeral
import VehicleTelemetry.Ron.Value
import VehicleTelemetry.Text.Items

/-!
Reading RON documents: structures with named fields, tuples, lists, maps, options, numbers, texts.

Each reader takes the characters that are left and gives what it read with the characters after it,
or nothing if the text is wrong.
-/

namespace VehicleTelemetry.Ron

/-! ### White space and comments -/

/-- White space between tokens. -/
def isBlank (c : Char) : Bool :=
  c == ' ' || c == '\n' || c == '\t' || c == '\r'

/-- The characters after the end of a comment between marks, which may hold other ones: `depth` of
them are open. -/
def afterComment? : Nat → List Char → Option (List Char)
  | 0, cs => some cs
  | depth + 1, '*' :: '/' :: rest => afterComment? depth rest
  | depth + 1, '/' :: '*' :: rest => afterComment? (depth + 2) rest
  | depth + 1, _ :: rest => afterComment? (depth + 1) rest
  | _ + 1, [] => none

/-- The characters after white space and at most `fuel` comments. A comment without an end stays. -/
def skipFiller : Nat → List Char → List Char
  | 0, cs => cs
  | fuel + 1, cs =>
    match cs.dropWhile isBlank with
    | '/' :: '/' :: rest => skipFiller fuel (rest.dropWhile (· != '\n'))
    | '/' :: '*' :: rest =>
      match afterComment? 1 rest with
      | some rest => skipFiller fuel rest
      | none => '/' :: '*' :: rest
    | rest => rest

/-- The characters after white space and comments. -/
def skip (cs : List Char) : List Char :=
  skipFiller (cs.length + 1) cs

/-! ### Names -/

/-- The characters a name may begin with. -/
def isNameStart (c : Char) : Bool :=
  c.isAlpha || c == '_'

/-- The characters of a name. -/
def isNameChar (c : Char) : Bool :=
  c.isAlphanum || c == '_'

/-- The characters of a name after the mark of a raw one. -/
def isRawNameChar (c : Char) : Bool :=
  isNameChar c || c == '.' || c == '+' || c == '-'

/-- A name. -/
def readName (cs : List Char) : Option (String × List Char) :=
  match cs with
  | 'r' :: '"' :: _ | 'r' :: '#' :: '"' :: _ | 'r' :: '#' :: '#' :: _ => none
  | 'r' :: '#' :: rest =>
    match rest.span isRawNameChar with
    | ([], _) => none
    | (name, rest) => some (String.ofList name, rest)
  | c :: rest =>
    if isNameStart c then
      let (name, rest) := rest.span isNameChar
      some (String.ofList (c :: name), rest)
    else none
  | [] => none

/-! ### Numbers -/

/-- The base of a whole number by its mark, and its digits. -/
def splitBase : List Char → Nat × List Char
  | '0' :: 'x' :: rest => (16, rest)
  | '0' :: 'o' :: rest => (8, rest)
  | '0' :: 'b' :: rest => (2, rest)
  | cs => (10, cs)

/-- A whole number after its sign; what is beyond 64 bits is none. -/
def readInteger (negative : Bool) (signed : Bool) (cs : List Char) : Option (Value × List Char) :=
  let (base, rest) := splitBase cs
  let (digits, rest) := rest.span fun c => Text.isDigitOf 16 c || c == '_'
  let counted := digits.filter (· != '_')
  let size := Text.digitsValue base counted
  let value : Int := if negative then -(size : Int) else size
  if digits.isEmpty || digits.head? == some '_' || !counted.all (Text.isDigitOf base) then none
  else if Word.isSigned value then some (.int value, rest)
  else if !signed && size < UInt64.size then some (.float (Float.ofNat size), rest)
  else none

/-- The characters of a float. -/
def isFloatChar (c : Char) : Bool :=
  c.isDigit || c == 'e' || c == 'E' || c == '.' || c == '+' || c == '-'

/-- A float, with its sign. -/
def readFloat (cs : List Char) : Option (Value × List Char) :=
  let (spelling, rest) := cs.span isFloatChar
  (Numeral.float? (String.ofList spelling)).map fun value => (.float value, rest)

/-- Whether the characters of a float reach further than those of a whole number. -/
def looksLikeFloat (cs : List Char) : Bool :=
  (cs.takeWhile fun c => Text.isDigitOf 16 c || c == '_').length
    < (cs.takeWhile fun c => isFloatChar c || c == '_').length

/-- The words for floats that are no numbers. -/
def floatWord? : String → Option Float
  | "inf" => some (1.0 / 0.0)
  | "NaN" => some (0.0 / 0.0)
  | _ => none

/-- A number. -/
def readNumber (cs : List Char) : Option (Value × List Char) :=
  let (sign, rest) := cs.span fun c => c == '-' || c == '+'
  match sign, readName rest with
  | [c], some (word, rest) =>
    (floatWord? word).map fun value => (.float (if c == '-' then -value else value), rest)
  | [_], none | [], none =>
    if looksLikeFloat rest then readFloat cs
    else readInteger (sign == ['-']) (!sign.isEmpty) rest <|> readFloat cs
  | _, _ => none

/-! ### Texts -/

/-- The character of an escape, after its backslash. -/
def readEscape : List Char → Option (Char × List Char)
  | '\x27' :: rest => some ('\x27', rest)
  | '"' :: rest => some ('"', rest)
  | '\\' :: rest => some ('\\', rest)
  | 'n' :: rest => some ('\n', rest)
  | 'r' :: rest => some ('\r', rest)
  | 't' :: rest => some ('\t', rest)
  | '0' :: rest => some ('\x00', rest)
  | 'x' :: rest => Text.readCodePoint 2 rest
  | 'u' :: '\x7b' :: rest =>
    let digits := rest.takeWhile (Text.isDigitOf 16)
    match rest.drop digits.length with
    | '\x7d' :: after =>
      if digits.length ≤ 6 then
        (fun (c, _) => (c, after)) <$> Text.readCodePoint digits.length digits
      else none
    | _ => none
  | _ => none

/-- A text from after its first quote on, at most `fuel` characters long; `read` holds what is read
so far, the last character first. -/
def readCharacters (read : List Char) : Nat → List Char → Option (String × List Char)
  | 0, _ | _, [] => none
  | fuel + 1, c :: rest =>
    if c == '"' then some (String.ofList read.reverse, rest)
    else if c == '\\' then
      match readEscape rest with
      | some (escaped, rest) => readCharacters (escaped :: read) fuel rest
      | none => none
    else readCharacters (c :: read) fuel rest

/-- A text without escapes up to the mark that ends it. -/
def readRaw (mark : List Char) (read : List Char) : List Char → Option (String × List Char)
  | [] => none
  | c :: rest =>
    if mark.isPrefixOf (c :: rest) then
      some (String.ofList read.reverse, (c :: rest).drop mark.length)
    else readRaw mark (c :: read) rest

/-- A text, raw or not. -/
def readText (cs : List Char) : Option (String × List Char) :=
  match cs with
  | '"' :: rest => readCharacters [] rest.length rest
  | 'r' :: rest =>
    let hashes := rest.takeWhile (· == '#')
    match rest.drop hashes.length with
    | '"' :: rest => readRaw ('"' :: hashes) [] rest
    | _ => none
  | _ => none

/-- A single character, after its first quote. -/
def readCharacter : List Char → Option (String × List Char)
  | '\\' :: rest => do
    let (c, rest) ← readEscape rest
    match rest with
    | '\x27' :: rest => some (String.singleton c, rest)
    | _ => none
  | c :: '\x27' :: rest => some (String.singleton c, rest)
  | _ => none

/-! ### Lists, maps and structures -/

/-- A key, a colon and a value. -/
def readMember (key value : List Char → Option (Value × List Char)) (cs : List Char) :
    Option ((Value × Value) × List Char) := do
  let (key, rest) ← key cs
  match skip rest with
  | ':' :: rest => do
    let (value, rest) ← value rest
    some ((key, value), rest)
  | _ => none

/-- Whether a structure and not a tuple follows a bracket. -/
def hasFields (cs : List Char) : Bool :=
  match readName (skip cs) with
  | some (_, rest) => (skip rest).head? == some ':'
  | none => false

/-- What stands in brackets: a structure or a tuple. -/
def readFields (value : List Char → Option (Value × List Char)) (cs : List Char) :
    Option (Value × List Char) :=
  let name cs := (fun (name, rest) => (Value.text name, rest)) <$> readName cs
  if hasFields cs then
    (fun (members, rest) => (.map members, rest)) <$>
      Text.readItems skip (readMember name value) ')' (cs.length + 1) cs
  else
    (fun (items, rest) => (.list items, rest)) <$> Text.readItems skip value ')' (cs.length + 1) cs

/-- The value of an option, after its name. -/
def readSome (value : List Char → Option (Value × List Char)) (cs : List Char) :
    Option (Value × List Char) :=
  match skip cs with
  | '(' :: rest => do
    let (value, rest) ← value rest
    let rest := match skip rest with
      | ',' :: rest => skip rest
      | rest => rest
    match rest with
    | ')' :: rest => some (value, rest)
    | _ => none
  | _ => none

/-- What a name stands for, with what follows it. -/
def readNamed (value : List Char → Option (Value × List Char)) (name : String) (cs : List Char) :
    Option (Value × List Char) :=
  match name with
  | "true" => some (.bool true, cs)
  | "false" => some (.bool false, cs)
  | "Some" => readSome value cs
  | "None" => some (.nothing, cs)
  | "inf" | "NaN" => (floatWord? name).map fun value => (.float value, cs)
  | _ =>
    match skip cs with
    | '(' :: rest => readFields value rest
    | rest => some (.nothing, rest)

/-- How deep values may be nested. -/
def nestingLimit : Nat := 128

/-- A value after white space, in which values are nested at most `depth` deep. -/
def readValue : Nat → List Char → Option (Value × List Char)
  | 0, _ => none
  | depth + 1, cs =>
    let cs := skip cs
    match readName cs with
    | some (name, rest) => readNamed (readValue depth) name rest
    | none =>
      match cs with
      | '(' :: ')' :: rest => some (.nothing, rest)
      | '(' :: rest => readFields (readValue depth) rest
      | '[' :: rest =>
        (fun (items, rest) => (.list items, rest)) <$>
          Text.readItems skip (readValue depth) ']' (rest.length + 1) rest
      | '\x7b' :: rest =>
        (fun (members, rest) => (.map members, rest)) <$>
          Text.readItems skip (readMember (readValue depth) (readValue depth)) '\x7d'
            (rest.length + 1) rest
      | '\x27' :: rest => (fun (text, rest) => (.text text, rest)) <$> readCharacter rest
      | '"' :: _ | 'r' :: _ => (fun (text, rest) => (.text text, rest)) <$> readText cs
      | _ => readNumber cs

/-! ### Documents -/

/-- The extensions that a document may ask for. -/
def extensions : List String :=
  ["unwrap_newtypes", "implicit_some", "unwrap_variant_newtypes"]

/-- The characters after the extensions that a document asks for in front, with at most `fuel` marks
for them. -/
def skipExtensions : Nat → List Char → Option (List Char)
  | 0, _ => none
  | fuel + 1, cs =>
    match skip cs with
    | '#' :: '!' :: rest =>
      match skip rest with
      | '[' :: rest => do
        let ("enable", rest) ← readName (skip rest) | none
        let '(' :: rest := skip rest | none
        let (names, rest) ← Text.readItems skip readName ')' (rest.length + 1) rest
        match skip rest with
        | ']' :: rest =>
          if names.all (extensions.contains ·) then skipExtensions fuel rest else none
        | _ => none
      | _ => none
    | rest => some rest

/-- The value of a document. -/
def parse? (text : String) : Option Value := do
  let cs := text.toList
  let cs ← skipExtensions (cs.length + 1) cs
  let (value, rest) ← readValue nestingLimit cs
  if (skip rest).isEmpty then some value else none

end VehicleTelemetry.Ron
