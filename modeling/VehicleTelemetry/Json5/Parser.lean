import VehicleTelemetry.Json.Parser
import VehicleTelemetry.Numeral
import VehicleTelemetry.Text.Blank
import VehicleTelemetry.Text.Items

/-!
Reading JSON5 texts: JSON with comments, names without quotes, single quotes, commas after the last
item, hexadecimal numbers, and more ways to write numbers and escapes.

Each reader takes the characters that are left and gives what it read with the characters after it,
or nothing if the text is wrong. A name without quotes may hold any character beyond ASCII that is
no white space.
-/

namespace VehicleTelemetry.Json5

/-! ### White space and comments -/

/-- Whether a character ends a line. -/
def isLineEnd (c : Char) : Bool :=
  c == '\n' || c == '\r' || c == '\u2028' || c == '\u2029'

/-- White space between tokens. -/
def isBlank (c : Char) : Bool :=
  (Text.isBlank c && c != '\u0085') || c == '\uFEFF'

/-- The characters after the end of a comment between marks. -/
def afterComment? : List Char → Option (List Char)
  | '*' :: '/' :: rest => some rest
  | _ :: rest => afterComment? rest
  | [] => none

/-- The characters after white space and at most `fuel` comments. A comment without an end stays. -/
def skipFiller : Nat → List Char → List Char
  | 0, cs => cs
  | fuel + 1, cs =>
    match cs.dropWhile isBlank with
    | '/' :: '/' :: rest => skipFiller fuel (rest.dropWhile fun c => !isLineEnd c)
    | '/' :: '*' :: rest =>
      match afterComment? rest with
      | some rest => skipFiller fuel rest
      | none => '/' :: '*' :: rest
    | rest => rest

/-- The characters after white space and comments. -/
def skip (cs : List Char) : List Char :=
  skipFiller (cs.length + 1) cs

/-! ### Numbers -/

/-- A float, unless it is too large. -/
def finite? (text : List Char) : Option Json := do
  let value ← Numeral.float? (String.ofList text)
  if value.isFinite then some (.float value) else none

/-- A point and the digits after it, if there is a point. -/
def readPlaces : List Char → List Char × List Char
  | '.' :: rest =>
    let (digits, rest) := rest.span Char.isDigit
    ('.' :: digits, rest)
  | cs => ([], cs)

/-- An exponent, if there is one. -/
def readExponent (cs : List Char) : List Char × List Char :=
  match cs with
  | c :: rest =>
    let (sign, after) := rest.span fun c => c == '-' || c == '+'
    let (digits, after) := after.span Char.isDigit
    if (c == 'e' || c == 'E') && sign.length ≤ 1 && !digits.isEmpty then
      (c :: sign ++ digits, after)
    else ([], cs)
  | [] => ([], [])

/-- A number to base ten, after its sign, of which `sign` is the spelling. One with a point or an
exponent is a float, every other one has to fit 64 bits. -/
def readDecimal (sign cs : List Char) : Option (Json × List Char) :=
  let (whole, rest) := cs.span Char.isDigit
  let (places, rest) := readPlaces rest
  let (exponent, rest) := readExponent rest
  if 1 < whole.length && whole.head? == some '0' || whole.isEmpty && places.length ≤ 1 then none
  else if places.isEmpty && exponent.isEmpty then
    (Numeral.integer? (String.ofList (sign ++ whole))).map fun value => (.int value, rest)
  else (finite? (sign ++ whole ++ places ++ exponent)).map fun value => (value, rest)

/-- A hexadecimal number of at most 32 bits, after its mark. -/
def readHexadecimal (cs : List Char) : Option (Json × List Char) :=
  let (digits, rest) := cs.span (Text.isDigitOf 16)
  let value := Text.digitsValue 16 digits
  if digits.isEmpty || UInt32.size ≤ value then none else some (.int value, rest)

/-- A number. Only one without a sign may be hexadecimal, and a plus sign needs digits. -/
def readNumber (cs : List Char) : Option (Json × List Char) :=
  match cs with
  | '0' :: 'x' :: rest | '0' :: 'X' :: rest => readHexadecimal rest
  | 'I' :: 'n' :: 'f' :: 'i' :: 'n' :: 'i' :: 't' :: 'y' :: rest => some (.float (1.0 / 0.0), rest)
  | '-' :: 'I' :: 'n' :: 'f' :: 'i' :: 'n' :: 'i' :: 't' :: 'y' :: rest =>
    some (.float (-1.0 / 0.0), rest)
  | 'N' :: 'a' :: 'N' :: rest | '-' :: 'N' :: 'a' :: 'N' :: rest => some (.float (0.0 / 0.0), rest)
  | '-' :: rest => readDecimal ['-'] rest
  | '+' :: rest => readDecimal ['+'] rest
  | _ => readDecimal [] cs

/-! ### Strings and names -/

/-- What an escape stands for, after its backslash. A line end stands for nothing, and a character
without a meaning of its own for itself. -/
def readEscape : List Char → Option (List Char × List Char)
  | [] => none
  | 'b' :: rest => some (['\x08'], rest)
  | 'f' :: rest => some (['\x0c'], rest)
  | 'n' :: rest => some (['\n'], rest)
  | 'r' :: rest => some (['\r'], rest)
  | 't' :: rest => some (['\t'], rest)
  | 'v' :: rest => some (['\x0b'], rest)
  | '0' :: rest => some (['\x00'], rest)
  | 'x' :: rest => (fun (c, rest) => ([c], rest)) <$> Text.readCodePoint 2 rest
  | 'u' :: rest => (fun (c, rest) => ([c], rest)) <$> Json.readEscapedUnit rest
  | '\r' :: '\n' :: rest => some ([], rest)
  | c :: rest =>
    if isLineEnd c then some ([], rest)
    else if c.isDigit then none
    else some ([c], rest)

/-- A string from after its first quote on, at most `fuel` characters long; `read` holds what is
read so far, the last character first. -/
def readCharacters (quote : Char) (read : List Char) : Nat → List Char → Option (String × List Char)
  | 0, _ | _, [] => none
  | fuel + 1, c :: rest =>
    if c == quote then some (String.ofList read.reverse, rest)
    else if c == '\\' then
      match readEscape rest with
      | some (escaped, rest) => readCharacters quote (escaped.reverse ++ read) fuel rest
      | none => none
    else if c == '\n' || c == '\r' then none
    else readCharacters quote (c :: read) fuel rest

/-- A string after its first quote. -/
def readString (quote : Char) (cs : List Char) : Option (String × List Char) :=
  readCharacters quote [] cs.length cs

/-- The characters a name without quotes may begin with. -/
def isNameStart (c : Char) : Bool :=
  c.isAlpha || c == '_' || c == '$' || (0x80 ≤ c.toNat && !isBlank c)

/-- The characters of a name without quotes, at most `fuel` of them. -/
def readNameChars (isAllowed : Char → Bool) : Nat → List Char → List Char × List Char
  | 0, cs => ([], cs)
  | _, [] => ([], [])
  | fuel + 1, '\\' :: 'u' :: rest =>
    match Json.readEscapedUnit rest with
    | some (c, after) =>
      let (others, rest) := readNameChars (fun c => isNameStart c || c.isDigit) fuel after
      (c :: others, rest)
    | none => ([], '\\' :: 'u' :: rest)
  | fuel + 1, c :: rest =>
    if isAllowed c then
      let (others, rest) := readNameChars (fun c => isNameStart c || c.isDigit) fuel rest
      (c :: others, rest)
    else ([], c :: rest)

/-- A name, in quotes or without. -/
def readName (cs : List Char) : Option (String × List Char) :=
  match cs with
  | '"' :: rest => readString '"' rest
  | '\x27' :: rest => readString '\x27' rest
  | _ =>
    match readNameChars isNameStart cs.length cs with
    | ([], _) => none
    | (name, rest) => some (String.ofList name, rest)

/-! ### Arrays and objects -/

/-- A name, a colon and a value. -/
def readMember (value : List Char → Option (Json × List Char)) (cs : List Char) :
    Option ((String × Json) × List Char) := do
  let (name, rest) ← readName cs
  match skip rest with
  | ':' :: rest => do
    let (value, rest) ← value rest
    some ((name, value), rest)
  | _ => none

/-- A value after white space; at most `fuel` of them are nested. -/
def readValue : Nat → List Char → Option (Json × List Char)
  | 0, _ => none
  | fuel + 1, cs =>
    match skip cs with
    | 'n' :: 'u' :: 'l' :: 'l' :: rest => some (.null, rest)
    | 't' :: 'r' :: 'u' :: 'e' :: rest => some (.bool true, rest)
    | 'f' :: 'a' :: 'l' :: 's' :: 'e' :: rest => some (.bool false, rest)
    | '"' :: rest => (fun (text, rest) => (.string text, rest)) <$> readString '"' rest
    | '\x27' :: rest => (fun (text, rest) => (.string text, rest)) <$> readString '\x27' rest
    | '[' :: rest => do
      let (items, rest) ← Text.readItems skip (readValue fuel) ']' (rest.length + 1) rest
      some (.array items, rest)
    | '\x7b' :: rest => do
      let (members, rest) ←
        Text.readItems skip (readMember (readValue fuel)) '\x7d' (rest.length + 1) rest
      some (.object members, rest)
    | cs => readNumber cs

/-- The value of a text that holds one value and white space around it. -/
def parse? (text : String) : Option Json := do
  let cs := text.toList
  let (value, rest) ← readValue (cs.length + 1) cs
  if (skip rest).isEmpty then some value else none

end VehicleTelemetry.Json5
