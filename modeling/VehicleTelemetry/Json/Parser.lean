import VehicleTelemetry.Decimal.Binary64
import VehicleTelemetry.Json.Basic
import VehicleTelemetry.Text.Digit

/-!
Reading JSON texts.

Each reader takes the characters that are left and gives what it read with the characters after it,
or nothing if the text is wrong. Arrays and objects may be nested `nestingLimit` deep. A surrogate
escape has to be followed by its other half, a control character inside a string has to be escaped,
and a number too large for a float is refused.
-/

namespace VehicleTelemetry.Json

/-- The white space between tokens. -/
def isBlank (c : Char) : Bool :=
  c == ' ' || c == '\n' || c == '\t' || c == '\r'

/-- The characters after white space. -/
def skipBlank (cs : List Char) : List Char :=
  cs.dropWhile isBlank

/-! ### Numbers -/

/-- The digits at the front, of which there has to be one. -/
def readDigits (cs : List Char) : Option (List Char × List Char) :=
  match cs.span Char.isDigit with
  | ([], _) => none
  | (digits, rest) => some (digits, rest)

/-- The digits before the point: a zero stands alone. -/
def readWhole (cs : List Char) : Option (List Char × List Char) := do
  let (digits, rest) ← readDigits cs
  match digits with
  | '0' :: _ :: _ => none
  | _ => some (digits, rest)

/-- The digits after a point, if there is a point. -/
def readFraction (cs : List Char) : Option (Option (List Char) × List Char) :=
  match cs with
  | '.' :: rest => do
    let (digits, rest) ← readDigits rest
    some (some digits, rest)
  | _ => some (none, cs)

/-- An optional sign. -/
def readSign (cs : List Char) : Bool × List Char :=
  match cs with
  | '-' :: rest => (true, rest)
  | '+' :: rest => (false, rest)
  | _ => (false, cs)

/-- The power of ten after a letter, if there is one. -/
def readExponent (cs : List Char) : Option (Option Int × List Char) :=
  match cs with
  | c :: rest =>
    if c == 'e' || c == 'E' then do
      let (negative, rest) := readSign rest
      let (digits, rest) ← readDigits rest
      let size : Int := Text.digitsValue 10 digits
      some (some (if negative then -size else size), rest)
    else some (none, cs)
  | [] => some (none, cs)

/-- The whole numbers that are kept as they are. -/
def fits (value : Int) : Bool :=
  -9223372036854775808 ≤ value && value < UInt64.size

/-- A float of given sign and magnitude, unless it is too large. -/
def finite? (negative : Bool) (magnitude : Decimal) : Option Json :=
  let bits := magnitude.nearest
  if bits = Binary64.infinityBits then none
  else some (float (Binary64.toFloat negative bits))

/-- The value of a number's parts. A zero with a sign is a float. -/
def numberValue (negative : Bool) (whole : List Char) (fraction : Option (List Char))
    (exponent : Option Int) : Option Json :=
  match fraction, exponent with
  | none, none =>
    let size := Text.digitsValue 10 whole
    let value : Int := if negative then -(size : Int) else size
    if fits value && !(negative && size == 0) then some (int value)
    else finite? negative ⟨size, 0⟩
  | fraction, exponent =>
    let places := fraction.getD []
    finite? negative ⟨Text.digitsValue 10 (whole ++ places), exponent.getD 0 - places.length⟩

/-- A number from its digits on. -/
def readMagnitude (negative : Bool) (cs : List Char) : Option (Json × List Char) := do
  let (whole, rest) ← readWhole cs
  let (fraction, rest) ← readFraction rest
  let (exponent, rest) ← readExponent rest
  let value ← numberValue negative whole fraction exponent
  some (value, rest)

/-- A number. -/
def readNumber (cs : List Char) : Option (Json × List Char) :=
  match cs with
  | '-' :: rest => readMagnitude true rest
  | _ => readMagnitude false cs

/-! ### Strings -/

/-- The character of an escape by number, after its letter: one unit, or two surrogates. -/
def readEscapedUnit (cs : List Char) : Option (Char × List Char) := do
  let (unit, rest) ← Text.readHex 4 cs
  if unit < 0xD800 || 0xE000 ≤ unit then some (Char.ofNat unit, rest)
  else if 0xDC00 ≤ unit then none
  else match rest with
    | '\\' :: 'u' :: rest => do
      let (low, rest) ← Text.readHex 4 rest
      if 0xDC00 ≤ low && low < 0xE000 then
        some (Char.ofNat (0x10000 + (unit - 0xD800) * 0x400 + (low - 0xDC00)), rest)
      else none
    | _ => none

/-- The character of an escape, after its backslash. -/
def readEscape (cs : List Char) : Option (Char × List Char) :=
  match cs with
  | '"' :: rest => some ('"', rest)
  | '\\' :: rest => some ('\\', rest)
  | '/' :: rest => some ('/', rest)
  | 'b' :: rest => some ('\x08', rest)
  | 'f' :: rest => some ('\x0c', rest)
  | 'n' :: rest => some ('\n', rest)
  | 'r' :: rest => some ('\r', rest)
  | 't' :: rest => some ('\t', rest)
  | 'u' :: rest => readEscapedUnit rest
  | _ => none

/-- A string from after its first quote on, at most `fuel` characters long; `read` holds what is
read so far, the last character first. -/
def readCharacters (read : List Char) : Nat → List Char → Option (String × List Char)
  | 0, _ => none
  | _ + 1, [] => none
  | fuel + 1, c :: rest =>
    if c == '"' then some (String.ofList read.reverse, rest)
    else if c == '\\' then
      match readEscape rest with
      | some (escaped, rest) => readCharacters (escaped :: read) fuel rest
      | none => none
    else if c.toNat < 0x20 then none
    else readCharacters (c :: read) fuel rest

/-- A string. -/
def readString (cs : List Char) : Option (String × List Char) :=
  match cs with
  | '"' :: rest => readCharacters [] rest.length rest
  | _ => none

/-! ### Arrays and objects -/

/-- Items with commas between them up to a closing character, at most `fuel` of them. -/
def readItems {α : Type} (item : List Char → Option (α × List Char)) (close : Char) :
    Nat → List Char → Option (List α × List Char)
  | 0, _ => none
  | fuel + 1, cs => do
    let (first, rest) ← item cs
    match skipBlank rest with
    | [] => none
    | c :: rest =>
      if c == close then some ([first], rest)
      else if c == ',' then do
        let (others, rest) ← readItems item close fuel rest
        some (first :: others, rest)
      else none

/-- Any number of items up to a closing character. -/
def readSequence {α : Type} (item : List Char → Option (α × List Char)) (close : Char)
    (cs : List Char) : Option (List α × List Char) :=
  match skipBlank cs with
  | [] => none
  | c :: rest =>
    if c == close then some ([], rest) else readItems item close (c :: rest).length (c :: rest)

/-- A name, a colon and a value. -/
def readMember (value : List Char → Option (Json × List Char)) (cs : List Char) :
    Option ((String × Json) × List Char) := do
  let (name, rest) ← readString (skipBlank cs)
  match skipBlank rest with
  | ':' :: rest => do
    let (value, rest) ← value rest
    some ((name, value), rest)
  | _ => none

/-- A literal word. -/
def readWord (word : List Char) (value : Json) (cs : List Char) : Option (Json × List Char) :=
  if word.isPrefixOf cs then some (value, cs.drop word.length) else none

/-- How deep arrays and objects may be nested. -/
def nestingLimit : Nat := 127

/-- A value in which arrays and objects are nested at most `depth` deep, after white space. -/
def readValue (depth : Nat) (cs : List Char) : Option (Json × List Char) :=
  match skipBlank cs with
  | [] => none
  | 'n' :: rest => readWord "ull".toList null rest
  | 't' :: rest => readWord "rue".toList (bool true) rest
  | 'f' :: rest => readWord "alse".toList (bool false) rest
  | '"' :: rest => do
    let (text, rest) ← readString ('"' :: rest)
    some (string text, rest)
  | '[' :: rest =>
    match depth with
    | 0 => none
    | depth + 1 => do
      let (items, rest) ← readSequence (readValue depth) ']' rest
      some (array items, rest)
  | '\x7b' :: rest =>
    match depth with
    | 0 => none
    | depth + 1 => do
      let (members, rest) ← readSequence (readMember (readValue depth)) '\x7d' rest
      some (object members, rest)
  | cs => readNumber cs

/-- The value of characters that hold one value and white space around it. -/
def ofChars? (cs : List Char) : Option Json := do
  let (value, rest) ← readValue nestingLimit cs
  if (skipBlank rest).isEmpty then some value else none

/-- The value of a text that holds one value and white space around it. -/
def parse? (text : String) : Option Json :=
  ofChars? text.toList

end VehicleTelemetry.Json
