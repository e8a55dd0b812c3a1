import VehicleTelemetry.Decimal.Binary64
import VehicleTelemetry.Text.Digit

/-!
The tokens of TOML: blanks, comments, line ends, strings, numbers.

Each reader takes the characters that are left and gives what it read with the characters after it,
or nothing if the text is wrong.
-/

namespace VehicleTelemetry.Toml

/-! ### Blanks, comments and line ends -/

/-- The white space inside a line. -/
def isBlank (c : Char) : Bool :=
  c == ' ' || c == '\t'

/-- The characters that may stand in comments and strings: all but the controls. -/
def isText (c : Char) : Bool :=
  c == '\t' || (0x20 ≤ c.toNat && c.toNat != 0x7F)

/-- The characters after blanks. -/
def skipBlank (cs : List Char) : List Char :=
  cs.dropWhile isBlank

/-- The characters after a comment, if there is one. -/
def skipComment : List Char → List Char
  | '#' :: rest => rest.dropWhile isText
  | cs => cs

/-- The characters after a line end. -/
def newline? : List Char → Option (List Char)
  | '\n' :: rest => some rest
  | '\r' :: '\n' :: rest => some rest
  | _ => none

/-- The characters after the rest of a line, which may hold a comment only. -/
def endLine? (cs : List Char) : Option (List Char) :=
  match skipComment (skipBlank cs) with
  | [] => some []
  | cs => newline? cs

/-- The characters after at most `fuel` lines that hold nothing. -/
def skipLines : Nat → List Char → List Char
  | 0, cs => cs
  | fuel + 1, cs =>
    let rest := skipComment (skipBlank cs)
    match newline? rest with
    | some rest => skipLines fuel rest
    | none => rest

/-- The characters after blanks, comments and line ends. -/
def skipFiller (cs : List Char) : List Char :=
  skipLines (cs.length + 1) cs

/-! ### Strings -/

/-- The character of an escape, after its backslash. -/
def readEscape : List Char → Option (Char × List Char)
  | 'b' :: rest => some ('\x08', rest)
  | 't' :: rest => some ('\t', rest)
  | 'n' :: rest => some ('\n', rest)
  | 'f' :: rest => some ('\x0c', rest)
  | 'r' :: rest => some ('\r', rest)
  | '"' :: rest => some ('"', rest)
  | '\\' :: rest => some ('\\', rest)
  | 'u' :: rest => Text.readCodePoint 4 rest
  | 'U' :: rest => Text.readCodePoint 8 rest
  | _ => none

/-- A string of one line from after its first quote on, at most `fuel` characters long. Only a
string in double quotes has escapes. `read` holds what is read so far, the last character first. -/
def readLineString (quote : Char) (read : List Char) :
    Nat → List Char → Option (String × List Char)
  | 0, _ | _, [] => none
  | fuel + 1, c :: rest =>
    if c == quote then some (String.ofList read.reverse, rest)
    else if c == '\\' && quote == '"' then
      match readEscape rest with
      | some (escaped, rest) => readLineString quote (escaped :: read) fuel rest
      | none => none
    else if isText c then readLineString quote (c :: read) fuel rest
    else none

/-- The characters after at most `fuel` blank lines and the blanks before what follows them. -/
def skipBlankLines : Nat → List Char → List Char
  | 0, cs => cs
  | fuel + 1, cs =>
    let rest := skipBlank cs
    match newline? rest with
    | some rest => skipBlankLines fuel rest
    | none => rest

/-- After a backslash that ends a line, the text goes on at the next visible character. -/
def continuation? (cs : List Char) : Option (List Char) :=
  (newline? (skipBlank cs)).map fun rest => skipBlankLines (rest.length + 1) rest

/-- A string of many lines from after its first three quotes on, at most `fuel` characters long.
Of five quotes at the end, two belong to the text. -/
def readBlockString (quote : Char) (read : List Char) :
    Nat → List Char → Option (String × List Char)
  | 0, _ | _, [] => none
  | fuel + 1, c :: rest =>
    if c == quote then
      let others := (rest.take 4).takeWhile (· == quote)
      if 2 ≤ others.length then
        some (String.ofList (read.reverse ++ others.drop 2), rest.drop others.length)
      else readBlockString quote (c :: read) fuel rest
    else if c == '\\' && quote == '"' then
      match continuation? rest with
      | some rest => readBlockString quote read fuel rest
      | none =>
        match readEscape rest with
        | some (escaped, rest) => readBlockString quote (escaped :: read) fuel rest
        | none => none
    else match newline? (c :: rest) with
      | some rest => readBlockString quote ('\n' :: read) fuel rest
      | none => if isText c then readBlockString quote (c :: read) fuel rest else none

/-- A string with the given quotes, after its first quote. -/
def readString (quote : Char) (cs : List Char) : Option (String × List Char) :=
  match cs with
  | c :: d :: rest =>
    if c == quote && d == quote then
      let body := (newline? rest).getD rest
      readBlockString quote [] (body.length + 1) body
    else readLineString quote [] (cs.length + 1) cs
  | cs => readLineString quote [] (cs.length + 1) cs

/-! ### Numbers -/

/-- The digits at the front, with single underscores between them. -/
def readRun (isDigit : Char → Bool) : List Char → List Char × List Char
  | '_' :: c :: rest =>
    if isDigit c then
      let (digits, rest) := readRun isDigit rest
      (c :: digits, rest)
    else ([], '_' :: c :: rest)
  | c :: rest =>
    if isDigit c then
      let (digits, rest) := readRun isDigit rest
      (c :: digits, rest)
    else ([], c :: rest)
  | [] => ([], [])

/-- A run of digits, of which there has to be one at the start. -/
def readDigits (isDigit : Char → Bool) (cs : List Char) : Option (List Char × List Char) :=
  match cs with
  | c :: _ => if isDigit c then some (readRun isDigit cs) else none
  | [] => none

/-- The digits before the point: a zero stands alone. -/
def readWhole : List Char → Option (List Char × List Char)
  | '0' :: rest => some (['0'], rest)
  | cs => readDigits Char.isDigit cs

/-- Whether there is a minus sign, after an optional sign. -/
def readSign : List Char → Bool × List Char
  | '-' :: rest => (true, rest)
  | '+' :: rest => (false, rest)
  | cs => (false, cs)

/-- The digits after a point, if there is a point. -/
def readFraction : List Char → Option (Option (List Char) × List Char)
  | '.' :: rest => do
    let (digits, rest) ← readDigits Char.isDigit rest
    some (some digits, rest)
  | cs => some (none, cs)

/-- The power of ten after a letter, if there is one. -/
def readExponent : List Char → Option (Option Int × List Char)
  | c :: rest =>
    if c == 'e' || c == 'E' then do
      let (negative, rest) := readSign rest
      let (digits, rest) ← readDigits Char.isDigit rest
      let size : Int := Text.digitsValue 10 digits
      some (some (if negative then -size else size), rest)
    else some (none, c :: rest)
  | [] => some (none, [])

end VehicleTelemetry.Toml
