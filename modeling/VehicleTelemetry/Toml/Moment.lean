import VehicleTelemetry.Toml.Lexical
import VehicleTelemetry.Toml.Value

/-!
Dates and times. They are checked and kept in their normal spelling: a `T` between date and time, a
`Z` for the offset of that name, and a fraction of a second of at most nine digits without trailing
zeros.
-/

namespace VehicleTelemetry.Toml

/-- A number of exactly `count` digits within bounds. -/
def readFixed (count least greatest : Nat) (cs : List Char) : Option (Nat × List Char) :=
  let digits := cs.take count
  let value := Text.digitsValue 10 digits
  if digits.length = count ∧ digits.all Char.isDigit ∧ least ≤ value ∧ value ≤ greatest then
    some (value, cs.drop count)
  else none

/-- A number with at least `width` digits. -/
def padded (width value : Nat) : String :=
  let digits := Nat.toDigits 10 value
  String.ofList (List.replicate (width - digits.length) '0' ++ digits)

/-- How many days a month has. -/
def daysInMonth (year month : Nat) : Nat :=
  if month = 2 then
    if (year % 4 = 0 ∧ year % 100 ≠ 0) ∨ year % 400 = 0 then 29 else 28
  else if month = 4 ∨ month = 6 ∨ month = 9 ∨ month = 11 then 30
  else 31

/-- One expected character. -/
def readChar (expected : Char) (cs : List Char) : Option (List Char) :=
  match cs with
  | c :: rest => if c == expected then some rest else none
  | [] => none

/-- Year, month and day. -/
def readDate (cs : List Char) : Option (String × List Char) := do
  let (year, rest) ← readFixed 4 0 9999 cs
  let (month, rest) ← readFixed 2 1 12 (← readChar '-' rest)
  let (day, rest) ← readFixed 2 1 (daysInMonth year month) (← readChar '-' rest)
  some (padded 4 year ++ "-" ++ padded 2 month ++ "-" ++ padded 2 day, rest)

/-- The digits of a fraction as far as they count. -/
def fractionText (digits : List Char) : String :=
  match (((digits.take 9).reverse.dropWhile (· == '0')).reverse) with
  | [] => ""
  | kept => "." ++ String.ofList kept

/-- Hour, minute and second; the hour is at most `lastHour`. -/
def readTime (lastHour : Nat) (cs : List Char) : Option (String × List Char) := do
  let (hour, rest) ← readFixed 2 0 lastHour cs
  let (minute, rest) ← readFixed 2 0 59 (← readChar ':' rest)
  let (second, rest) ← readFixed 2 0 60 (← readChar ':' rest)
  let text := padded 2 hour ++ ":" ++ padded 2 minute ++ ":" ++ padded 2 second
  match rest with
  | '.' :: c :: _ =>
    if c.isDigit then
      let digits := rest.tail.takeWhile Char.isDigit
      some (text ++ fractionText digits, rest.tail.dropWhile Char.isDigit)
    else none
  | _ => some (text, rest)

/-- The minutes of a day. -/
def dayMinutes : Nat := 24 * 60

/-- The offset from universal time, if there is one; it is at most a day, in hours up to `lastHour`
and minutes up to `lastMinute`. -/
def readOffset (lastHour lastMinute : Nat) (cs : List Char) : Option (String × List Char) :=
  match cs with
  | c :: rest =>
    if c == 'Z' || c == 'z' then some ("Z", rest)
    else if c == '+' || c == '-' then do
      let (hour, rest) ← readFixed 2 0 lastHour rest
      let (minute, rest) ← readFixed 2 0 lastMinute (← readChar ':' rest)
      let minutes := 60 * hour + minute
      let sign := if c == '-' && 0 < minutes then "-" else "+"
      if dayMinutes < minutes then none
      else some (sign ++ padded 2 (minutes / 60) ++ ":" ++ padded 2 (minutes % 60), rest)
    else some ("", cs)
  | [] => some ("", cs)

/-- A date, a time, or both, where the numbers of a time and of an offset have given bounds. -/
def readMomentWithin (lastHour lastOffsetHour lastOffsetMinute : Nat) (cs : List Char) :
    Option (Value × List Char) :=
  match readDate cs with
  | none => do
    let (time, rest) ← readTime lastHour cs
    some (.moment time, rest)
  | some (date, rest) =>
    match rest with
    | c :: after =>
      if c == 'T' || c == 't' || (c == ' ' && (after.head?.any Char.isDigit)) then do
        let (time, rest) ← readTime lastHour after
        let (offset, rest) ← readOffset lastOffsetHour lastOffsetMinute rest
        some (.moment (date ++ "T" ++ time ++ offset), rest)
      else some (.moment date, rest)
    | [] => some (.moment date, rest)

/-- A date, a time, or both, as a value in a document. -/
def readMoment (cs : List Char) : Option (Value × List Char) :=
  readMomentWithin 23 23 59 cs

/-- The date, time or both that a text spells. A text is read less strictly than a value: midnight
may be the twenty-fourth hour, and an offset may have up to 99 minutes. -/
def momentOf? (text : String) : Option Value :=
  match readMomentWithin 24 99 99 text.toList with
  | some (value, []) => some value
  | _ => none

/-- Whether a value starts like a date or a time and not like a number. -/
def looksLikeMoment (cs : List Char) : Bool :=
  let digits := cs.takeWhile Char.isDigit
  match cs.drop digits.length with
  | c :: _ => (digits.length == 4 && c == '-') || (digits.length == 2 && c == ':')
  | [] => false

/-! ### Tables that stand for a date or a time -/

/-- The name that makes a table a date or a time, if it comes first in the table. -/
def momentName : String := "$__toml_private_datetime"

mutual

/-- A value in which each table that stands for a date or time is replaced by what it spells. There
is none if such a table spells nothing; what else is in such a table does not matter. -/
def Value.withMoments? : Value → Option Value
  | .array items => (Value.itemsWithMoments? items).map .array
  | .table members => Value.tableWithMoments? members
  | leaf => some leaf

/-- The value of a table with these members. -/
def Value.tableWithMoments? : List (String × Value) → Option Value
  | [] => some (.table [])
  | (name, value) :: rest =>
    if name == momentName then
      match value with
      | .string text => momentOf? text
      | _ => none
    else do
      let value ← value.withMoments?
      let others ← Value.membersWithMoments? rest
      some (.table ((name, value) :: others))

/-- The members of a table after the first. -/
def Value.membersWithMoments? : List (String × Value) → Option (List (String × Value))
  | [] => some []
  | (name, value) :: rest => do
    let value ← value.withMoments?
    let others ← Value.membersWithMoments? rest
    some ((name, value) :: others)

/-- The items of an array. -/
def Value.itemsWithMoments? : List Value → Option (List Value)
  | [] => some []
  | item :: rest => do
    let item ← item.withMoments?
    let others ← Value.itemsWithMoments? rest
    some (item :: others)

end

end VehicleTelemetry.Toml
