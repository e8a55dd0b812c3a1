import VehicleTelemetry.Decimal.Binary64
import VehicleTelemetry.Text.Digit
import VehicleTelemetry.Word

/-!
Numbers that a whole text spells.

A whole number is an optional sign and digits. A float may have a point with digits on at least one
side and an exponent, or be one of the words `inf`, `infinity` and `nan` in any case; what is too
large is infinity.
-/

namespace VehicleTelemetry.Numeral

/-- The number that a text of digits spells. -/
def digits? (cs : List Char) : Option Nat :=
  if !cs.isEmpty && cs.all Char.isDigit then some (Text.digitsValue 10 cs) else none

/-- Whether there is a minus sign, after an optional sign. -/
def splitSign : List Char → Bool × List Char
  | '-' :: rest => (true, rest)
  | '+' :: rest => (false, rest)
  | cs => (false, cs)

/-- A whole number with a sign. -/
def signed? (cs : List Char) : Option Int := do
  let (negative, rest) := splitSign cs
  let size ← digits? rest
  some (if negative then -(size : Int) else size)

/-- A whole number of 64 bits with a sign. -/
def integer? (text : String) : Option Int := do
  let value ← signed? text.toList
  if Word.isSigned value then some value else none

/-- A whole number of 64 bits without a minus sign. -/
def natural? (text : String) : Option Nat := do
  let size ← match text.toList with
    | '+' :: rest => digits? rest
    | cs => digits? cs
  if size < UInt64.size then some size else none

/-- The power of ten at the end of a number. -/
def exponent? : List Char → Option Int
  | [] => some 0
  | c :: rest => if c == 'e' || c == 'E' then signed? rest else none

/-- A decimal without a sign. -/
def decimal? (cs : List Char) : Option Decimal := do
  let (whole, rest) := cs.span Char.isDigit
  let (places, rest) := match rest with
    | '.' :: rest => rest.span Char.isDigit
    | rest => ([], rest)
  if whole.isEmpty && places.isEmpty then none
  else
    let exponent ← exponent? rest
    some ⟨Text.digitsValue 10 (whole ++ places), exponent - places.length⟩

/-- A float. -/
def float? (text : String) : Option Float :=
  let (negative, rest) := splitSign text.toList
  match String.ofList (rest.map Char.toLower) with
  | "inf" | "infinity" => some (Binary64.toFloat negative Binary64.infinityBits)
  | "nan" => some (0.0 / 0.0)
  | _ => (decimal? rest).map (Decimal.toFloat negative)

end VehicleTelemetry.Numeral
