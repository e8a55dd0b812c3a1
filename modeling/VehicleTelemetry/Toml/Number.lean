import VehicleTelemetry.Toml.Lexical
import VehicleTelemetry.Toml.Value
import VehicleTelemetry.Word

/-!
The numbers of TOML. Whole numbers are those of 64 bits with a sign; what does not fit is refused.
A positive float that is too large is refused as well, a negative one is negative infinity.
-/

namespace VehicleTelemetry.Toml

/-- A whole number that fits. -/
def integer? (value : Int) : Option Value :=
  if Word.isSigned value then some (.integer value) else none

/-- A float of given sign and magnitude. -/
def float? (negative : Bool) (magnitude : Decimal) : Option Value :=
  let bits := magnitude.nearest
  if bits = Binary64.infinityBits ∧ !negative then none
  else some (.float (Binary64.toFloat negative bits))

/-- A whole number to a base, after the letter of the base. -/
def readRadix (base : Nat) (cs : List Char) : Option (Value × List Char) := do
  let (digits, rest) ← readDigits (Text.isDigitOf base) cs
  let value ← integer? (Text.digitsValue base digits)
  some (value, rest)

/-- A number to base ten, after its sign. -/
def readDecimal (negative : Bool) (cs : List Char) : Option (Value × List Char) := do
  let (whole, rest) ← readWhole cs
  let (fraction, rest) ← readFraction rest
  let (exponent, rest) ← readExponent rest
  match fraction, exponent with
  | none, none =>
    let size : Int := Text.digitsValue 10 whole
    let value ← integer? (if negative then -size else size)
    some (value, rest)
  | fraction, exponent =>
    let places := fraction.getD []
    let value ← float? negative
      ⟨Text.digitsValue 10 (whole ++ places), exponent.getD 0 - places.length⟩
    some (value, rest)

/-- A number. -/
def readNumber (cs : List Char) : Option (Value × List Char) :=
  match cs with
  | '0' :: 'x' :: rest => readRadix 16 rest
  | '0' :: 'o' :: rest => readRadix 8 rest
  | '0' :: 'b' :: rest => readRadix 2 rest
  | _ =>
    let (negative, rest) := readSign cs
    match rest with
    | 'i' :: 'n' :: 'f' :: rest =>
      some (.float (Binary64.toFloat negative Binary64.infinityBits), rest)
    | 'n' :: 'a' :: 'n' :: rest => some (.float (0.0 / 0.0), rest)
    | rest => readDecimal negative rest

end VehicleTelemetry.Toml
