import VehicleTelemetry.Numeral

/-!
The values of a YAML document, and what a scalar without quotes stands for.
-/

namespace VehicleTelemetry.Yaml

/-- A YAML value. Any value may be a key; members keep their order. -/
inductive Value where
  | null
  | bool (value : Bool)
  | int (value : Int)
  | float (value : Float)
  | text (value : String)
  | list (items : List Value)
  | map (members : List (Value × Value))

namespace Value

/-- Whether two scalars are the same key. -/
def sameKey : Value → Value → Bool
  | null, null => true
  | bool a, bool b => a == b
  | int a, int b => a == b
  | text a, text b => a == b
  | _, _ => false

/-- The whole number that a scalar spells, to base ten, or to base sixteen or eight with a mark. -/
def integer? (scalar : String) : Option Int :=
  let marked (base : Nat) (digits : List Char) : Option Int :=
    let size := Text.digitsValue base digits
    if !digits.isEmpty && digits.all (Text.isDigitOf base) && Word.isSigned size then some size
    else none
  match scalar.toList with
  | '0' :: 'x' :: digits => marked 16 digits
  | '0' :: 'o' :: digits => marked 8 digits
  | _ => Numeral.integer? scalar

/-- Whether a scalar is a word for a float that is no number. There is a value for none of them. -/
def isFloatWord (scalar : String) : Bool :=
  [".inf", ".Inf", ".INF", "+.inf", "+.Inf", "+.INF", "-.inf", "-.Inf", "-.INF", ".nan", ".NaN",
    ".NAN"].contains scalar

/-- The float that a scalar with a digit spells. -/
def float? (scalar : String) : Option Float :=
  if scalar.toList.any Char.isDigit then Numeral.float? scalar else none

/-- The value of a scalar without quotes. -/
def ofScalar? (scalar : String) : Option Value :=
  match scalar with
  | "" | "~" | "null" => some null
  | "true" | "True" | "TRUE" => some (bool true)
  | "false" | "False" | "FALSE" => some (bool false)
  | _ =>
    if isFloatWord scalar then none
    else match integer? scalar, float? scalar with
      | some value, _ => some (int value)
      | none, some value => some (float value)
      | none, none => some (text scalar)

/-- The value of a scalar without quotes that has a tag. What does not suit its tag is nothing. -/
def ofTagged? (tag scalar : String) : Option Value :=
  match tag with
  | "bool" => some (match scalar with
    | "true" => bool true
    | "false" => bool false
    | _ => null)
  | "int" => some ((Numeral.integer? scalar).elim null int)
  | "float" => if isFloatWord scalar then none else some ((float? scalar).elim null float)
  | "null" => some null
  | _ => some (text scalar)

end Value

end VehicleTelemetry.Yaml
