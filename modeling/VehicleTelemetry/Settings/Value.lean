import VehicleTelemetry.Decimal.Layout
import VehicleTelemetry.Numeral

/-!
The values that settings are given, and how they are read as what a setting wants.

A value need not have the wanted type: numbers, booleans and texts stand for each other where that
makes sense. A float that is wanted as a whole number is rounded, a half away from zero. The words
`true`, `on` and `yes` stand for one, `false`, `off` and `no` for zero, in any case.
-/

namespace VehicleTelemetry

/-- The value of a setting as it was given. -/
inductive SettingValue where
  | bool (value : Bool)
  | int (value : Int)
  | float (value : Float)
  | text (value : String)
  /-- A value that is left out. -/
  | null
  | array (items : List SettingValue)
  | table (members : List (String × SettingValue))

namespace SettingValue

/-- What a word for a truth value stands for. -/
def word? (text : String) : Option Bool :=
  match String.ofList (text.toList.map Char.toLower) with
  | "true" | "on" | "yes" => some true
  | "false" | "off" | "no" => some false
  | _ => none

/-- A truth value. -/
def toBool? : SettingValue → Option Bool
  | bool value => some value
  | int value => some (value != 0)
  | float value => some (value != 0.0)
  | text "1" => some true
  | text "0" => some false
  | text value => word? value
  | null | array _ | table _ => none

/-- The natural number nearest to a float, a half away from zero. It is zero for what is no number
or negative, and at most the largest number of 64 bits. -/
def roundToNat (value : Float) : Nat :=
  match Binary64.ofFloat value with
  | .nan | .infinity true | .finite true .. => 0
  | .infinity false => UInt64.size - 1
  | .finite false mantissa exponent =>
    min (UInt64.size - 1) (match exponent with
      | .ofNat e => mantissa <<< e
      | .negSucc e => Decimal.roundDiv .up mantissa (1 <<< (e + 1)))

/-- A natural number, without regard to the size of its setting. -/
def toWord? : SettingValue → Option Nat
  | bool value => some value.toNat
  | int value => if 0 ≤ value then some value.toNat else none
  | float value => some (roundToNat value)
  | text value => match word? value with
    | some truth => some truth.toNat
    | none => Numeral.natural? value
  | null | array _ | table _ => none

/-- A natural number below a bound. -/
def toNat? (bound : Nat) (value : SettingValue) : Option Nat :=
  value.toWord?.filter (· < bound)

/-- A float. -/
def toFloat? : SettingValue → Option Float
  | bool value => some (if value then 1.0 else 0.0)
  | int value => some (Float.ofInt value)
  | float value => some value
  | text value => match word? value with
    | some truth => some (if truth then 1.0 else 0.0)
    | none => Numeral.float? value
  | null | array _ | table _ => none

/-- A text. -/
def toText? : SettingValue → Option String
  | bool value => some (if value then "true" else "false")
  | int value => some (toString value)
  | float value => some (Decimal.plain value)
  | text value => some value
  | null | array _ | table _ => none

/-- The members of a table, and none of anything else. -/
def members : SettingValue → List (String × SettingValue)
  | table members => members
  | _ => []

/-- The items of an array, and none of anything else. -/
def items : SettingValue → List SettingValue
  | array items => items
  | _ => []

end SettingValue

end VehicleTelemetry
