import VehicleTelemetry.Decimal.Layout
import VehicleTelemetry.Json.Basic

/-!
Writing JSON texts, compact or with one item a line.

A float is its shortest decimal and always has a point or an exponent, so that it is not read back
as a whole number; what is no finite number becomes `null`. In strings only the quote, the
backslash and the control characters are escaped.
-/

namespace VehicleTelemetry

/-- Without an exponent from `0.00001` up to sixteen digits before the point; an exponent has a
sign; a tie goes to the even digit. -/
def Decimal.Layout.json : Decimal.Layout := ⟨some (-5, 15), true, true, .even⟩

namespace Json

/-- One character inside a string. -/
def writeChar (c : Char) : List Char :=
  match c with
  | '"' => ['\\', '"']
  | '\\' => ['\\', '\\']
  | '\x08' => ['\\', 'b']
  | '\x0c' => ['\\', 'f']
  | '\n' => ['\\', 'n']
  | '\r' => ['\\', 'r']
  | '\t' => ['\\', 't']
  | c =>
    if c.toNat < 0x20 then
      ['\\', 'u', '0', '0', Nat.digitChar (c.toNat / 16), Nat.digitChar (c.toNat % 16)]
    else [c]

/-- A string with its quotes. -/
def writeString (text : String) : List Char :=
  '"' :: text.toList.flatMap writeChar ++ ['"']

/-- A whole number. -/
def writeInt (value : Int) : List Char :=
  match value with
  | .ofNat n => Nat.toDigits 10 n
  | .negSucc n => '-' :: Nat.toDigits 10 (n + 1)

/-- A float. -/
def writeFloat (value : Float) : List Char :=
  match Binary64.ofFloat value with
  | .finite .. => Decimal.Layout.json.float value
  | _ => "null".toList

/-- A line break and the indentation of a depth. -/
def newline (depth : Nat) : List Char :=
  '\n' :: List.replicate (2 * depth) ' '

/-- Puts items between brackets; `depth` indents them, one a line, unless there is none. -/
def bracket (opening closing : Char) (depth : Option Nat) (items : List (List Char)) : List Char :=
  if items.isEmpty then [opening, closing]
  else match depth with
    | none => opening :: List.intercalate [','] items ++ [closing]
    | some depth =>
      opening :: newline (depth + 1) ++ List.intercalate (',' :: newline (depth + 1)) items
        ++ newline depth ++ [closing]

mutual

/-- A value, with one item a line from indentation `depth` on if there is one. -/
def write (depth : Option Nat) : Json → List Char
  | null => "null".toList
  | bool value => (if value then "true" else "false").toList
  | int value => writeInt value
  | float value => writeFloat value
  | string value => writeString value
  | array items => bracket '[' ']' depth (writeItems (depth.map (· + 1)) items)
  | object members => bracket '\x7b' '\x7d' depth (writeMembers (depth.map (· + 1)) members)

/-- The items of an array. -/
def writeItems (depth : Option Nat) : List Json → List (List Char)
  | [] => []
  | item :: rest => write depth item :: writeItems depth rest

/-- The members of an object. -/
def writeMembers (depth : Option Nat) : List (String × Json) → List (List Char)
  | [] => []
  | (name, value) :: rest =>
    (writeString name ++ (':' :: (if depth.isSome then [' '] else [])) ++ write depth value)
      :: writeMembers depth rest

end

/-- The text of a value without white space. -/
def compact (value : Json) : String := String.ofList (value.write none)

/-- The text of a value with one item a line and two spaces of indentation. -/
def pretty (value : Json) : String := String.ofList (value.write (some 0))

end Json

end VehicleTelemetry
