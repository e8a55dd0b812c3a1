import VehicleTelemetry.Text.Unprintable

/-!
Texts in quotes, as messages give a value that may hold anything. The quote and the backslash are
escaped, the common controls have letters, and every other unprintable character is written by its
code point in lower-case hexadecimal between braces.
-/

namespace VehicleTelemetry.Text

/-- One character inside quotes. -/
def quotedChar (c : Char) : List Char :=
  match c with
  | '"' => ['\\', '"']
  | '\\' => ['\\', '\\']
  | '\t' => ['\\', 't']
  | '\n' => ['\\', 'n']
  | '\r' => ['\\', 'r']
  | '\x00' => ['\\', '0']
  | c =>
    if isUnprintable c then ['\\', 'u', '\x7b'] ++ Nat.toDigits 16 c.toNat ++ ['\x7d'] else [c]

/-- A text in quotes. -/
def quoted (text : String) : String :=
  String.ofList ('"' :: text.toList.flatMap quotedChar ++ ['"'])

end VehicleTelemetry.Text
