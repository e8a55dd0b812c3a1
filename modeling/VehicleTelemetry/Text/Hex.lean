/-!
Numbers in upper-case hexadecimal, padded with zeros to a least width, as bus identifiers, data
identifiers and bytes are written.
-/

namespace VehicleTelemetry.Text

/-- The hexadecimal digits of `n`, in upper case, most significant first. -/
def hexDigits (n : Nat) : List Char :=
  (Nat.toDigits 16 n).map Char.toUpper

/-- `n` in upper-case hexadecimal with at least `width` digits. -/
def hex (width n : Nat) : String :=
  let digits := hexDigits n
  String.ofList (List.replicate (width - digits.length) '0' ++ digits)

/-- The bytes of a payload as a bracketed list of two-digit numbers: `[00, 1F]`. -/
def hexBytes (bytes : List UInt8) : String :=
  "[" ++ String.intercalate ", " (bytes.map fun b => hex 2 b.toNat) ++ "]"

end VehicleTelemetry.Text
