import VehicleTelemetry.Decimal.Shortest

/-!
The texts of floats.

* `Layout` collects the choices of a way to write shortest decimals: which ones stand without an
  exponent, whether a whole number keeps a point, how the exponent is signed, where a tie goes.
* `Layout.plain` never uses an exponent, `Layout.marked` tells floats from whole numbers.
* `fixed` writes a float with a given number of places, rounding its exact value, a half to the
  even digit. It keeps the sign of a negative zero.
-/

namespace VehicleTelemetry.Decimal

/-- How shortest decimals are written. -/
structure Layout where
  /-- The scales that are written without an exponent; none bounds them if absent. -/
  bareScales : Option (Int × Int)
  /-- Whether a whole number written without an exponent ends in `.0`. -/
  wholePoint : Bool
  /-- Whether a positive exponent has a sign. -/
  plusSign : Bool
  /-- Where a tie between two shortest decimals goes. -/
  tie : Tie

namespace Layout

/-- Never an exponent, and no point after a whole number. -/
def plain : Layout := ⟨none, false, false, .up⟩

/-- Without an exponent from `0.0001` up to sixteen digits before the point, and always marked as
a float by a point or an exponent. -/
def marked : Layout := ⟨some (-4, 15), true, false, .up⟩

end Layout

/-- The digits of `n`, padded on the left with zeros to at least `width`. -/
def padded (width n : Nat) : List Char :=
  let digits := Nat.toDigits 10 n
  List.replicate (width - digits.length) '0' ++ digits

/-- A decimal with at least one digit on each side of its point; without places no point. -/
def positional (d : Decimal) : List Char :=
  match d.exponent with
  | .ofNat e => Nat.toDigits 10 (d.digits * tenPow e)
  | .negSucc e =>
    let digits := padded (e + 2) d.digits
    digits.take (digits.length - (e + 1)) ++ '.' :: digits.drop (digits.length - (e + 1))

/-- One digit, the others after a point, and the power of ten. -/
def scientific (plusSign : Bool) (d : Decimal) : List Char :=
  let exponent := match d.scale with
    | .ofNat e => (if plusSign then ['+'] else []) ++ Nat.toDigits 10 e
    | .negSucc e => '-' :: Nat.toDigits 10 (e + 1)
  match Nat.toDigits 10 d.digits with
  | [] => []
  | [digit] => digit :: 'e' :: exponent
  | digit :: rest => digit :: '.' :: rest ++ 'e' :: exponent

/-- A decimal without trailing zeros, written as the layout says. -/
def Layout.write (layout : Layout) (d : Decimal) : List Char :=
  let bare := match layout.bareScales with
    | none => true
    | some (least, greatest) => decide (least ≤ d.scale) && decide (d.scale ≤ greatest)
  if bare then
    positional d ++ (if layout.wholePoint && decide (0 ≤ d.exponent) then ['.', '0'] else [])
  else scientific layout.plusSign d

/-- A sign and the text of a magnitude. -/
def signed (negative : Bool) (text : List Char) : List Char :=
  if negative then '-' :: text else text

/-- A float's shortest decimal as the layout says. -/
def Layout.float (layout : Layout) (x : Float) : List Char :=
  match Binary64.ofFloat x with
  | .nan => "NaN".toList
  | .infinity negative => signed negative "inf".toList
  | .finite negative mantissa exponent =>
    signed negative (layout.write (shortest layout.tie mantissa exponent))

/-- A float with `places` digits after the point. -/
def fixed (places : Nat) (x : Float) : String :=
  String.ofList <| match Binary64.ofFloat x with
  | .nan => "NaN".toList
  | .infinity negative => signed negative "inf".toList
  | .finite negative mantissa exponent =>
    let value := Binary64.exact mantissa exponent
    let units := match value.exponent + places with
      | .ofNat e => value.digits * tenPow e
      | .negSucc e => roundDiv .even value.digits (tenPow (e + 1))
    signed negative (match places with
      | 0 => Nat.toDigits 10 units
      | p + 1 => positional ⟨units, .negSucc p⟩)

/-- A float without an exponent. -/
def plain (x : Float) : String := String.ofList (Layout.plain.float x)

/-- A float that cannot be taken for a whole number. -/
def marked (x : Float) : String := String.ofList (Layout.marked.float x)

end VehicleTelemetry.Decimal
