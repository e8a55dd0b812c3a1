import VehicleTelemetry.Decimal.Basic

/-!
The binary64 format: what number a float stands for, and which float is nearest to a number.

* `Binary64.ofFloat` reads sign, mantissa and exponent off the bits.
* `Binary64.exact` writes the magnitude `m * 2 ^ e` of a finite float as a decimal, which is always
  possible because two divides ten.
* `Decimal.nearest` is the magnitude of the float nearest to a decimal, a half going to the even
  mantissa. The bits of a float are its mantissa plus its exponent times `2 ^ 52`, so that a carry
  out of the mantissa needs no case of its own.
* `Binary64.truncate` is the whole part, clamped to 64 bits with a sign.
-/

namespace VehicleTelemetry

/-- What the bits of a float say. -/
inductive Binary64 where
  | nan
  | infinity (negative : Bool)
  /-- The number `± mantissa * 2 ^ exponent`. -/
  | finite (negative : Bool) (mantissa : Nat) (exponent : Int)
  deriving DecidableEq, Repr

namespace Binary64

/-- How many fractions there are: `2 ^ 52`. -/
def fractions : Nat := 4503599627370496

/-- The weight of the sign bit: `2 ^ 63`. -/
def signBit : Nat := 9223372036854775808

/-- The bits of infinity. -/
def infinityBits : Nat := 2047 * fractions

/-- The sign bit, the eleven bits of the exponent and the fifty-two of the fraction. -/
def ofBits (bits : Nat) : Binary64 :=
  let negative := decide (signBit ≤ bits)
  let field : Nat := bits / fractions % 2048
  let fraction := bits % fractions
  if field = 2047 then
    if fraction = 0 then infinity negative else nan
  else if field = 0 then finite negative fraction (-1074)
  else finite negative (fractions + fraction) ((field : Int) - 1075)

/-- What a float stands for. -/
def ofFloat (x : Float) : Binary64 :=
  ofBits x.toBits.toNat

/-- `mantissa * 2 ^ exponent` as a decimal: below the point each factor one half is five tenths. -/
def exact (mantissa : Nat) : Int → Decimal
  | .ofNat e => ⟨mantissa <<< e, 0⟩
  | .negSucc e => ⟨mantissa * Nat.pow 5 (e + 1), .negSucc e⟩

/-- The magnitude's bits for a mantissa of at most `2 ^ 53` at an exponent of at least `-1074`;
what is too large becomes infinity. -/
def magnitudeBits (mantissa : Nat) (exponent : Int) : Nat :=
  min infinityBits (mantissa + (exponent + 1074).toNat * fractions)

/-- The exponent at which `num / den` has a mantissa of fifty-three bits, or the least one. -/
def binade (num den : Nat) : Int :=
  let least : Int := (num.log2 : Int) - den.log2 - 53
  let reached := match least + 53 with
    | .ofNat e => decide (den <<< e ≤ num)
    | .negSucc e => decide (den ≤ num <<< (e + 1))
  max (-1074) (if reached then least + 1 else least)

/-- The magnitude's bits of the float nearest to `num / den`. -/
def nearestBits (num den : Nat) : Nat :=
  if num = 0 then 0
  else
    let exponent := binade num den
    let mantissa := match exponent with
      | .ofNat e => Decimal.roundDiv .even num (den <<< e)
      | .negSucc e => Decimal.roundDiv .even (num <<< (e + 1)) den
    magnitudeBits mantissa exponent

/-- The float of a sign and a magnitude. -/
def toFloat (negative : Bool) (magnitude : Nat) : Float :=
  Float.ofBits (if negative then magnitude + signBit else magnitude).toUInt64

/-- The whole part of a float, toward zero; not a number gives zero, and what lies outside the
signed 64-bit range its nearer end. -/
def truncate (x : Float) : Int64 :=
  match ofFloat x with
  | nan => 0
  | infinity negative => if negative then Int64.minValue else Int64.maxValue
  | finite negative mantissa exponent =>
    let whole : Nat := match exponent with
      | .ofNat e => mantissa <<< e
      | .negSucc e => mantissa >>> (e + 1)
    if negative then Int64.ofInt (max (-(whole : Int)) (-signBit))
    else Int64.ofInt (min whole (signBit - 1 : Nat))

end Binary64

namespace Decimal

/-- The magnitude's bits of the float nearest to a decimal. The bounds on the scale only save
work: below `10 ^ -326` all is nearest to zero, and from `10 ^ 310` on all to infinity. -/
def nearest (d : Decimal) : Nat :=
  if d.digits = 0 then 0
  else if d.scale < -326 then 0
  else if 310 < d.scale then Binary64.infinityBits
  else match d.exponent with
    | .ofNat e => Binary64.nearestBits (d.digits * tenPow e) 1
    | .negSucc e => Binary64.nearestBits d.digits (tenPow (e + 1))

/-- The float nearest to `± d`. -/
def toFloat (negative : Bool) (d : Decimal) : Float :=
  Binary64.toFloat negative d.nearest

end Decimal

end VehicleTelemetry
