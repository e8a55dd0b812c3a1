/-!
Decimal numbers without a sign: a whole number of units of a power of ten.

Two spellings of a number differ only in trailing zeros (`Decimal.normalize` drops them). Rounding
to a coarser grid (`Decimal.below`, `Decimal.above`) is exact integer division.
-/

namespace VehicleTelemetry

/-- The number `digits * 10 ^ exponent`. -/
structure Decimal where
  digits : Nat
  exponent : Int
  deriving DecidableEq, Repr

namespace Decimal

/-- A power of ten. -/
def tenPow (n : Nat) : Nat :=
  Nat.pow 10 n

/-- How many decimal digits `n` has; `0` has one. -/
def digitCount (n : Nat) : Nat :=
  (Nat.toDigits 10 n).length

/-- The power of ten of the leading digit. -/
def scale (d : Decimal) : Int :=
  d.exponent + digitCount d.digits - 1

/-- Divides by ten as long as nothing is lost, at most `fuel` times. -/
def dropZeros : Nat → Decimal → Decimal
  | 0, d => d
  | fuel + 1, d =>
    if d.digits % 10 = 0 then dropZeros fuel ⟨d.digits / 10, d.exponent + 1⟩ else d

/-- The same number with no trailing zero; zero itself is `0 * 10 ^ 0`. -/
def normalize (d : Decimal) : Decimal :=
  if d.digits = 0 then ⟨0, 0⟩ else dropZeros (digitCount d.digits) d

/-- The greatest number on the grid of `10 ^ drop` units that is not above `d`. -/
def below (drop : Nat) (d : Decimal) : Decimal :=
  ⟨d.digits / tenPow drop, d.exponent + drop⟩

/-- The next number of the same grid. -/
def above (drop : Nat) (d : Decimal) : Decimal :=
  ⟨d.digits / tenPow drop + 1, d.exponent + drop⟩

/-- Which neighbour an exact half goes to. -/
inductive Tie where
  | up
  | even
  deriving DecidableEq, Repr

/-- `num / den` rounded to the nearest whole number. -/
def roundDiv (tie : Tie) (num den : Nat) : Nat :=
  let quotient := num / den
  let twice := 2 * (num % den)
  if twice < den then quotient
  else if den < twice then quotient + 1
  else match tie with
    | .up => quotient + 1
    | .even => quotient + quotient % 2

end Decimal

end VehicleTelemetry
