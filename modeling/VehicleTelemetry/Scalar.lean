/-!
The arithmetic that running totals and statistics are written in. The library runs them on
`Float`; stated over a class, the same definitions can be read over exact numbers.

The comparisons follow IEEE 754: a number that is not a number compares false, and the maximum
or minimum of such a number and another is the other one (`Scalar.max`, `Scalar.min`).
-/

namespace VehicleTelemetry

/-- Numbers that totals and statistics can be taken over. -/
class Scalar (α : Type) extends Add α, Sub α, Mul α, Div α where
  /-- The value of a natural number. -/
  ofNat : Nat → α
  /-- Strictly below; false when either side is not a number. -/
  below : α → α → Bool
  /-- Whether the value is not a number. -/
  undefined : α → Bool
  /-- The largest finite value. -/
  largest : α

namespace Scalar

variable {α : Type} [Scalar α]

/-- The value zero. -/
def zero : α := ofNat 0

/-- The value of opposite sign. -/
def negate (x : α) : α := zero - x

/-- The smaller of two values, the first one when they compare equal; a value that is not a number
gives way to the other. -/
def min (x y : α) : α :=
  if undefined x then y else if below y x then y else x

/-- The larger of two values, the first one when they compare equal; a value that is not a number
gives way to the other. -/
def max (x y : α) : α :=
  if undefined x then y else if below x y then y else x

end Scalar

/-- Binary64 arithmetic. -/
instance : Scalar Float where
  ofNat := Float.ofNat
  below x y := x < y
  undefined := Float.isNaN
  largest := Float.ofBits 0x7FEFFFFFFFFFFFFF

end VehicleTelemetry
