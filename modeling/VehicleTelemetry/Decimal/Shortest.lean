import VehicleTelemetry.Decimal.Binary64

/-!
The shortest decimal that reads back as a given float.

The grids of one, two, three, … significant digits are searched in turn. On each grid only the two
neighbours of the float's exact value can read back, since the numbers that do are an interval
around it. The first grid with a hit wins, and of two hits the nearer; a tie goes as `Tie` says. On
the last grid the lower neighbour is the exact value itself, so the search always ends with a
decimal that reads back.
-/

namespace VehicleTelemetry.Decimal

/-- Of the neighbours of `d` on the grid that drops `drop` digits, the one that reads back as
`magnitude`: the nearer if both do. -/
def onGrid? (tie : Tie) (magnitude : Nat) (d : Decimal) (drop : Nat) : Option Decimal :=
  let low := d.below drop
  let high := d.above drop
  match decide (low.nearest = magnitude), decide (high.nearest = magnitude) with
  | true, true =>
    some (if roundDiv tie d.digits (tenPow drop) = low.digits then low else high)
  | true, false => some low
  | false, true => some high
  | false, false => none

/-- The first hit on the grids that drop `drop` digits, then one fewer, down to none. -/
def search (tie : Tie) (magnitude : Nat) (d : Decimal) : Nat → Decimal
  | 0 => d
  | drop + 1 => (onGrid? tie magnitude d (drop + 1)).getD (search tie magnitude d drop)

/-- The shortest decimal that reads back as the float of magnitude `mantissa * 2 ^ exponent`. -/
def shortest (tie : Tie) (mantissa : Nat) (exponent : Int) : Decimal :=
  let value := Binary64.exact mantissa exponent
  normalize (search tie value.nearest value (digitCount value.digits - 1))

end VehicleTelemetry.Decimal
