import VehicleTelemetry.Scalar

/-!
Statistics of a list of readings in one pass.

`Moments.push` takes one more value into the extremes, the mean and the sum of squared deviations
from the mean, by the recurrence that updates the sum with the deviations from the old and from
the new mean. `Moments.variance` is the mean squared deviation, and `summary?` takes its root, in
any arithmetic and with any root. `Statistics.ofList?` is the summary in floats, with their square
root. There is no summary of an empty list.
-/

namespace VehicleTelemetry

/-- Extremes, mean and spread of the values taken in so far. -/
structure Moments (α : Type) where
  count : Nat
  least : α
  greatest : α
  mean : α
  /-- The sum of the squared deviations from the mean. -/
  deviation : α

namespace Moments

variable {α : Type} [Scalar α]

/-- Before the first value: any finite value is at most `least` and at least `greatest`. -/
def empty : Moments α where
  count := 0
  least := Scalar.largest
  greatest := Scalar.negate Scalar.largest
  mean := Scalar.zero
  deviation := Scalar.zero

/-- Takes in one more value. -/
def push (m : Moments α) (value : α) : Moments α :=
  let delta := value - m.mean
  let mean := m.mean + delta / Scalar.ofNat (m.count + 1)
  { count := m.count + 1
    least := Scalar.min m.least value
    greatest := Scalar.max m.greatest value
    mean
    deviation := m.deviation + delta * (value - mean) }

/-- The moments of a list. -/
def ofList (values : List α) : Moments α :=
  values.foldl push empty

/-- The mean squared deviation from the mean. -/
def variance (m : Moments α) : α :=
  m.deviation / Scalar.ofNat m.count

end Moments

/-- What is published of a list of values. The root of the variance may be of another type than the
values are. -/
structure Summary (α ρ : Type) where
  least : α
  greatest : α
  mean : α
  /-- The population's standard deviation. -/
  deviation : ρ
  deriving DecidableEq

/-- The summary of a list, if it has a value. A variance that rounding has made negative counts as
zero. -/
def summary? {α ρ : Type} [Scalar α] (root : α → ρ) (values : List α) : Option (Summary α ρ) :=
  if values.isEmpty then none
  else
    let moments := Moments.ofList values
    some
      { least := moments.least
        greatest := moments.greatest
        mean := moments.mean
        deviation := root (Scalar.max moments.variance Scalar.zero) }

/-- The summary of readings. -/
abbrev Statistics := Summary Float Float

/-- The statistics of a list of readings, if it has one. -/
def Statistics.ofList? (readings : List Float) : Option Statistics :=
  summary? Float.sqrt readings

end VehicleTelemetry
