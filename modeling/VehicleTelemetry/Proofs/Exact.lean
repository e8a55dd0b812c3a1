import Mathlib.Tactic
import VehicleTelemetry.Scalar

/-!
The rationals as scalars: what totals and statistics come to when nothing is rounded.

Every rational is a number, so that the minimum and the maximum are those of the order
(`min_eq_min`, `max_eq_max`). The largest finite value is that of a float,
`(2 ^ 53 - 1) * 2 ^ 971`.
-/

namespace VehicleTelemetry

/-- Exact arithmetic. -/
instance : Scalar ℚ where
  ofNat n := n
  below x y := x < y
  undefined _ := false
  largest := (2 ^ 53 - 1) * 2 ^ 971

namespace Exact

variable (x y : ℚ)

@[simp] lemma ofNat_eq (n : ℕ) : (Scalar.ofNat n : ℚ) = n := rfl

@[simp] lemma zero_eq_zero : (Scalar.zero : ℚ) = 0 := Nat.cast_zero

@[simp] lemma below_iff : Scalar.below x y = true ↔ x < y := decide_eq_true_iff

lemma min_eq_min : Scalar.min x y = min x y := by
  have hmin : Scalar.min x y = if y < x then y else x := by
    simp only [Scalar.min, Scalar.undefined, Bool.false_eq_true, if_false, below_iff]
  rw [hmin]
  split_ifs with h
  · exact (min_eq_right h.le).symm
  · exact (min_eq_left (not_lt.mp h)).symm

lemma max_eq_max : Scalar.max x y = max x y := by
  have hmax : Scalar.max x y = if x < y then y else x := by
    simp only [Scalar.max, Scalar.undefined, Bool.false_eq_true, if_false, below_iff]
  rw [hmax]
  split_ifs with h
  · exact (max_eq_right h.le).symm
  · exact (max_eq_left (not_lt.mp h)).symm

end Exact

end VehicleTelemetry
