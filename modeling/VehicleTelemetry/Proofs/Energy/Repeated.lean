import Mathlib.Tactic
import VehicleTelemetry.Proofs.Binary64.Order
import VehicleTelemetry.Proofs.Energy.History

/-!
A sample that is counted twice at one time counts once.

No time has passed at the second one, so its energy is a zero, of either sign, or not a
number if the power is none. The battery drops all three of these. The other channels add
what is left of it from zero up, which changes every float but the negative zero, and a
total is never that.

* `EnergyTotals.credit_battery_cases`, `EnergyTotals.credit_of_not_pos`: what a channel counts
  of an energy;
* `EnergyMeter.Sound`: the totals that are added to in any case are positive floats;
  `sound_recordAll` keeps it so from a new meter on;
* `EnergyMeter.sample_sample`: the second sample leaves such a meter as it is;
* `EnergyMeter.totals_sample_zero`: so does a sample without power, but for its time.
-/

namespace VehicleTelemetry

open Binary64

/-! ### One energy -/

namespace EnergyTotals

variable {totals : EnergyTotals Float}

/-- The battery counts an energy as used, as recovered or not at all. -/
lemma credit_battery_cases (totals : EnergyTotals Float) (delta : Float) :
    (0.0 < delta ∧ totals.credit .battery delta = { totals with used := totals.used + delta }) ∨
    (delta < 0.0 ∧
      totals.credit .battery delta = { totals with recovered := totals.recovered - delta }) ∨
    totals.credit .battery delta = totals := by
  have hbelow (x y : Float) : Scalar.below x y = true ↔ x < y := decide_eq_true_iff
  simp only [credit, hbelow, zero_eq]
  split_ifs with hused hrecovered
  · exact .inl ⟨hused, rfl⟩
  · exact .inr (.inl ⟨hrecovered, rfl⟩)
  · exact .inr (.inr rfl)

/-- The other channels count nothing of an energy that is not above zero. -/
lemma credit_of_not_pos (hcharger : Positive totals.charger) (hgrid : Positive totals.grid)
    {c : EnergyChannel} (hc : c ≠ .battery) {delta : Float} (h : ¬ 0.0 < delta) :
    totals.credit c delta = totals := by
  have hmax := max_zero_of_not_pos h
  cases c with
  | battery => exact absurd rfl hc
  | charger => simp only [credit, hcharger.add_zero hmax]
  | grid => simp only [credit, hgrid.add_zero hmax]

end EnergyTotals

/-! ### Samples at one time -/

namespace EnergyMeter

/-- The energies of charging are zero or above. -/
structure Sound (meter : EnergyMeter Float) : Prop where
  charger : Positive meter.totals.charger
  grid : Positive meter.totals.grid

lemma sound_empty : (empty : EnergyMeter Float).Sound := by
  have hzero : Positive (Scalar.zero : Float) := zero_eq ▸ .zero
  exact ⟨hzero, hzero⟩

variable {meter : EnergyMeter Float}

lemma Sound.sample (h : meter.Sound) (c : EnergyChannel) (power : Float) (time : Nat) :
    (meter.sample c power time).Sound := by
  cases c with
  | battery =>
      simp only [EnergyMeter.sample, EnergyTotals.credit]
      split_ifs <;> exact ⟨h.charger, h.grid⟩
  | charger => exact ⟨(Grows.add_max h.charger _).1, h.grid⟩
  | grid => exact ⟨h.charger, (Grows.add_max h.grid _).1⟩

lemma Sound.reset (h : meter.Sound) (c : EnergyChannel) : (meter.reset c).Sound := by
  have hzero : Positive (Scalar.zero : Float) := zero_eq ▸ .zero
  cases c with
  | battery => exact ⟨h.charger, h.grid⟩
  | charger => exact ⟨hzero, h.grid⟩
  | grid => exact ⟨h.charger, hzero⟩

lemma Sound.recordAll (h : meter.Sound) (events : List (EnergyEvent Float)) :
    (meter.recordAll events).Sound := by
  induction events generalizing meter with
  | nil => exact h
  | cons event rest ih =>
      cases event with
      | sample c power time => exact ih (h.sample c power time)
      | reset c => exact ih (h.reset c)

/-- The energy of a sample that comes no later than the last one. -/
lemma delta_of_le {c : EnergyChannel} {last time : Nat} (hlast : meter.last.get c = some last)
    (hle : time ≤ last) (power : Float) : meter.delta c power time = power * 0.0 := by
  have hnone : (Scalar.ofNat 0 / Scalar.ofNat 3600000 : Float) = 0.0 := by decide +kernel
  rw [delta, hours, hlast]
  simp only [Nat.sub_eq_zero_of_le hle, hnone]

lemma delta_sample_self (meter : EnergyMeter Float) (c : EnergyChannel) (power : Float)
    (time : Nat) : (meter.sample c power time).delta c power time = power * 0.0 := by
  have hlast : (meter.sample c power time).last.get c = some time :=
    (LastSamples.get_set _ _ _ _).trans (if_pos rfl)
  exact delta_of_le hlast le_rfl power

/-- A product with zero is neither above nor below zero. -/
lemma mul_zero_neither (power : Float) : ¬ 0.0 < power * 0.0 ∧ ¬ power * 0.0 < 0.0 := by
  have hneither : ∀ x ∈ [0.0, -0.0, Float.nan], ¬ 0.0 < x ∧ ¬ x < 0.0 := by decide +kernel
  have hmem : power * 0.0 ∈ [0.0, -0.0, Float.nan] := by
    simpa using mul_zero_cases power
  exact hneither _ hmem

/-- The battery drops such an energy, whatever it has counted. -/
lemma credit_battery_mul_zero (totals : EnergyTotals Float) (power : Float) :
    totals.credit .battery (power * 0.0) = totals := by
  obtain ⟨habove, hbelow⟩ := mul_zero_neither power
  obtain ⟨hused, -⟩ | ⟨hrecovered, -⟩ | hcredit := totals.credit_battery_cases (power * 0.0)
  · exact absurd hused habove
  · exact absurd hrecovered hbelow
  · exact hcredit

/-- Such an energy changes no total. -/
lemma credit_mul_zero {totals : EnergyTotals Float} (hcharger : Positive totals.charger)
    (hgrid : Positive totals.grid) (c : EnergyChannel) (power : Float) :
    totals.credit c (power * 0.0) = totals := by
  by_cases hc : c = .battery
  · rw [hc, credit_battery_mul_zero]
  · exact EnergyTotals.credit_of_not_pos hcharger hgrid hc (mul_zero_neither power).1

/-- No power at all changes no total of the battery, however long it has lasted. -/
lemma totals_sample_zero (meter : EnergyMeter Float) (time : Nat) :
    (meter.sample .battery 0.0 time).totals = meter.totals := by
  have hdelta : meter.delta .battery 0.0 time = meter.hours .battery time * 0.0 := zero_mul_eq _
  rw [EnergyMeter.sample, hdelta, credit_battery_mul_zero]

/-- A sample that is counted twice at one time counts once. -/
theorem sample_sample (h : meter.Sound) (c : EnergyChannel) (power : Float) (time : Nat) :
    (meter.sample c power time).sample c power time = meter.sample c power time := by
  have hsound := h.sample c power time
  have hlast : (meter.sample c power time).last.set c (some time) =
      (meter.sample c power time).last := by
    cases c <;> rfl
  calc (meter.sample c power time).sample c power time
      = ⟨(meter.sample c power time).totals.credit c (power * 0.0),
          (meter.sample c power time).last.set c (some time)⟩ := by
        rw [EnergyMeter.sample, delta_sample_self]
    _ = meter.sample c power time := by
        rw [credit_mul_zero hsound.charger hsound.grid, hlast]

end EnergyMeter

end VehicleTelemetry
