import Mathlib.Tactic
import VehicleTelemetry.Energy.Sampling
import VehicleTelemetry.Proofs.Energy.Repeated

/-!
What a meter has counted is a number, and it only grows.

Powers and times may be anything: a power that is not a number, an infinite one over no time at
all, a clock that steps back. What keeps a total a number is that only what compares above zero is
added to it, and that what is taken away from it compares below.

* `EnergyTotals.sign_of_credit_battery`: which total of the battery has changed says of which sign
  the energy was;
* `EnergyTotals.grows_credit`: no energy shrinks when another one is counted, and with it all
  totals keep their sign (`Sound.credit`, `sound_totals_recordAll`);
* `EnergyMeter.totals_sample_of_le`: a sample that comes no later than the one before it counts for
  nothing;
* `EnergyMeter.totals_history` puts these together for a meter with a history.
-/

namespace VehicleTelemetry

open Binary64

/-! ### Energies -/

namespace EnergyTotals

variable {totals : EnergyTotals Float}

/-- Which total of the battery has changed says of which sign the energy was. -/
lemma sign_of_credit_battery (totals : EnergyTotals Float) (delta : Float) :
    ((totals.credit .battery delta).used = totals.used ∨
        (totals.credit .battery delta).recovered = totals.recovered) ∧
      ((totals.credit .battery delta).used ≠ totals.used → 0.0 < delta) ∧
      ((totals.credit .battery delta).recovered ≠ totals.recovered → delta < 0.0) := by
  obtain ⟨hdelta, hcredit⟩ | ⟨hdelta, hcredit⟩ | hcredit := totals.credit_battery_cases delta
  · rw [hcredit]
    exact ⟨.inr rfl, fun _ => hdelta, fun h => absurd rfl h⟩
  · rw [hcredit]
    exact ⟨.inl rfl, fun h => absurd rfl h, fun _ => hdelta⟩
  · rw [hcredit]
    exact ⟨.inl rfl, fun h => absurd rfl h, fun h => absurd rfl h⟩

/-- All energies are of positive sign. -/
def Sound (totals : EnergyTotals Float) : Prop :=
  ∀ c, ∀ total ∈ totals.counted c, Positive total

lemma Sound.used (h : totals.Sound) : Positive totals.used :=
  h .battery _ (List.mem_cons_self ..)

lemma Sound.recovered (h : totals.Sound) : Positive totals.recovered :=
  h .battery _ (List.mem_cons_of_mem _ (List.mem_singleton_self _))

lemma Sound.charger (h : totals.Sound) : Positive totals.charger :=
  h .charger _ (List.mem_singleton_self _)

lemma Sound.grid (h : totals.Sound) : Positive totals.grid :=
  h .grid _ (List.mem_singleton_self _)

/-- No energy is less than it was when another one has been counted. -/
lemma grows_credit (h : totals.Sound) (c : EnergyChannel) (delta : Float) (d : EnergyChannel) :
    List.Forall₂ Grows (totals.counted d) ((totals.credit c delta).counted d) := by
  by_cases hsame : d = c
  · subst hsame
    cases d with
    | battery =>
        obtain ⟨hdelta, hcredit⟩ | ⟨hdelta, hcredit⟩ | hcredit := totals.credit_battery_cases delta
        · rw [hcredit]
          exact .cons (.add h.used (signed_of_pos hdelta)) (.cons (.refl h.recovered) .nil)
        · rw [hcredit]
          exact .cons (.refl h.used) (.cons (.sub h.recovered hdelta) .nil)
        · rw [hcredit]
          exact .cons (.refl h.used) (.cons (.refl h.recovered) .nil)
    | charger => exact .cons (.add_max h.charger delta) .nil
    | grid => exact .cons (.add_max h.grid delta) .nil
  · rw [EnergyMeter.counted_credit_of_ne totals hsame]
    exact List.forall₂_same.mpr fun total hmem => .refl (h d total hmem)

lemma Sound.credit (h : totals.Sound) (c : EnergyChannel) (delta : Float) :
    (totals.credit c delta).Sound := by
  intro d
  exact ((List.forall₂_and_left _ _).mp (grows_credit h c delta d).flip).1

lemma Sound.zero : (EnergyTotals.zero : EnergyTotals Float).Sound := by
  have hzero : Positive (Scalar.zero : Float) := zero_eq ▸ .zero
  intro c
  cases c <;> simpa [counted, EnergyTotals.zero] using hzero

lemma Sound.clear (h : totals.Sound) (c : EnergyChannel) : (totals.clear c).Sound := by
  intro d
  by_cases hsame : d = c
  · subst hsame
    have hzero := Sound.zero d
    cases d <;> exact hzero
  · rw [EnergyMeter.counted_clear_of_ne totals hsame]
    exact h d

end EnergyTotals

namespace EnergyMeter

lemma sound_totals_recordAll {meter : EnergyMeter Float} (h : meter.totals.Sound)
    (events : List (EnergyEvent Float)) : (meter.recordAll events).totals.Sound := by
  induction events generalizing meter with
  | nil => exact h
  | cons event rest ih =>
      cases event with
      | sample c power time => exact ih (h.credit c _)
      | reset c => exact ih (h.clear c)

/-- A sample that comes no later than the one before it counts for nothing. -/
lemma totals_sample_of_le {meter : EnergyMeter Float} (h : meter.totals.Sound) {c : EnergyChannel}
    {last time : Nat} (hlast : meter.last.get c = some last) (hle : time ≤ last) (power : Float) :
    (meter.sample c power time).totals = meter.totals := by
  rw [sample, delta_of_le hlast hle]
  exact credit_mul_zero h.charger h.grid c power

/-- **What a meter has counted never shrinks.** After any samples and resets of a new meter, of
any powers and at any times in any order, every total is a number and at least zero. A further
sample lowers none of them. One of the battery raises one total at most, `used` only with an energy
above zero and `recovered` only with one below; one of another channel raises nothing unless its
energy is above zero; and one that comes no later than the channel's sample before it, if there was
one since the last reset, changes no total at all. -/
theorem totals_history (events : List (EnergyEvent Float)) :
    let meter := (empty : EnergyMeter Float).recordAll events
    (∀ c, ∀ total ∈ meter.totals.counted c, total.isNaN = false ∧ 0.0 ≤ total) ∧
    ∀ (c : EnergyChannel) (power : Float) (now : Nat),
      let result := (meter.integrate c power now).value
      let next := result.1
      let delta := result.2
      (∀ d, List.Forall₂ (· ≤ ·) (meter.totals.counted d) (next.totals.counted d)) ∧
      (c = .battery →
        (next.totals.used = meter.totals.used ∨ next.totals.recovered = meter.totals.recovered) ∧
        (next.totals.used ≠ meter.totals.used → 0.0 < delta) ∧
        (next.totals.recovered ≠ meter.totals.recovered → delta < 0.0)) ∧
      (c ≠ .battery → ¬ 0.0 < delta → next.totals = meter.totals) ∧
      (∀ last, (samplesSinceReset c events).getLast?.map Prod.snd = some last → now ≤ last →
        next.totals = meter.totals) := by
  intro meter
  have hsound : meter.totals.Sound := sound_totals_recordAll .zero events
  refine ⟨fun c total hmem => ⟨(hsound c total hmem).isNaN_eq, (hsound c total hmem).zero_le⟩, ?_⟩
  intro c power now result next delta
  refine ⟨?_, ?_, ?_, ?_⟩
  · intro d
    exact (EnergyTotals.grows_credit hsound c delta d).imp fun _ _ hgrows => hgrows.2
  · rintro rfl
    exact meter.totals.sign_of_credit_battery delta
  · intro hc hdelta
    exact EnergyTotals.credit_of_not_pos hsound.charger hsound.grid hc hdelta
  -- no time has passed since the last sample, and zero times any power credits nothing
  · intro last hlast hle
    exact totals_sample_of_le hsound ((last_recordAll events c).trans hlast) hle power

/-- The charger has had an infinite power and then the same again at once, which is an energy that
is not a number. -/
theorem totals_history_infinite_power :
    let events := [.sample .charger (1.0 / 0.0) 1000, .sample .charger (1.0 / 0.0) 1000]
    let meter := (empty : EnergyMeter Float).recordAll events
    let discharged := (meter.integrate .battery 36.0 1000).value
    let charged := (meter.integrate .battery (-36.0) 1000).value
    let unknown := (meter.integrate .grid Float.nan 1000).value
    let late := (meter.integrate .charger 7.2 400).value
    ((meter.totals.charger ∈ meter.totals.counted .charger) ∧ meter.totals.charger.isNaN = false ∧
      0.0 ≤ meter.totals.charger) ∧
    (discharged.1.totals.used ≠ meter.totals.used ∧ 0.0 < discharged.2) ∧
    (charged.1.totals.recovered ≠ meter.totals.recovered ∧ charged.2 < 0.0) ∧
    (¬ 0.0 < unknown.2 ∧ unknown.1.totals = meter.totals) ∧
    ((samplesSinceReset .charger events).getLast?.map Prod.snd = some 1000 ∧
      late.1.totals = meter.totals) := by
  intro events meter discharged charged unknown late
  obtain ⟨hcounted, hsample⟩ := totals_history events
  obtain ⟨-, hdischarged, -⟩ := hsample .battery 36.0 1000
  obtain ⟨-, hcharged, -⟩ := hsample .battery (-36.0) 1000
  obtain ⟨-, -, hunknown, -⟩ := hsample .grid Float.nan 1000
  obtain ⟨-, -, -, hlate⟩ := hsample .charger 7.2 400
  have hmem : meter.totals.charger ∈ meter.totals.counted .charger := List.mem_singleton_self _
  have hused : discharged.1.totals.used ≠ meter.totals.used := by decide +kernel
  have hrecovered : charged.1.totals.recovered ≠ meter.totals.recovered := by decide +kernel
  have hnone : ¬ 0.0 < unknown.2 := by decide +kernel
  exact ⟨⟨hmem, hcounted .charger _ hmem⟩, ⟨hused, (hdischarged rfl).2.1 hused⟩,
    ⟨hrecovered, (hcharged rfl).2.2 hrecovered⟩, ⟨hnone, hunknown (by decide) hnone⟩,
    ⟨rfl, hlate 1000 rfl (by decide)⟩⟩

end EnergyMeter

end VehicleTelemetry
