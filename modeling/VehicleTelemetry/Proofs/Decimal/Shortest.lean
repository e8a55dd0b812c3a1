import Mathlib
import VehicleTelemetry.Decimal.Shortest
import VehicleTelemetry.Proofs.Decimal.Nearest

/-!
A float is read back from its exact and from its shortest decimal. That a float is put together
again from its bits (`Float.ofBits_toBits`) comes with no part of Mathlib but the whole.

* `Binary64.IsReduced`: the mantissas and exponents of finite floats; `Binary64.ofFloat_finite`
  puts the float together again;
* `Binary64.nearestBits_of_isReduced`: a quotient that is such a number is rounded to itself;
* `nearest_exact`, `nearest_shortest`, `toFloat_shortest`: so the exact decimal reads back, each
  hit of the search does, and dropping zeros changes no value.
-/

namespace VehicleTelemetry

namespace Binary64

open Decimal

/-- The mantissa `m` and the exponent `e` of a finite float: fifty-three bits of which the first is
set, unless the exponent is the least one. -/
structure IsReduced (m : ℕ) (e : ℤ) : Prop where
  lt : m < 2 ^ 53
  least : -1074 ≤ e
  greatest : e ≤ 971
  full : 2 ^ 52 ≤ m ∨ e = -1074

/-- The bits of a mantissa at an exponent, as `magnitudeBits` has them below infinity. -/
def reducedBits (m : ℕ) (e : ℤ) : ℕ :=
  m + (e + 1074).toNat * fractions

lemma ofFloat_finite {x : Float} {negative : Bool} {m : ℕ} {e : ℤ}
    (h : ofFloat x = .finite negative m e) :
    IsReduced m e ∧ toFloat negative (reducedBits m e) = x := by
  have hbits : x.toBits.toNat < 2 ^ 64 := x.toBits.toNat_lt
  have hx : Float.ofBits x.toBits.toNat.toUInt64 = x := by
    rw [Nat.toUInt64, UInt64.ofNat_toNat, x.ofBits_toBits]
  rw [ofFloat, ofBits] at h
  generalize x.toBits.toNat = bits at h hbits hx
  have hsign (hm : reducedBits m e = bits % 2 ^ 63) (hneg : decide (signBit ≤ bits) = negative) :
      toFloat negative (reducedBits m e) = x := by
    rw [toFloat, hm, ← hx, ← hneg]
    congr 2
    by_cases hle : signBit ≤ bits
    · rw [if_pos (decide_eq_true hle)]
      simp only [signBit] at hle ⊢
      omega
    · rw [if_neg (by simpa using hle)]
      simp only [signBit] at hle
      omega
  split at h
  · split at h <;> nomatch h
  · split at h <;> injection h with hneg hm he <;> simp only [fractions] at *
    · exact ⟨⟨by omega, by omega, by omega, .inr he.symm⟩,
        hsign (by simp only [reducedBits, fractions]; omega) hneg⟩
    · exact ⟨⟨by omega, by omega, by omega, .inl (by omega)⟩,
        hsign (by simp only [reducedBits, fractions]; omega) hneg⟩

variable {m : ℕ} {e : ℤ}

lemma reducedBits_lt (h : IsReduced m e) : reducedBits m e < infinityBits := by
  obtain ⟨hm, hleast, hgreatest, -⟩ := h
  simp only [reducedBits, infinityBits, fractions]
  omega

/-- A quotient that is `m * 2 ^ e` is rounded to it. -/
lemma nearestBits_of_isReduced (h : IsReduced m e) (hm : m ≠ 0) {num den : ℕ} (hden : den ≠ 0)
    (hvalue : (num : ℚ) / den = m * 2 ^ e) : nearestBits num den = reducedBits m e := by
  have hden' : (den : ℚ) ≠ 0 := by exact_mod_cast hden
  have hnum : (num : ℚ) = m * 2 ^ e * den := by rw [← hvalue, div_mul_cancel₀ _ hden']
  have hnum0 : num ≠ 0 := by
    have hm' : (m : ℚ) ≠ 0 := by exact_mod_cast hm
    have : (num : ℚ) ≠ 0 := by rw [hnum]; positivity
    exact_mod_cast this
  have hexponent : binade num den = e := by
    have hlog := log_mul_zpow (b := 2) (by decide) hm e
    have hlt := Nat.log_lt_of_lt_pow hm h.lt
    rw [binade_eq hnum0 hden, hvalue]
    push_cast at hlog
    rw [hlog]
    have hleast := h.least
    rcases h.full with hfull | rfl
    · have hge := Nat.le_log_of_pow_le (by decide) hfull
      omega
    · omega
  have hmantissa : magnitudeBits m e = reducedBits m e := min_eq_right (reducedBits_lt h).le
  rw [nearestBits, if_neg hnum0, hexponent]
  -- at this exponent the quotient is whole, and rounding has nothing to decide
  cases e with
  | ofNat k =>
      have hwhole : num = m * (den <<< k) := by
        rw [Int.ofNat_eq_natCast, zpow_natCast] at hnum
        rw [Nat.shiftLeft_eq, mul_comm den, ← mul_assoc]
        exact_mod_cast hnum
      dsimp only
      rw [hwhole, roundDiv_mul_self _ _ (by simp; omega), hmantissa]
  | negSucc k =>
      have hwhole : num <<< (k + 1) = m * den := by
        rw [zpow_negSucc, mul_right_comm, ← div_eq_mul_inv, eq_div_iff (by positivity)] at hnum
        rw [Nat.shiftLeft_eq]
        exact_mod_cast hnum
      dsimp only
      rw [hwhole, roundDiv_mul_self _ _ (by omega), hmantissa]

end Binary64

namespace Decimal

open Binary64

variable {m : ℕ} {e : ℤ} {tie : Tie} {magnitude : ℕ}

/-! ### The exact decimal -/

lemma value_exact (m : ℕ) (e : ℤ) : (exact m e).value = m * 2 ^ e := by
  cases e with
  | ofNat k =>
      rw [value, exact, Nat.shiftLeft_eq, Int.ofNat_eq_natCast, zpow_natCast]
      push_cast
      ring
  | negSucc k =>
      rw [value, exact, zpow_negSucc, zpow_negSucc, show (10 : ℚ) = 2 * 5 by norm_num, mul_pow,
        mul_inv, Nat.pow_eq]
      push_cast
      field_simp

/-- The least float is above `10 ^ -326`, where `nearest` gives zero without a look. -/
lemma two_pow_le : 2 ^ 1074 ≤ 10 ^ 326 := by
  decide +kernel

/-- All floats are below `10 ^ 311`, where `nearest` gives infinity without a look. -/
lemma two_pow_lt : 2 ^ 53 * 2 ^ 971 < 10 ^ 311 := by
  decide +kernel

lemma log_value_mem (h : IsReduced m e) (hm : m ≠ 0) :
    -326 ≤ Int.log 10 ((m : ℚ) * 2 ^ e) ∧ Int.log 10 ((m : ℚ) * 2 ^ e) ≤ 310 := by
  have hm' : (1 : ℚ) ≤ m := by exact_mod_cast Nat.one_le_iff_ne_zero.mpr hm
  have hpos : (0 : ℚ) < m * 2 ^ e := by positivity
  have hlow : ((10 : ℕ) : ℚ) ^ (-326 : ℤ) ≤ m * 2 ^ e :=
    calc ((10 : ℕ) : ℚ) ^ (-326 : ℤ) ≤ 2 ^ (-1074 : ℤ) := by
          rw [zpow_neg, zpow_neg]
          exact inv_anti₀ (by positivity) (by exact_mod_cast two_pow_le)
      _ ≤ 2 ^ e := zpow_le_zpow_right₀ (by norm_num) h.least
      _ ≤ m * 2 ^ e := le_mul_of_one_le_left (by positivity) hm'
  have hhigh : (m : ℚ) * 2 ^ e < ((10 : ℕ) : ℚ) ^ (311 : ℤ) :=
    calc (m : ℚ) * 2 ^ e ≤ 2 ^ 53 * 2 ^ (971 : ℤ) := by
          gcongr
          · exact_mod_cast h.lt.le
          · norm_num
          · exact h.greatest
      _ < ((10 : ℕ) : ℚ) ^ (311 : ℤ) := by
          exact_mod_cast two_pow_lt
  have h₁ := (Int.zpow_le_iff_le_log (by decide) hpos).mp hlow
  have h₂ := (Int.lt_zpow_iff_log_lt (by decide) hpos).mp hhigh
  omega

/-- The exact decimal of a float reads back as that float. -/
lemma nearest_exact (h : IsReduced m e) : (exact m e).nearest = reducedBits m e := by
  have hvalue := value_exact m e
  by_cases hm : m = 0
  · subst hm
    have hdigits : (exact 0 e).digits = 0 := value_eq_zero_iff.mp (by simp [hvalue])
    have hleast : e = -1074 := h.full.resolve_left (by decide)
    rw [nearest, if_pos hdigits, hleast]
    rfl
  · have hdigits : (exact m e).digits ≠ 0 := by
      have hm' : (m : ℚ) ≠ 0 := by exact_mod_cast hm
      rw [ne_eq, ← value_eq_zero_iff, hvalue]
      positivity
    obtain ⟨num, den, hden, hquotient, hnearest⟩ := exists_nearest hdigits
    obtain ⟨hlow, hhigh⟩ := log_value_mem h hm
    rw [hnearest, hvalue, if_neg (by omega), if_neg (by omega)]
    exact nearestBits_of_isReduced h hm hden (hquotient.trans hvalue)

/-! ### The search -/

lemma nearest_of_onGrid? {d hit : Decimal} {drop : ℕ}
    (h : onGrid? tie magnitude d drop = some hit) : hit.nearest = magnitude := by
  rw [onGrid?] at h
  split at h
  · next hlow hhigh =>
    injection h with h
    subst h
    split
    · exact of_decide_eq_true hlow
    · exact of_decide_eq_true hhigh
  · next hlow _ =>
    injection h with h
    exact h ▸ of_decide_eq_true hlow
  · next _ hhigh =>
    injection h with h
    exact h ▸ of_decide_eq_true hhigh
  · nomatch h

/-- Every grid on the way has a hit that reads back, or is passed over. -/
lemma nearest_search {d : Decimal} (hd : d.nearest = magnitude) (drop : ℕ) :
    (search tie magnitude d drop).nearest = magnitude := by
  induction drop with
  | zero => exact hd
  | succ drop ih =>
      rw [search]
      cases hhit : onGrid? tie magnitude d (drop + 1) with
      | none => exact ih
      | some hit => exact nearest_of_onGrid? hhit

lemma value_dropZeros (fuel : ℕ) (d : Decimal) : (dropZeros fuel d).value = d.value := by
  induction fuel generalizing d with
  | zero => rfl
  | succ fuel ih =>
      rw [dropZeros]
      split
      · next hzero =>
        have hdigits : d.digits = d.digits / 10 * 10 := by omega
        rw [ih, value, value]
        conv_rhs => rw [hdigits]
        push_cast
        rw [zpow_add_one₀ (by norm_num)]
        ring
      · rfl

lemma value_normalize (d : Decimal) : d.normalize.value = d.value := by
  rw [normalize]
  split
  · next hzero => simp [value, hzero]
  · exact value_dropZeros _ _

lemma nearest_shortest (tie : Tie) (h : IsReduced m e) :
    (shortest tie m e).nearest = reducedBits m e := by
  rw [shortest, nearest_congr (value_normalize _), nearest_search rfl, nearest_exact h]

/-- The shortest decimal of a finite float reads back as that float, bit for bit. -/
theorem toFloat_shortest {x : Float} {negative : Bool} (tie : Tie)
    (h : ofFloat x = .finite negative m e) : (shortest tie m e).toFloat negative = x := by
  obtain ⟨hreduced, hx⟩ := ofFloat_finite h
  rw [Decimal.toFloat, nearest_shortest tie hreduced, hx]

end Decimal

end VehicleTelemetry
