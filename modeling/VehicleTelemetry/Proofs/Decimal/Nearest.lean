import Mathlib.Data.Int.Log
import Mathlib.Tactic
import VehicleTelemetry.Decimal.Binary64

/-!
The float nearest to a decimal depends on its value alone.

* `Decimal.value`: the number that a decimal stands for; `scale_eq` is its leading power of ten;
* `binade_eq`: the exponent of a quotient is its leading power of two, fifty-two places down;
* `nearestBits_congr`, `nearest_congr`: equal quotients, and decimals of equal value, are
  rounded alike.
-/

namespace VehicleTelemetry

/-- The leading power of a number of units of a power. -/
lemma log_mul_zpow {b n : ℕ} (hb : 1 < b) (hn : n ≠ 0) (k : ℤ) :
    Int.log b ((n : ℚ) * (b : ℚ) ^ k) = Nat.log b n + k := by
  have hbase : (0 : ℚ) < b := by exact_mod_cast Nat.zero_lt_of_lt hb
  have hn : (0 : ℚ) < n := by exact_mod_cast Nat.pos_of_ne_zero hn
  refine eq_of_forall_le_iff fun j => ?_
  calc j ≤ Int.log b ((n : ℚ) * (b : ℚ) ^ k)
      ↔ (b : ℚ) ^ j ≤ n * (b : ℚ) ^ k := (Int.zpow_le_iff_le_log hb (by positivity)).symm
    _ ↔ (b : ℚ) ^ (j - k) ≤ n := by
        rw [zpow_sub₀ hbase.ne', div_le_iff₀ (by positivity)]
    _ ↔ j - k ≤ Nat.log b n := by rw [Int.zpow_le_iff_le_log hb hn, Int.log_natCast]
    _ ↔ j ≤ Nat.log b n + k := sub_le_iff_le_add

namespace Decimal

/-! ### Quotients -/

lemma roundDiv_mul_right (tie : Tie) (num den : ℕ) {c : ℕ} (hc : 0 < c) :
    roundDiv tie (num * c) (den * c) = roundDiv tie num den := by
  have htwice (x y : ℕ) : 2 * (x * c) < y * c ↔ 2 * x < y := by
    rw [← mul_assoc, Nat.mul_lt_mul_right hc]
  have htwice' (x y : ℕ) : y * c < 2 * (x * c) ↔ y < 2 * x := by
    rw [← mul_assoc, Nat.mul_lt_mul_right hc]
  simp only [roundDiv, Nat.mul_div_mul_right _ _ hc, Nat.mul_mod_mul_right, htwice, htwice']

/-- Equal quotients are rounded alike. -/
lemma roundDiv_congr (tie : Tie) {num den num' den' : ℕ} (hden : 0 < den) (hden' : 0 < den')
    (h : num * den' = num' * den) : roundDiv tie num den = roundDiv tie num' den' := by
  rw [← roundDiv_mul_right tie num den hden', ← roundDiv_mul_right tie num' den' hden, h,
    Nat.mul_comm den' den]

/-- A whole number is its own rounding. -/
lemma roundDiv_mul_self (tie : Tie) (m : ℕ) {den : ℕ} (hden : 0 < den) :
    roundDiv tie (m * den) den = m := by
  simp [roundDiv, hden]

end Decimal

namespace Binary64

open Decimal

/-- The comparison that `binade` makes. -/
lemma shift_le_iff (num : ℕ) {den : ℕ} (hden : den ≠ 0) (k : ℤ) :
    (match k with
      | .ofNat e => decide (den <<< e ≤ num)
      | .negSucc e => decide (den ≤ num <<< (e + 1))) = true ↔ (2 : ℚ) ^ k ≤ num / den := by
  have hden : (0 : ℚ) < den := by exact_mod_cast Nat.pos_of_ne_zero hden
  rw [le_div_iff₀ hden]
  cases k with
  | ofNat e =>
      rw [decide_eq_true_iff, Nat.shiftLeft_eq, Int.ofNat_eq_natCast, zpow_natCast, mul_comm]
      exact_mod_cast Iff.rfl
  | negSucc e =>
      rw [decide_eq_true_iff, Nat.shiftLeft_eq, zpow_negSucc, inv_mul_le_iff₀ (by positivity),
        mul_comm num]
      exact_mod_cast Iff.rfl

/-- The leading power of a quotient is the difference of those of its parts, or one below. -/
lemma log_div {num den : ℕ} (hnum : num ≠ 0) (hden : den ≠ 0) :
    Int.log 2 ((num : ℚ) / den) = (num.log2 : ℤ) - den.log2 ∨
      Int.log 2 ((num : ℚ) / den) = (num.log2 : ℤ) - den.log2 - 1 := by
  have hnum' : (0 : ℚ) < num := by exact_mod_cast Nat.pos_of_ne_zero hnum
  have hden' : (0 : ℚ) < den := by exact_mod_cast Nat.pos_of_ne_zero hden
  have hpos : (0 : ℚ) < (num : ℚ) / den := by positivity
  have hnumlow : (2 : ℚ) ^ (num.log2 : ℤ) ≤ num := by exact_mod_cast Nat.log2_self_le hnum
  have hnumhigh : (num : ℚ) < 2 ^ (num.log2 + 1 : ℤ) := by exact_mod_cast Nat.lt_log2_self
  have hdenlow : (2 : ℚ) ^ (den.log2 : ℤ) ≤ den := by exact_mod_cast Nat.log2_self_le hden
  have hdenhigh : (den : ℚ) < 2 ^ (den.log2 + 1 : ℤ) := by exact_mod_cast Nat.lt_log2_self
  -- each number lies between two powers of two, which leaves two exponents for the quotient
  have hlow : (num.log2 : ℤ) - den.log2 - 1 ≤ Int.log 2 ((num : ℚ) / den) := by
    rw [← Int.zpow_le_iff_le_log (by decide) hpos, le_div_iff₀ hden']
    calc (2 : ℚ) ^ ((num.log2 : ℤ) - den.log2 - 1) * den
        ≤ 2 ^ ((num.log2 : ℤ) - den.log2 - 1) * 2 ^ (den.log2 + 1 : ℤ) := by gcongr
      _ = 2 ^ (num.log2 : ℤ) := by rw [← zpow_add₀ two_ne_zero]; congr 1; ring
      _ ≤ num := hnumlow
  have hhigh : Int.log 2 ((num : ℚ) / den) < (num.log2 : ℤ) - den.log2 + 1 := by
    rw [← Int.lt_zpow_iff_log_lt (by decide) hpos, div_lt_iff₀ hden']
    calc (num : ℚ) < 2 ^ (num.log2 + 1 : ℤ) := hnumhigh
      _ = 2 ^ ((num.log2 : ℤ) - den.log2 + 1) * 2 ^ (den.log2 : ℤ) := by
        rw [← zpow_add₀ two_ne_zero]; congr 1; ring
      _ ≤ 2 ^ ((num.log2 : ℤ) - den.log2 + 1) * den := by gcongr
  omega

/-- The exponent of a quotient goes by its leading power of two. -/
lemma binade_eq {num den : ℕ} (hnum : num ≠ 0) (hden : den ≠ 0) :
    binade num den = max (-1074) (Int.log 2 ((num : ℚ) / den) - 52) := by
  have hpos : (0 : ℚ) < (num : ℚ) / den := by
    have hnum' : (0 : ℚ) < num := by exact_mod_cast Nat.pos_of_ne_zero hnum
    have hden' : (0 : ℚ) < den := by exact_mod_cast Nat.pos_of_ne_zero hden
    positivity
  have hreached := shift_le_iff num hden ((num.log2 : ℤ) - den.log2 - 53 + 53)
  rw [← Nat.cast_two, Int.zpow_le_iff_le_log (by decide) hpos] at hreached
  rw [binade]
  congr 1
  rcases log_div hnum hden with hlog | hlog
  · refine (if_pos (hreached.mpr (by omega))).trans ?_
    omega
  · refine (if_neg fun h => ?_).trans ?_
    · have := hreached.mp h
      omega
    · omega

/-- Equal quotients are rounded to the same float. -/
lemma nearestBits_congr {num den num' den' : ℕ} (hden : den ≠ 0) (hden' : den' ≠ 0)
    (h : (num : ℚ) / den = num' / den') : nearestBits num den = nearestBits num' den' := by
  have hcross : num * den' = num' * den := by
    rw [div_eq_div_iff (by exact_mod_cast hden) (by exact_mod_cast hden')] at h
    exact_mod_cast h
  by_cases hnum : num = 0
  · have hnum' : num' = 0 := by simpa [hnum, hden] using hcross
    rw [hnum, hnum', nearestBits, nearestBits, if_pos rfl, if_pos rfl]
  · have hnum' : num' ≠ 0 := fun h0 => hnum (by simpa [h0, hden'] using hcross)
    have hexponent : binade num den = binade num' den' := by
      rw [binade_eq hnum hden, binade_eq hnum' hden', h]
    rw [nearestBits, nearestBits, if_neg hnum, if_neg hnum', hexponent]
    cases binade num' den' with
    | ofNat e =>
        refine congrArg (magnitudeBits · _) (roundDiv_congr _ (by simp; omega) (by simp; omega) ?_)
        simp only [Nat.shiftLeft_eq, ← mul_assoc, hcross]
    | negSucc e =>
        refine congrArg (magnitudeBits · _) (roundDiv_congr _ (by omega) (by omega) ?_)
        rw [Nat.shiftLeft_eq, Nat.shiftLeft_eq, mul_right_comm, hcross, mul_right_comm]

end Binary64

/-! ### Decimals -/

namespace Decimal

open Binary64

/-- The number that a decimal stands for. -/
def value (d : Decimal) : ℚ :=
  d.digits * (10 : ℚ) ^ d.exponent

variable {d other : Decimal}

lemma value_eq_zero_iff : d.value = 0 ↔ d.digits = 0 := by
  have hpow : (10 : ℚ) ^ d.exponent ≠ 0 := by positivity
  simp [value, hpow]

lemma digitCount_eq {n : ℕ} (hn : n ≠ 0) : digitCount n = Nat.log 10 n + 1 := by
  have hle (k : ℕ) (hk : 0 < k) : digitCount n ≤ k ↔ Nat.log 10 n < k := by
    rw [digitCount, Nat.length_toDigits_le_iff (by decide) hk, Nat.log_lt_iff_lt_pow (by decide) hn]
  refine le_antisymm ((hle _ (by omega)).mpr (by omega)) ?_
  exact (hle _ Nat.length_toDigits_pos).mp le_rfl

/-- The scale of a decimal is the leading power of ten of its value. -/
lemma scale_eq (hd : d.digits ≠ 0) : d.scale = Int.log 10 d.value := by
  have hlog := log_mul_zpow (b := 10) (by decide) hd d.exponent
  rw [scale, digitCount_eq hd, value]
  push_cast at hlog ⊢
  omega

/-- The value of a decimal as the quotient that is rounded. -/
lemma exists_nearest (hd : d.digits ≠ 0) :
    ∃ num den : ℕ, den ≠ 0 ∧ (num : ℚ) / den = d.value ∧
      d.nearest = if Int.log 10 d.value < -326 then 0
        else if 310 < Int.log 10 d.value then infinityBits else nearestBits num den := by
  have htenPow (n : ℕ) : (tenPow n : ℚ) = 10 ^ n := by
    rw [tenPow]
    exact_mod_cast rfl
  rw [nearest, if_neg hd, scale_eq hd]
  cases hexponent : d.exponent with
  | ofNat e =>
      refine ⟨_, 1, one_ne_zero, ?_, rfl⟩
      rw [value, hexponent, Int.ofNat_eq_natCast, zpow_natCast]
      push_cast [htenPow]
      ring
  | negSucc e =>
      refine ⟨d.digits, tenPow (e + 1), (Nat.pow_pos (by decide)).ne', ?_, rfl⟩
      rw [value, hexponent, zpow_negSucc, htenPow]
      ring

/-- Decimals of equal value are rounded to the same float. -/
theorem nearest_congr (h : d.value = other.value) : d.nearest = other.nearest := by
  by_cases hd : d.digits = 0
  · have hother : other.digits = 0 := by
      rw [← value_eq_zero_iff, ← h, value_eq_zero_iff, hd]
    rw [nearest, nearest, if_pos hd, if_pos hother]
  · have hother : other.digits ≠ 0 := by
      rwa [ne_eq, ← value_eq_zero_iff, ← h, value_eq_zero_iff]
    obtain ⟨num, den, hden, hvalue, hnearest⟩ := exists_nearest hd
    obtain ⟨num', den', hden', hvalue', hnearest'⟩ := exists_nearest hother
    rw [hnearest, hnearest', h, nearestBits_congr hden hden' (by rw [hvalue, hvalue', h])]

/-- Nothing is rounded to more than infinity. -/
lemma nearest_le (d : Decimal) : d.nearest ≤ infinityBits := by
  have hbits (num den : ℕ) : nearestBits num den ≤ infinityBits := by
    rw [nearestBits]
    split
    · exact Nat.zero_le _
    · exact min_le_left _ _
  rw [nearest]
  split_ifs
  · exact Nat.zero_le _
  · exact Nat.zero_le _
  · exact le_rfl
  · split
    · exact hbits _ _
    · exact hbits _ _

end Decimal

end VehicleTelemetry
