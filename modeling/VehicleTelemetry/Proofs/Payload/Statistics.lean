import Mathlib.Analysis.Real.Sqrt
import Mathlib.Tactic
import VehicleTelemetry.Payload.Statistics
import VehicleTelemetry.Proofs.Exact

/-!
The statistics of a list, taken in one pass, against their definitions.

* `summary?_eq_none_iff`: in any arithmetic, only an empty list has no summary;
* `isLeast_foldl_min`, `isGreatest_foldl_max`: the extremes, for values that are finite;
* `mean_mul_length`, `deviation_ofList`: what the recurrence keeps is the sum of the values and the
  sum of their squares, in exact arithmetic; `variance_ofList` is the definition of the variance;
* `ofList_perm`: the order of the values does not count;
* `summary_exact` puts these together.
-/

namespace VehicleTelemetry

lemma summary?_eq_none_iff {α ρ : Type} [Scalar α] (root : α → ρ) (values : List α) :
    summary? root values = none ↔ values = [] := by
  rw [summary?]
  split_ifs with hempty
  · simpa using hempty
  · simpa using hempty

/-! ### The least of a list -/

section Extremes

variable {α : Type} [LinearOrder α] {start : α} {values : List α}

/-- A fold begins with a value that counts as well. -/
lemma isLeast_insert_foldl_min (start : α) (values : List α) :
    IsLeast (insert start {v | v ∈ values}) (values.foldl min start) := by
  induction values using List.reverseRecOn with
  | nil => simp
  | append_singleton values value ih =>
      have hset : insert start {v | v ∈ values ++ [value]} =
          insert value (insert start {v | v ∈ values}) := by
        ext v
        simp only [List.mem_append, List.mem_singleton, Set.mem_insert_iff, Set.mem_ofPred_eq]
        tauto
      rw [hset, List.foldl_concat, min_comm]
      exact ih.insert value

/-- If it is no less than any member of the list, the fold is the least of these. -/
lemma isLeast_foldl_min (hne : values ≠ []) (hstart : ∀ v ∈ values, v ≤ start) :
    IsLeast {v | v ∈ values} (values.foldl min start) := by
  obtain ⟨hmem, hlower⟩ := isLeast_insert_foldl_min start values
  refine ⟨?_, fun v hv => hlower (.inr hv)⟩
  obtain hequal | hvalue := hmem
  · obtain ⟨v, hv⟩ := List.exists_mem_of_ne_nil values hne
    have hle : values.foldl min start ≤ v := hlower (.inr hv)
    rwa [le_antisymm hle ((hstart v hv).trans hequal.ge)]
  · exact hvalue

lemma isGreatest_foldl_max (hne : values ≠ []) (hstart : ∀ v ∈ values, start ≤ v) :
    IsGreatest {v | v ∈ values} (values.foldl max start) :=
  @isLeast_foldl_min αᵒᵈ _ start values hne hstart

end Extremes

attribute [ext] Moments

namespace Moments

open Exact

lemma ofList_concat (values : List ℚ) (value : ℚ) :
    ofList (values ++ [value]) = (ofList values).push value := by
  rw [ofList, List.foldl_append]
  rfl

lemma count_ofList (values : List ℚ) : (ofList values).count = values.length := by
  induction values using List.reverseRecOn with
  | nil => rfl
  | append_singleton values value ih =>
      rw [ofList_concat, List.length_append, List.length_singleton, ← ih]
      rfl

/-! ### The extremes -/

lemma least_ofList (values : List ℚ) :
    (ofList values).least = values.foldl min Scalar.largest := by
  induction values using List.reverseRecOn with
  | nil => rfl
  | append_singleton values value ih =>
      rw [ofList_concat, List.foldl_append, ← ih]
      exact min_eq_min _ _

lemma greatest_ofList (values : List ℚ) :
    (ofList values).greatest = values.foldl max (-Scalar.largest) := by
  induction values using List.reverseRecOn with
  | nil => exact zero_sub _
  | append_singleton values value ih =>
      rw [ofList_concat, List.foldl_append, ← ih]
      exact max_eq_max _ _

/-! ### Mean and spread -/

lemma mean_mul_length (values : List ℚ) : (ofList values).mean * values.length = values.sum := by
  induction values using List.reverseRecOn with
  | nil => simp
  | append_singleton values value ih =>
      have hpos : (values.length : ℚ) + 1 ≠ 0 := by positivity
      have hmean : (ofList (values ++ [value])).mean =
          (ofList values).mean + (value - (ofList values).mean) / ((values.length : ℚ) + 1) := by
        rw [ofList_concat, ← count_ofList]
        simp [push]
      rw [hmean, List.sum_append, List.sum_singleton, ← ih, List.length_append,
        List.length_singleton, Nat.cast_add, Nat.cast_one]
      field_simp
      ring

lemma mean_ofList {values : List ℚ} (hne : values ≠ []) :
    (ofList values).mean = values.sum / values.length := by
  rw [eq_div_iff (by simpa using hne), mean_mul_length]

/-- The deviations from the old and the new mean make up for the change of the mean. -/
lemma deviation_ofList (values : List ℚ) :
    (ofList values).deviation =
      (values.map (· ^ 2)).sum - values.sum * (ofList values).mean := by
  induction values using List.reverseRecOn with
  | nil => simp [ofList, empty]
  | append_singleton values value ih =>
      have hpush : (ofList (values ++ [value])).deviation = (ofList values).deviation +
          (value - (ofList values).mean) * (value - (ofList (values ++ [value])).mean) := by
        rw [ofList_concat]
        rfl
      have hold := mean_mul_length values
      have hnew := mean_mul_length (values ++ [value])
      rw [List.sum_append, List.sum_singleton, List.length_append, List.length_singleton,
        Nat.cast_add, Nat.cast_one] at hnew
      rw [hpush, ih, List.map_append, List.sum_append, List.sum_append, List.map_singleton,
        List.sum_singleton, List.sum_singleton]
      linear_combination (ofList values).mean * hnew - (ofList (values ++ [value])).mean * hold

/-- The squared deviations from any point, multiplied out. -/
lemma sum_sq_sub (values : List ℚ) (point : ℚ) :
    (values.map fun v => (v - point) ^ 2).sum =
      (values.map (· ^ 2)).sum - 2 * point * values.sum + values.length * point ^ 2 := by
  induction values with
  | nil => simp
  | cons v rest ih =>
      simp only [List.map_cons, List.sum_cons, List.length_cons, ih]
      push_cast
      ring

lemma variance_ofList {values : List ℚ} (hne : values ≠ []) :
    (ofList values).variance =
      (values.map fun v => (v - values.sum / values.length) ^ 2).sum / values.length := by
  have hmean := mean_mul_length values
  rw [← mean_ofList hne, sum_sq_sub, variance, deviation_ofList, count_ofList, ofNat_eq]
  congr 1
  linear_combination -(ofList values).mean * hmean

lemma variance_nonneg {values : List ℚ} (hne : values ≠ []) : 0 ≤ (ofList values).variance := by
  rw [variance_ofList hne]
  exact div_nonneg (List.sum_nonneg (List.forall_mem_map.mpr fun v _ => sq_nonneg _))
    (Nat.cast_nonneg _)

/-- Without rounding no variance is negative, and none counts as zero that is not. -/
lemma max_variance {values : List ℚ} (hne : values ≠ []) :
    Scalar.max (ofList values).variance Scalar.zero = (ofList values).variance := by
  rw [max_eq_max, zero_eq_zero, max_eq_left (variance_nonneg hne)]

lemma variance_eq_zero_iff {values : List ℚ} (hne : values ≠ []) :
    (ofList values).variance = 0 ↔ ∀ v ∈ values, ∀ w ∈ values, v = w := by
  have hlength : (values.length : ℚ) ≠ 0 := by simpa using hne
  rw [variance_ofList hne, ← mean_ofList hne, div_eq_zero_iff, or_iff_left hlength]
  constructor
  -- squares that add up to zero are all zero, so every value is the mean
  · intro hsum
    have hmean : ∀ v ∈ values, v = (ofList values).mean := by
      intro v hv
      have hnonneg : ∀ square ∈ values.map fun v => (v - (ofList values).mean) ^ 2, 0 ≤ square :=
        List.forall_mem_map.mpr fun v _ => sq_nonneg _
      have hzero : (v - (ofList values).mean) ^ 2 = 0 :=
        List.all_zero_of_le_zero_le_of_sum_eq_zero hnonneg hsum (List.mem_map_of_mem hv)
      exact sub_eq_zero.mp (pow_eq_zero_iff two_ne_zero |>.mp hzero)
    exact fun v hv w hw => (hmean v hv).trans (hmean w hw).symm
  · intro hequal
    obtain ⟨v, hv⟩ := List.exists_mem_of_ne_nil values hne
    have hconstant : values = List.replicate values.length v :=
      List.eq_replicate_of_mem fun w hw => hequal w hw v hv
    have hmean : (ofList values).mean = v := by
      rw [mean_ofList hne, div_eq_iff hlength, hconstant]
      simp [mul_comm]
    refine List.sum_eq_zero (List.forall_mem_map.mpr fun w hw => ?_)
    rw [hmean, hequal w hw v hv, sub_self, zero_pow two_ne_zero]

/-- No moment of a list depends on its order. -/
lemma ofList_perm {values other : List ℚ} (h : other.Perm values) :
    ofList other = ofList values := by
  have hmean : (ofList other).mean = (ofList values).mean := by
    obtain rfl | hne := eq_or_ne values []
    · rw [h.eq_nil]
    · have hother : other ≠ [] := fun hnil => hne (hnil ▸ h).symm.eq_nil
      rw [mean_ofList hne, mean_ofList hother, h.sum_eq, h.length_eq]
  have hcount : (ofList other).count = (ofList values).count := by
    rw [count_ofList, count_ofList, h.length_eq]
  have hleast : (ofList other).least = (ofList values).least := by
    rw [least_ofList, least_ofList, h.foldl_eq]
  have hgreatest : (ofList other).greatest = (ofList values).greatest := by
    rw [greatest_ofList, greatest_ofList, h.foldl_eq]
  have hdeviation : (ofList other).deviation = (ofList values).deviation := by
    rw [deviation_ofList, deviation_ofList, hmean, h.sum_eq, (h.map _).sum_eq]
  exact Moments.ext hcount hleast hgreatest hmean hdeviation

/-- The mean lies between any bounds of the values. -/
lemma mean_mem_Icc {values : List ℚ} (hne : values ≠ []) {lower upper : ℚ}
    (hlower : ∀ v ∈ values, lower ≤ v) (hupper : ∀ v ∈ values, v ≤ upper) :
    (ofList values).mean ∈ Set.Icc lower upper := by
  have hlength : 0 < (values.length : ℚ) := by simpa [List.length_pos_iff] using hne
  rw [mean_ofList hne, Set.mem_Icc, le_div_iff₀ hlength, div_le_iff₀ hlength]
  constructor
  · simpa [mul_comm] using List.card_nsmul_le_sum values lower hlower
  · simpa [mul_comm] using List.sum_le_card_nsmul values upper hupper

end Moments

/-- **One pass gives the statistics by their definitions.** There are no statistics of an empty
list, and else they are the summary of the list with the square root that the arithmetic has.
Without rounding, and whatever root is taken, the extremes of finite values are the least and the
greatest of them, the mean is their sum by their number, and the root is taken of the population
variance. This is never negative, so that no variance has to count as zero. The mean lies between
the extremes, the standard deviation is zero if and only if all values are equal, and a list in
another order has the same summary. -/
theorem summary_exact :
    (∀ readings : List Float,
      Statistics.ofList? readings = summary? Float.sqrt readings ∧
      (Statistics.ofList? readings = none ↔ readings = [])) ∧
    ∀ values : List ℚ, values ≠ [] →
      (∀ v ∈ values, -Scalar.largest ≤ v ∧ v ≤ Scalar.largest) →
      ∃ least greatest mean variance : ℚ,
        (∀ {ρ : Type} (root : ℚ → ρ),
          summary? root values = some ⟨least, greatest, mean, root variance⟩) ∧
        IsLeast {v | v ∈ values} least ∧ IsGreatest {v | v ∈ values} greatest ∧
        mean = values.sum / values.length ∧
        variance = (values.map fun v => (v - mean) ^ 2).sum / values.length ∧
        (Moments.ofList values).variance = variance ∧ 0 ≤ variance ∧
        least ≤ mean ∧ mean ≤ greatest ∧
        (√(variance : ℝ) = 0 ↔ ∀ v ∈ values, ∀ w ∈ values, v = w) ∧
        ∀ other : List ℚ, other.Perm values → ∀ {ρ : Type} (root : ℚ → ρ),
          summary? root other = summary? root values := by
  refine ⟨fun readings => ⟨rfl, summary?_eq_none_iff Float.sqrt readings⟩, ?_⟩
  intro values hne hfinite
  -- no variance is negative here, so the root is taken of the variance itself
  have hsummary (list : List ℚ) (hlist : list ≠ []) {ρ : Type} (root : ℚ → ρ) :
      summary? root list = some
        ⟨(Moments.ofList list).least, (Moments.ofList list).greatest, (Moments.ofList list).mean,
          root (Moments.ofList list).variance⟩ := by
    rw [summary?, if_neg (by simpa using hlist), ← Moments.max_variance hlist]
  have hleast : IsLeast {v | v ∈ values} (Moments.ofList values).least :=
    Moments.least_ofList values ▸ isLeast_foldl_min hne fun v hv => (hfinite v hv).2
  have hgreatest : IsGreatest {v | v ∈ values} (Moments.ofList values).greatest :=
    Moments.greatest_ofList values ▸ isGreatest_foldl_max hne fun v hv => (hfinite v hv).1
  obtain ⟨hlower, hupper⟩ := Moments.mean_mem_Icc hne hleast.2 hgreatest.2
  refine ⟨_, _, _, _, hsummary values hne, hleast, hgreatest, Moments.mean_ofList hne, ?_, rfl,
    Moments.variance_nonneg hne, hlower, hupper, ?_, ?_⟩
  · rw [Moments.mean_ofList hne, Moments.variance_ofList hne]
  · rw [Real.sqrt_eq_zero (by exact_mod_cast Moments.variance_nonneg hne), Rat.cast_eq_zero,
      Moments.variance_eq_zero_iff hne]
  · intro other hperm ρ root
    have hother : other ≠ [] := fun hnil => hne (hnil ▸ hperm).symm.eq_nil
    rw [hsummary values hne, hsummary other hother, Moments.ofList_perm hperm]

/-- Eight values, and the same in the opposite order. -/
theorem summary_exact_eight :
    let values : List ℚ := [2, 4, 4, 4, 5, 5, 7, 9]
    values ≠ [] ∧ (∀ v ∈ values, -Scalar.largest ≤ v ∧ v ≤ Scalar.largest) ∧
    values.reverse.Perm values ∧
    summary? id values = some ⟨2, 9, 5, 4⟩ ∧ summary? id values.reverse = some ⟨2, 9, 5, 4⟩ := by
  intro values
  have hne : values ≠ [] := List.cons_ne_nil _ _
  have hbounds : ∀ v ∈ values, 2 ≤ v ∧ v ≤ 9 := by norm_num [values]
  have hlargest : (9 : ℚ) ≤ Scalar.largest :=
    calc (9 : ℚ) ≤ 2 ^ 53 - 1 := by norm_num
      _ ≤ (2 ^ 53 - 1) * 2 ^ 971 := le_mul_of_one_le_right (by norm_num) (one_le_pow₀ one_le_two)
  have hfinite : ∀ v ∈ values, -Scalar.largest ≤ v ∧ v ≤ Scalar.largest := by
    intro v hv
    obtain ⟨hlower, hupper⟩ := hbounds v hv
    exact ⟨by linarith, by linarith⟩
  obtain ⟨least, greatest, mean, variance, hsummary, hleast, hgreatest, hmean, hvariance,
    -, -, -, -, -, hperm⟩ := summary_exact.2 values hne hfinite
  obtain rfl : mean = 5 := by
    rw [hmean]
    norm_num [values]
  obtain rfl : variance = 4 := by
    rw [hvariance]
    norm_num [values]
  obtain rfl : least = 2 := hleast.unique ⟨List.mem_cons_self .., fun v hv => (hbounds v hv).1⟩
  obtain rfl : greatest = 9 := hgreatest.unique ⟨by simp [values], fun v hv => (hbounds v hv).2⟩
  have hreverse : values.reverse.Perm values := values.reverse_perm
  exact ⟨hne, hfinite, hreverse, hsummary id, (hperm _ hreverse id).trans (hsummary id)⟩

end VehicleTelemetry
