import Mathlib.Tactic
import VehicleTelemetry.Text.Digit

/-!
The digits of a number spell that number.

* `digitsValue_append`: a row of digits in two parts; zeros in front count nothing
  (`digitsValue_zeros`);
* `digitsValue_toDigits`: the decimal digits of `n` spell `n`;
* `head?_toDigits`: they start with a zero only if that is all of them.
-/

namespace VehicleTelemetry.Text

lemma digitsValue_append_singleton (base : ℕ) (digits : List Char) (c : Char) :
    digitsValue base (digits ++ [c]) =
      base * digitsValue base digits + (digitValue? base c).getD 0 := by
  rw [digitsValue, List.foldl_append]
  rfl

lemma digitsValue_append (base : ℕ) (front back : List Char) :
    digitsValue base (front ++ back) =
      digitsValue base front * base ^ back.length + digitsValue base back := by
  induction back using List.reverseRecOn with
  | nil => simp [digitsValue]
  | append_singleton back c ih =>
      rw [← List.append_assoc, digitsValue_append_singleton, digitsValue_append_singleton, ih,
        List.length_append, List.length_singleton, pow_succ]
      ring

lemma digitsValue_zeros (base count : ℕ) (digits : List Char) :
    digitsValue base (List.replicate count '0' ++ digits) = digitsValue base digits := by
  have hzero : digitsValue base (List.replicate count '0') = 0 := by
    induction count with
    | zero => rfl
    | succ count ih =>
        rw [List.replicate_succ', digitsValue_append_singleton, ih]
        cases base <;> rfl
  rw [digitsValue_append, hzero, zero_mul, zero_add]

lemma digitValue?_digitChar {n : ℕ} (hn : n < 10) : digitValue? 10 n.digitChar = some n := by
  revert n
  decide

/-- The decimal digits of a number spell it. -/
theorem digitsValue_toDigits (n : ℕ) : digitsValue 10 (Nat.toDigits 10 n) = n := by
  induction n using Nat.strong_induction_on with
  | _ n ih =>
      rw [Nat.toDigits_eq_if (by decide)]
      split
      · next hn =>
        rw [← List.nil_append [_], digitsValue_append_singleton, digitValue?_digitChar hn]
        exact Nat.zero_add n
      · rw [digitsValue_append_singleton, ih _ (by omega),
          digitValue?_digitChar (n.mod_lt (by decide))]
        exact Nat.div_add_mod n 10

lemma isDigit_toDigits (n : ℕ) : ∀ c ∈ Nat.toDigits 10 n, c.isDigit = true :=
  fun _ => Nat.isDigit_of_mem_toDigits (by decide) le_rfl

/-- No number but zero has a zero in front. -/
lemma head?_toDigits {n : ℕ} (h : (Nat.toDigits 10 n).head? = some '0') : n = 0 := by
  induction n using Nat.strong_induction_on with
  | _ n ih =>
      rw [Nat.toDigits_eq_if (by decide)] at h
      split at h
      · exact Nat.digitChar_eq_zero.mp (Option.some.inj h)
      · rw [List.head?_append_of_ne_nil _ Nat.toDigits_ne_nil] at h
        have := ih _ (by omega) h
        omega

end VehicleTelemetry.Text
