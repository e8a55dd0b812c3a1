import Mathlib.Tactic
import VehicleTelemetry.Proofs.Binary64.Arithmetic
import VehicleTelemetry.Proofs.Decimal.Shortest

/-!
Sums of floats that are not negative, and their order. However a sum is rounded, it is at least
what was added to: a total that only grows in the source only grows in its floats too.

* `isReduced_unpack`, `unpack_pack_of_isReduced`: mantissa and exponent of what is unpacked are
  reduced, and what is reduced is packed as it is;
* `exists_round_of_le`: what is at least a reduced number is rounded to a number of a greater
  exponent, or of the same one and at least its mantissa;
* `le_pack_add`: the order of a sum and its first term, before and after packing;
* `exists_sub_eq_add`: to take away what is negative is to add;
* `Positive.le_add`, `Positive.le_sub`: both of them for floats. `Positive.zero_le` and
  `Positive.isNaN_eq` are what is known of a total in any case;
* `Grows`: what adding, taking away what is below zero and counting from zero up make of a total.
  Of a float that is not above zero nothing is counted (`max_zero_of_not_pos`).
-/

namespace VehicleTelemetry.Binary64

open Float.Model Float.Model.UnpackedFloat

variable {m : ℕ} {e : ℤ}

/-! ### Mantissas and exponents -/

/-- The bit in front of the fraction of a float that is not too small. -/
lemma toNat_implicit (fraction : BitVec 52) :
    (1#1 ++ fraction).toNat = 2 ^ 52 + fraction.toNat := by
  rw [BitVec.toNat_append, ← Nat.shiftLeft_add_eq_or_of_lt fraction.isLt]
  rfl

/-- A field that holds another number is another field. -/
lemma ofNat_ne {w n : ℕ} {field : BitVec w} (hn : n < 2 ^ w) (h : n ≠ field.toNat) :
    BitVec.ofNat w n ≠ field := by
  rintro rfl
  rw [BitVec.toNat_ofNat, Nat.mod_eq_of_lt hn] at h
  exact h rfl

/-- What is unpacked is reduced. -/
lemma isReduced_unpack {x : Float.Model} {s : Sign} {h : 0 < m}
    (hx : x.unpack = .finite s m e h) : IsReduced m e := by
  have hbias : Format.binary64.exponentBias = 1023 := by decide
  have hlt := mantissa_unpack_lt hx
  have hfield : (@unpackExponent Format.binary64 x.toBits.toBitVec).toNat < 2048 :=
    (@unpackExponent Format.binary64 x.toBits.toBitVec).isLt
  rw [Float.Model.unpack, UnpackedFloat.unpack] at hx
  dsimp only at hx
  split_ifs at hx with hfull _ hleast
  · injection hx with _ _ he
    have hzero := congrArg BitVec.toNat hleast
    simp only [hzero, hbias] at he
    refine ⟨hlt, ?_, ?_, .inr ?_⟩ <;> simp at he <;> omega
  · injection hx with _ hm he
    have hfull' := mt BitVec.eq_of_toNat_eq hfull
    have hleast' := mt BitVec.eq_of_toNat_eq hleast
    simp only [hbias] at he
    simp at hfull' hleast' he
    refine ⟨hlt, by omega, by omega, .inl ?_⟩
    rw [← hm, toNat_implicit]
    omega

/-- A reduced number is packed as it is. -/
lemma unpack_pack_of_isReduced (h : IsReduced m e) (s : Sign) (hm : 0 < m) :
    (Float.Model.pack (.finite s m e hm)).unpack = .finite s m e hm := by
  have hbias : Format.binary64.exponentBias = 1023 := by decide
  have hbits : Format.binary64.mantissaBits = 53 := by decide
  obtain ⟨hlt, hleast, hgreatest, hfull⟩ := h
  rw [Float.Model.pack, Float.Model.unpack]
  simp only [UnpackedFloat.pack, hbias, hbits]
  rw [if_neg (by omega)]
  -- the first bit of a normal mantissa is left out and comes back; a subnormal one has none
  by_cases hnormal : 2 ^ 52 ≤ m
  · have hlog : m.log2 = 52 := by
      rw [Nat.log2_eq_iff hm.ne']
      exact ⟨hnormal, hlt⟩
    generalize hfield : (e + (1023 : ℕ) + (52 : ℕ)).toNat = field
    have htoNat : (BitVec.ofNat 11 field).toNat = field := by
      rw [BitVec.toNat_ofNat, Nat.mod_eq_of_lt (by omega)]
    have hfraction : (1#1 ++ BitVec.ofNat 52 m).toNat = m := by
      rw [toNat_implicit, BitVec.toNat_ofNat]
      omega
    have hnone : BitVec.ofNat 11 field ≠ 0#11 := ofNat_ne (by omega) (by simp; omega)
    have hall : BitVec.ofNat 11 field ≠ -1#11 := ofNat_ne (by omega) (by simp; omega)
    rw [if_pos (by omega), UnpackedFloat.unpack]
    simp only [unpackMantissa_packComponents, unpackExponent_packComponents,
      unpackSign_packComponents, Sign.ofBitVec_toBitVec]
    rw [if_neg hall, if_neg hnone, UnpackedFloat.finite.injEq]
    exact ⟨rfl, hfraction, by omega⟩
  · have hlog : m.log2 < 52 := log2_lt (by decide) (by omega)
    have hfraction : (BitVec.ofNat 52 m).toNat = m := by
      rw [BitVec.toNat_ofNat, Nat.mod_eq_of_lt (by omega)]
    have hsome : BitVec.ofNat 52 m ≠ 0#52 := ofNat_ne (by omega) hm.ne'
    rw [if_neg (by omega), UnpackedFloat.unpack]
    simp only [unpackMantissa_packComponents, unpackExponent_packComponents,
      unpackSign_packComponents, Sign.ofBitVec_toBitVec]
    rw [if_neg (by decide), if_pos trivial, dif_neg hsome, UnpackedFloat.finite.injEq]
    exact ⟨rfl, hfraction, (hfull.resolve_left hnormal).symm⟩

/-! ### Rounding up to what is there already -/

lemma le_roundedMantissa (em : ExtendedMantissa) : em.mantissa ≤ em.roundedMantissa := by
  rw [ExtendedMantissa.roundedMantissa]
  cases em.accuracy with
  | exact => exact le_rfl
  | inexact side => cases side <;> simp [Accuracy.roundToNearestEven]

/-- What has fifty-three bits or less is not shifted any more. -/
lemma shiftToTargetExponent_of_lt (hm : m < 2 ^ 53) (he : -1074 ≤ e) :
    shiftToTargetExponent Format.binary64 m e .exact = (⟨m, false, false⟩, e) := by
  have hlog : m.log2 < 53 := log2_lt (by decide) hm
  have hshift : (Format.binary64.targetExponent (totalExponent m e) - e).toNat = 0 := by
    rw [targetExponent_eq, totalExponent]
    omega
  simp only [shiftToTargetExponent, shiftToExponent, hshift]
  rw [Int.natCast_zero, Int.add_zero]
  rfl

/-- A carry takes one more place. -/
lemma shiftToTargetExponent_carry (he : -1074 ≤ e) :
    shiftToTargetExponent Format.binary64 (2 ^ 53) e .exact = (⟨2 ^ 52, false, false⟩, e + 1) := by
  have hshift : (Format.binary64.targetExponent (totalExponent (2 ^ 53) e) - e).toNat = 1 := by
    rw [targetExponent_eq, totalExponent, Nat.log2_two_pow]
    omega
  simp only [shiftToTargetExponent, shiftToExponent, hshift]
  rfl

/-- A mantissa is rounded at the exponent that leaves it fifty-three bits. -/
lemma exists_roundWithAccuracy (s : Sign) {t : ℤ} (ht : t = max (m.log2 + e - 52) (-1074))
    (he : e ≤ t) (hm : m ≠ 0) :
    ∃ r, m / 2 ^ (t - e).toNat ≤ r ∧ (2 ^ 52 ≤ r ∨ t = -1074) ∧
      (r = 0 ∨ ∃ m' e' h', roundWithAccuracy Format.binary64 s m e .exact = .finite s m' e' h' ∧
        (r < 2 ^ 53 ∧ m' = r ∧ e' = t ∨ m' = 2 ^ 52 ∧ e' = t + 1)) := by
  have hexponent := exponent_shiftToTargetExponent m e .exact
  have hround := roundedMantissa_shiftToTargetExponent_le m e .exact
  have hfloor : m / 2 ^ (t - e).toNat ≤
      (shiftToTargetExponent Format.binary64 m e .exact).1.roundedMantissa := by
    refine le_trans (le_of_eq ?_) (le_roundedMantissa _)
    simp only [shiftToTargetExponent, shiftToExponent]
    rw [mantissa_shiftRight, mantissa_ofMantissaAndAccuracy, targetExponent_eq, totalExponent]
    congr 3
    omega
  -- the first shift ends at the exponent `t`; a second one is made for a carry only
  rw [roundWithAccuracy]
  generalize shiftToTargetExponent Format.binary64 m e .exact = first at hexponent hround hfloor
  obtain ⟨em, e₁⟩ := first
  obtain rfl : e₁ = t := by
    dsimp only at hexponent
    omega
  dsimp only at hround hfloor ⊢
  refine ⟨em.roundedMantissa, hfloor, ?_, ?_⟩
  · by_cases hleast : e₁ = -1074
    · exact .inr hleast
    · refine .inl (le_trans ?_ hfloor)
      rw [Nat.le_div_iff_mul_le (Nat.two_pow_pos _), ← Nat.pow_add]
      exact le_trans (Nat.pow_le_pow_right (by decide) (by omega)) (Nat.log2_self_le hm)
  · have hleast : -1074 ≤ e₁ := by omega
    by_cases hzero : em.roundedMantissa = 0
    · exact .inl hzero
    · refine .inr ?_
      by_cases hcarry : em.roundedMantissa < 2 ^ 53
      · rw [shiftToTargetExponent_of_lt hcarry hleast, dif_neg hzero]
        exact ⟨_, _, _, rfl, .inl ⟨hcarry, rfl, rfl⟩⟩
      · rw [show em.roundedMantissa = 2 ^ 53 by omega, shiftToTargetExponent_carry hleast,
          dif_neg (by norm_num)]
        exact ⟨_, _, _, rfl, .inr ⟨rfl, rfl⟩⟩

/-- The exponent of a reduced number leaves no bit unused. -/
lemma IsReduced.exponent_le (h : IsReduced m e) (hm : m ≠ 0) :
    e ≤ max (m.log2 + e - 52) (-1074) := by
  obtain hfull | rfl := h.full
  · have := (Nat.le_log2 hm).mpr hfull
    omega
  · exact le_max_right _ _

/-- What is at least a reduced number is still so when it is rounded. -/
lemma exists_round_of_le (h : IsReduced m e) (hm : 0 < m) {k n : ℕ} (hle : m * 2 ^ k ≤ n)
    (s : Sign) :
    ∃ m' e' h', UnpackedFloat.round Format.binary64 s n (e - k) = .finite s m' e' h' ∧
      (IsReduced m' e' ∨ 972 ≤ e') ∧ (e < e' ∨ e = e' ∧ m ≤ m') := by
  have hn : n ≠ 0 := (lt_of_lt_of_le (by positivity) hle).ne'
  have hlog : m.log2 + k ≤ n.log2 := by
    rw [Nat.le_log2 hn, Nat.pow_add]
    exact (Nat.mul_le_mul_right _ (Nat.log2_self_le hm.ne')).trans hle
  have hexponent := h.exponent_le hm.ne'
  have hleast := h.least
  obtain ⟨t, ht⟩ : ∃ t : ℤ, t = max (n.log2 + (e - k) - 52) (-1074) := ⟨_, rfl⟩
  have hround : UnpackedFloat.round Format.binary64 s n (e - k) =
      roundWithAccuracy Format.binary64 s n (e - k) .exact := by
    have hshift : (e - k - Format.binary64.targetExponent (totalExponent n (e - k))).toNat = 0 := by
      rw [targetExponent_eq, totalExponent]
      omega
    simp only [UnpackedFloat.round, decreaseExponent, hshift]
    rw [Nat.shiftLeft_zero, Int.natCast_zero, Int.sub_zero]
  obtain ⟨r, hfloor, hfull, hresult⟩ := exists_roundWithAccuracy s ht (by omega) hn
  -- if the exponent is the same, no bit is lost and the mantissa is no less than before
  have hat : t = e → m ≤ r := by
    rintro rfl
    refine le_trans ?_ hfloor
    rw [Nat.le_div_iff_mul_le (Nat.two_pow_pos _), show (t - (t - k)).toNat = k by omega]
    exact hle
  obtain rfl | ⟨m', e', h', hresult, ⟨hcarry, rfl, rfl⟩ | ⟨rfl, rfl⟩⟩ := hresult
  · omega
  · refine ⟨_, _, h', hround.trans hresult, ?_, ?_⟩
    · by_cases hlarge : 972 ≤ e'
      · exact .inr hlarge
      · exact .inl ⟨hcarry, by omega, by omega, hfull⟩
    · omega
  · refine ⟨_, _, h', hround.trans hresult, ?_, .inl (by omega)⟩
    by_cases hlarge : 972 ≤ t + 1
    · exact .inr hlarge
    · exact .inl ⟨by decide, by omega, by omega, .inl le_rfl⟩

/-! ### Sums -/

/-- A number of positive sign is not below zero, and it is a number. -/
lemma zero_le_of_signed {u : UnpackedFloat} (h : Signed .positive u) (s : Sign) :
    (UnpackedFloat.zero s).le u = true := by
  match u, h with
  | .zero _, rfl | .infinity _, rfl | .finite .., rfl => rfl

/-- Reduced numbers are in the order of their exponents, then in that of their mantissas. -/
lemma finite_le_finite {m' : ℕ} {e' : ℤ} {h : 0 < m} {h' : 0 < m'}
    (hle : e < e' ∨ e = e' ∧ m ≤ m') :
    (UnpackedFloat.finite .positive m e h).le (.finite .positive m' e' h') = true := by
  simp only [UnpackedFloat.le, UnpackedFloat.compare, Option.any_some]
  obtain hlt | ⟨rfl, hle⟩ := hle
  · rw [compare_lt_iff_lt.mpr hlt]
    rfl
  · rw [compare_eq_iff_eq.mpr rfl, Ordering.eq_then]
    exact Std.isLE_compare.mpr hle

/-- The sum of two finite numbers that are not negative is taken at the smaller exponent. -/
lemma add_finite (m₂ : ℕ) (e₂ : ℤ) (h : 0 < m) (h₂ : 0 < m₂) :
    ∃ k n : ℕ, m * 2 ^ k ≤ n ∧
      UnpackedFloat.add Format.binary64 (.finite .positive m e h) (.finite .positive m₂ e₂ h₂) =
        UnpackedFloat.round Format.binary64 .positive n (e - k) := by
  refine ⟨(e - min e e₂).toNat, m <<< (e - min e e₂).toNat + m₂ <<< (e₂ - min e e₂).toNat, ?_, ?_⟩
  · rw [Nat.shiftLeft_eq]
    exact Nat.le_add_right _ _
  · have hpos : 0 < m <<< (e - min e e₂).toNat := by
      rw [Nat.shiftLeft_eq]
      positivity
    have hmin : e - (e - min e e₂).toNat = min e e₂ := by omega
    rw [UnpackedFloat.add, hmin]
    simp only [decreaseExponent, Sign.apply]
    generalize m <<< (e - min e e₂).toNat = a at hpos
    generalize m₂ <<< (e₂ - min e e₂).toNat = b
    unfold UnpackedFloat.normalize
    rw [compare_gt_iff_gt.mpr (by omega : (a : ℤ) + b > 0)]
    exact congrArg (fun n => UnpackedFloat.round Format.binary64 .positive n _) (by omega)

/-- Packed, a number of at least another one's exponent and mantissa is at least as great. -/
lemma finite_le_pack {m' : ℕ} {e' : ℤ} {h : 0 < m} {h' : 0 < m'}
    (hrange : IsReduced m' e' ∨ 972 ≤ e') (hle : e < e' ∨ e = e' ∧ m ≤ m') :
    (UnpackedFloat.finite .positive m e h).le
      (Float.Model.pack (.finite .positive m' e' h')).unpack = true := by
  obtain hreduced | hlarge := hrange
  · rw [unpack_pack_of_isReduced hreduced]
    exact finite_le_finite hle
  · have hinfinity : (Float.Model.pack (.finite .positive m' e' h')).unpack =
        .infinity .positive := by
      have hbias : Format.binary64.exponentBias = 1023 := by decide
      rw [Float.Model.pack, Float.Model.unpack]
      simp only [UnpackedFloat.pack, hbias]
      rw [if_pos (by omega)]
      rfl
    rw [hinfinity]
    rfl

lemma infinity_add {v : UnpackedFloat} (hv : Signed .positive v) :
    UnpackedFloat.add Format.binary64 (.infinity .positive) v = .infinity .positive := by
  match v, hv with
  | .zero _, rfl | .infinity _, rfl | .finite .., rfl => rfl

lemma finite_le_pack_add (hreduced : IsReduced m e) (h : 0 < m) {v : UnpackedFloat}
    (hv : Signed .positive v) :
    (UnpackedFloat.finite .positive m e h).le
      (Float.Model.pack
        (UnpackedFloat.add Format.binary64 (.finite .positive m e h) v)).unpack = true := by
  match v, hv with
  | .zero _, rfl => exact finite_le_pack (.inl hreduced) (.inr ⟨rfl, le_rfl⟩)
  | .infinity _, rfl =>
    have hadd : UnpackedFloat.add Format.binary64 (.finite .positive m e h)
      (.infinity .positive) = .infinity .positive := rfl
    rw [hadd, unpack_pack_infinity]
    rfl
  | .finite _ m₂ e₂ h₂, rfl =>
    obtain ⟨k, n, hle, hadd⟩ := add_finite (e := e) m₂ e₂ h h₂
    obtain ⟨m', e', h', hround, hrange, horder⟩ := exists_round_of_le hreduced h hle .positive
    rw [hadd, hround]
    exact finite_le_pack hrange horder

/-- Adding what is not negative makes nothing smaller, however it is rounded. -/
lemma le_pack_add {x : Float.Model} (hx : Signed .positive x.unpack) {v : UnpackedFloat}
    (hv : Signed .positive v) :
    x.unpack.le (Float.Model.pack (UnpackedFloat.add Format.binary64 x.unpack v)).unpack =
      true := by
  cases hu : x.unpack with
  | notANumber =>
      rw [hu] at hx
      cases hx
  | zero s =>
      rw [hu] at hx
      exact zero_le_of_signed (signed_pack (signed_add hx hv)) s
  | infinity s =>
      rw [hu] at hx
      obtain rfl : s = .positive := hx
      rw [infinity_add hv, unpack_pack_infinity]
      rfl
  | finite s m e h =>
      have hreduced := isReduced_unpack hu
      rw [hu] at hx
      obtain rfl : s = .positive := hx
      exact finite_le_pack_add hreduced h hv

/-- Taking away what is negative is adding. -/
lemma exists_sub_eq_add {u w : UnpackedFloat} (hu : Signed .positive u) (hw : Signed .negative w) :
    ∃ v, Signed .positive v ∧
      UnpackedFloat.sub Format.binary64 u w = UnpackedFloat.add Format.binary64 u v := by
  match u, hu, w, hw with
  | .zero _, rfl, .zero _, rfl | .infinity _, rfl, .zero _, rfl | .finite .., rfl, .zero _, rfl =>
    exact ⟨.zero .positive, rfl, rfl⟩
  | .zero _, rfl, .infinity _, rfl | .infinity _, rfl, .infinity _, rfl
  | .finite .., rfl, .infinity _, rfl =>
    exact ⟨.infinity .positive, rfl, rfl⟩
  | .zero _, rfl, .finite _ m e h, rfl | .infinity _, rfl, .finite _ m e h, rfl =>
    exact ⟨.finite .positive m e h, rfl, rfl⟩
  | .finite .., rfl, .finite _ m e h, rfl =>
    refine ⟨.finite .positive m e h, rfl, ?_⟩
    simp only [UnpackedFloat.sub, UnpackedFloat.add, decreaseExponent, Sign.apply, Int.sub_neg]

/-! ### Floats -/

variable {x y : Float}

lemma signed_of_pos (h : 0.0 < x) : Signed .positive x.toModel.unpack := by
  have hlt : (UnpackedFloat.zero .positive).lt x.toModel.unpack = true :=
    of_decide_eq_true (p := (0.0 : Float).toModel < x.toModel) h
  match x.toModel.unpack, hlt with
  | .infinity .positive, _ | .finite .positive .., _ => rfl

lemma signed_of_neg (h : x < 0.0) : Signed .negative x.toModel.unpack := by
  have hlt : x.toModel.unpack.lt (.zero .positive) = true :=
    of_decide_eq_true (p := x.toModel < (0.0 : Float).toModel) h
  match x.toModel.unpack, hlt with
  | .infinity .negative, _ | .finite .negative .., _ => rfl

/-- A number that is neither above nor below zero is a zero. -/
lemma zero_of_neither (hnan : ¬ x.isNaN = true) (hbelow : ¬ x < 0.0)
    (habove : ¬ (0.0 : Float) < x) : x = 0.0 ∨ x = -0.0 := by
  have hpack := ofModel_pack x
  have hnan : ¬ x.toModel.unpack.isNaN = true := hnan
  have hbelow : ¬ x.toModel.unpack.lt (.zero .positive) = true := fun h =>
    hbelow (decide_eq_true (p := x.toModel < (0.0 : Float).toModel) h)
  have habove : ¬ (UnpackedFloat.zero .positive).lt x.toModel.unpack = true := fun h =>
    habove (decide_eq_true (p := (0.0 : Float).toModel < x.toModel) h)
  match x.toModel.unpack, hnan, hbelow, habove, hpack with
  | .zero .positive, _, _, _, hpack => exact .inl (hpack.symm.trans rfl)
  | .zero .negative, _, _, _, hpack => exact .inr (hpack.symm.trans rfl)
  | .infinity .positive, _, _, habove, _ | .finite .positive .., _, _, habove, _ =>
    exact absurd rfl habove
  | .infinity .negative, _, hbelow, _, _ | .finite .negative .., _, hbelow, _, _ =>
    exact absurd rfl hbelow
  | .notANumber, hnan, _, _, _ => exact absurd rfl hnan

namespace Positive

lemma isNaN_eq (hx : Positive x) : x.isNaN = false := by
  show x.toModel.unpack.isNaN = false
  unfold Positive at hx
  match x.toModel.unpack, hx with
  | .zero _, _ | .infinity _, _ | .finite .., _ => rfl

lemma zero_le (hx : Positive x) : 0.0 ≤ x :=
  decide_eq_true (p := (0.0 : Float).toModel ≤ x.toModel) (zero_le_of_signed hx .positive)

/-- A total that is added to never falls. -/
lemma le_add (hx : Positive x) (hy : Positive y) : x ≤ x + y :=
  decide_eq_true (p := x.toModel ≤ (x + y).toModel) (le_pack_add hx hy)

lemma le_self (hx : Positive x) : x ≤ x := by
  have h := hx.le_add .zero
  rwa [hx.add_zero (.inl rfl)] at h

lemma sub (hx : Positive x) (hy : y < 0.0) : Positive (x - y) := by
  obtain ⟨v, hv, hsub⟩ := exists_sub_eq_add hx (signed_of_neg hy)
  refine signed_pack (u := UnpackedFloat.sub Format.binary64 x.toModel.unpack y.toModel.unpack) ?_
  rw [hsub]
  exact signed_add hx hv

/-- Neither does one that something negative is taken from. -/
lemma le_sub (hx : Positive x) (hy : y < 0.0) : x ≤ x - y := by
  obtain ⟨v, hv, hsub⟩ := exists_sub_eq_add hx (signed_of_neg hy)
  have hle := le_pack_add hx hv
  rw [← hsub] at hle
  exact decide_eq_true (p := x.toModel ≤ (x - y).toModel) hle

end Positive

/-! ### Totals -/

/-- What is left from zero up of a float that is not above zero is a zero. -/
lemma max_zero_of_not_pos {delta : Float} (h : ¬ (0.0 : Float) < delta) :
    Scalar.max delta Scalar.zero = 0.0 ∨ Scalar.max delta Scalar.zero = -0.0 := by
  rw [Scalar.max, zero_eq]
  show (if delta.isNaN = true then 0.0 else if decide (delta < 0.0) = true then 0.0 else delta) =
      0.0 ∨
    (if delta.isNaN = true then 0.0 else if decide (delta < 0.0) = true then 0.0 else delta) = -0.0
  split_ifs with hnan hbelow
  · exact .inl rfl
  · exact .inl rfl
  · exact zero_of_neither hnan (fun h' => hbelow (decide_eq_true h')) h

/-- A total of positive sign, and at least the one before. -/
def Grows (before after : Float) : Prop :=
  Positive after ∧ before ≤ after

namespace Grows

variable {total delta : Float}

lemma refl (h : Positive total) : Grows total total :=
  ⟨h, h.le_self⟩

lemma add (h : Positive total) (hdelta : Positive delta) : Grows total (total + delta) :=
  ⟨h.add hdelta, h.le_add hdelta⟩

lemma sub (h : Positive total) (hdelta : delta < 0.0) : Grows total (total - delta) :=
  ⟨h.sub hdelta, h.le_sub hdelta⟩

lemma add_max (h : Positive total) (delta : Float) :
    Grows total (total + Scalar.max delta Scalar.zero) := by
  obtain hpositive | hzero := positive_max_zero delta
  · exact .add h hpositive
  · rw [h.add_zero (.inr hzero)]
    exact .refl h

end Grows

end VehicleTelemetry.Binary64
