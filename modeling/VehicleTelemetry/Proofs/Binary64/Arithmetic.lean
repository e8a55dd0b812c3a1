import VehicleTelemetry.Proofs.Binary64.Rounding
import VehicleTelemetry.Scalar

/-!
What sums, differences, products and quotients of floats can come to. The reasons why a total does
not move when no time has passed, and why a trip starts at zero, lie here.

* `upTo_ofNat`, `upTo_mul`, `upTo_div`: whole numbers, their products and quotients are
  finite as long as they are not too large;
* `sub_self_of_upTo`: a finite float less itself is zero. Infinity less itself is not;
* `Positive`: of positive sign. A sum of positive floats is positive (`Positive.add`), and
  adding a zero of either sign to one changes nothing (`Positive.add_zero`). It would change
  the negative zero, which is why the sign has to be known;
* `mul_zero_cases`, `positive_max_zero`: what a product with zero is, and what is left of a
  float that is counted from zero up.
-/

namespace VehicleTelemetry.Binary64

open Float.Model Float.Model.UnpackedFloat

/-! ### Finite results -/

lemma shiftLeft_lt {m : Nat} (h : m < 2 ^ 53) (k : Nat) : m <<< k < 2 ^ (53 + k) := by
  rw [Nat.shiftLeft_eq, Nat.pow_add]
  exact Nat.mul_lt_mul_of_pos_right h (Nat.two_pow_pos k)

/-- The product of two finite floats is finite, unless it is too large. -/
lemma upTo_mul {a b k : Int} {x y : Float} (hx : UpTo a x.toModel.unpack)
    (hy : UpTo b y.toModel.unpack) (hk : a + b + 54 ≤ k) (hlow : -1074 < k) (hhigh : k < 972) :
    UpTo k (x * y).toModel.unpack := by
  refine upTo_pack (u := mul Format.binary64 x.toModel.unpack y.toModel.unpack) ?_ hlow.le hhigh
  generalize hu : x.toModel.unpack = u at hx
  generalize hv : y.toModel.unpack = v at hy
  match u, hx, v, hy with
  | .zero _, _, .zero _, _ | .zero _, _, .finite .., _ | .finite .., _, .zero _, _ => trivial
  | .finite _ m₁ e₁ _, hx, .finite _ m₂ e₂ _, hy =>
    have hx : e₁ ≤ a := hx
    have hy : e₂ ≤ b := hy
    have hm : m₁ * m₂ < 2 ^ 106 := by
      rw [show 2 ^ 106 = 2 ^ 53 * 2 ^ 53 from rfl]
      exact Nat.mul_lt_mul'' (mantissa_unpack_lt hu) (mantissa_unpack_lt hv)
    have hlog := log2_lt (by decide) hm
    exact upTo_round (by omega)

/-- The quotient of two finite floats is finite, unless the divisor is too small. -/
lemma upTo_div {a k : Int} {x y : Float} (hx : UpTo a x.toModel.unpack) {s : Sign} {m : Nat}
    {e : Int} {h : 0 < m} (hy : y.toModel.unpack = .finite s m e h) (hk : a - e < k)
    (hlow : -1074 < k) (hhigh : k < 972) : UpTo k (x / y).toModel.unpack := by
  refine upTo_pack (u := div Format.binary64 x.toModel.unpack y.toModel.unpack) ?_ hlow.le hhigh
  rw [hy]
  generalize hu : x.toModel.unpack = u at hx
  match u, hx with
  | .zero _, _ => trivial
  | .finite _ m₁ e₁ _, hx =>
    have hx : e₁ ≤ a := hx
    rw [UnpackedFloat.div, divCore]
    -- the dividend is shifted until its exponent is the target
    generalize Format.binary64.targetExponent _ = target
    generalize hshift : (e₁ - e - min (e₁ - e) target).toNat = shift
    have hlog := log2_lt (by omega)
      ((Nat.div_le_self _ m).trans_lt (shiftLeft_lt (mantissa_unpack_lt hu) shift))
    exact upTo_round (by omega)

lemma upTo_toFloat {n : UInt64} (hn : n.toNat < 2 ^ 53) : UpTo 1 n.toFloat.toModel.unpack := by
  show UpTo 1
    (Float.Model.pack (UnpackedFloat.normalize Format.binary64 n.toNat 0 .positive)).unpack
  refine upTo_pack ?_ (by decide) (by decide)
  rw [UnpackedFloat.normalize]
  split
  · have := Int.compare_eq_lt.mp ‹_›
    omega
  · trivial
  · rw [Int.toNat_natCast, UnpackedFloat.round, decreaseExponent]
    generalize Format.binary64.targetExponent _ = target
    generalize hshift : (0 - target).toNat = shift
    have hlog := log2_lt (by omega) (shiftLeft_lt hn shift)
    exact upTo_round (by omega)

lemma upTo_ofNat {n : Nat} (hn : n < 2 ^ 53) : UpTo 3 (Float.ofNat n).toModel.unpack := by
  -- a whole number is read as a decimal without a fraction
  have heq : Float.ofNat n = n.toUInt64.toFloat * 1.0 := by
    have hpower : Float.exactlyRepresentablePowersOfTen[0] = 1.0 := by decide +kernel
    show Float.ofScientific n false 0 = _
    rw [Float.ofScientific, dif_pos ⟨hn, by decide⟩, ← hpower]
    rfl
  have hone : (1.0 : Float).toModel.unpack = .finite .positive (2 ^ 52) (-52) (by decide) := rfl
  have hword : n.toUInt64.toNat < 2 ^ 53 := by
    simp
    omega
  rw [heq]
  refine upTo_mul (b := -52) (upTo_toFloat hword) ?_ (by decide) (by decide) (by decide)
  rw [hone]
  exact le_rfl

/-- A finite float less itself is zero. -/
theorem sub_self_of_upTo {k : Int} {x : Float} (hx : UpTo k x.toModel.unpack) : x - x = 0.0 := by
  have hparts : UnpackedFloat.sub Format.binary64 x.toModel.unpack x.toModel.unpack =
      .zero .positive := by
    match x.toModel.unpack, hx with
    | .zero s, _ => cases s <;> rfl
    | .finite s m e h, _ =>
      simp only [UnpackedFloat.sub, Int.sub_self]
      rfl
  show Float.ofModel
    (Float.Model.pack (UnpackedFloat.sub Format.binary64 x.toModel.unpack x.toModel.unpack)) = _
  rw [hparts]
  rfl

/-! ### Positive floats and zeros -/

lemma signed_add {u v : UnpackedFloat} (hu : Signed .positive u) (hv : Signed .positive v) :
    Signed .positive (UnpackedFloat.add Format.binary64 u v) := by
  match u, hu, v, hv with
  | .infinity _, rfl, .infinity _, rfl | .infinity _, rfl, .zero _, rfl
  | .infinity _, rfl, .finite _ _ _ _, rfl | .zero _, rfl, .infinity _, rfl
  | .zero _, rfl, .zero _, rfl | .zero _, rfl, .finite _ _ _ _, rfl
  | .finite _ _ _ _, rfl, .infinity _, rfl | .finite _ _ _ _, rfl, .zero _, rfl => rfl
  | .finite _ m₁ e₁ _, rfl, .finite _ m₂ e₂ _, rfl =>
    exact signed_normalize (Int.add_nonneg (Int.natCast_nonneg _) (Int.natCast_nonneg _)) _

/-- Zero, above zero or infinity, and not the negative zero. -/
def Positive (x : Float) : Prop :=
  Signed .positive x.toModel.unpack

namespace Positive

variable {x y : Float}

lemma zero : Positive 0.0 := rfl

theorem add (hx : Positive x) (hy : Positive y) : Positive (x + y) :=
  signed_pack (signed_add hx hy)

theorem add_zero (hx : Positive x) (hy : y = 0.0 ∨ y = -0.0) : x + y = x := by
  have hparts (s : Sign) :
      UnpackedFloat.add Format.binary64 x.toModel.unpack (.zero s) = x.toModel.unpack := by
    unfold Positive at hx
    match x.toModel.unpack, hx with
    | .zero _, rfl => cases s <;> rfl
    | .infinity _, rfl | .finite _ _ _ _, rfl => rfl
  rcases hy with rfl | rfl
  · show Float.ofModel
      (Float.Model.pack (UnpackedFloat.add Format.binary64 x.toModel.unpack (.zero .positive))) = x
    rw [hparts, ofModel_pack]
  · show Float.ofModel
      (Float.Model.pack (UnpackedFloat.add Format.binary64 x.toModel.unpack (.zero .negative))) = x
    rw [hparts, ofModel_pack]

end Positive

/-- A product with zero is a zero, or not a number. -/
lemma mul_zero_cases (x : Float) : x * 0.0 = 0.0 ∨ x * 0.0 = -0.0 ∨ x * 0.0 = Float.nan := by
  have hmul : x * 0.0 = Float.ofModel
      (Float.Model.pack (mul Format.binary64 x.toModel.unpack (.zero .positive))) := rfl
  rw [hmul]
  match x.toModel.unpack with
  | .notANumber | .infinity _ => exact .inr (.inr rfl)
  | .zero .positive | .finite .positive .. => exact .inl rfl
  | .zero .negative | .finite .negative .. => exact .inr (.inl rfl)

/-- Zero can be the first factor as well as the second. -/
lemma zero_mul_eq (x : Float) : 0.0 * x = x * 0.0 := by
  have hmul (u v : UnpackedFloat) (h : mul Format.binary64 u v = mul Format.binary64 v u) :
      Float.ofModel (Float.Model.pack (mul Format.binary64 u v)) =
        Float.ofModel (Float.Model.pack (mul Format.binary64 v u)) := by rw [h]
  refine hmul (.zero .positive) x.toModel.unpack ?_
  match x.toModel.unpack with
  | .notANumber | .infinity _ => rfl
  | .zero .positive | .zero .negative | .finite .positive .. | .finite .negative .. => rfl

/-- What compares equal to zero is not above one. -/
lemma not_one_lt_of_beq_zero {x : Float} (h : (x == 0.0) = true) : ¬ (1.0 : Float) < x := by
  intro hlt
  have hzero : x.toModel.unpack.beq (.zero .positive) = true := h
  have hone : (1.0 : Float).toModel.unpack.lt x.toModel.unpack = true :=
    of_decide_eq_true (p := (1.0 : Float).toModel < x.toModel) hlt
  match x.toModel.unpack, hzero, hone with
  | .zero .positive, _, hone | .zero .negative, _, hone => cases hone
  | .infinity .positive, hzero, _ | .infinity .negative, hzero, _ => cases hzero
  | .finite .positive .., hzero, _ | .finite .negative .., hzero, _ => cases hzero
  | .notANumber, hzero, _ => cases hzero

lemma zero_eq : (Scalar.zero : Float) = 0.0 := by decide +kernel

/-- What is at least zero is positive, but for the negative zero. -/
lemma positive_max_zero (x : Float) :
    Positive (Scalar.max x Scalar.zero) ∨ Scalar.max x Scalar.zero = -0.0 := by
  rw [Scalar.max, zero_eq]
  show Positive (if x.isNaN = true then 0.0 else if decide (x < 0.0) = true then 0.0 else x) ∨
    (if x.isNaN = true then 0.0 else if decide (x < 0.0) = true then 0.0 else x) = -0.0
  split_ifs with hnan hbelow
  · exact .inl .zero
  · exact .inl .zero
  · have hpack := ofModel_pack x
    have hnan : ¬ x.toModel.unpack.isNaN = true := hnan
    have hbelow : ¬ x.toModel.unpack.lt (.zero .positive) = true := fun h =>
      hbelow (decide_eq_true (show x.lt 0.0 = true from decide_eq_true (p := x.toModel < _) h))
    unfold Positive
    match x.toModel.unpack, hnan, hbelow, hpack with
    | .zero .negative, _, _, hpack => exact .inr (hpack.symm.trans rfl)
    | .zero .positive, _, _, _ | .infinity .positive, _, _, _ | .finite .positive .., _, _, _ =>
      exact .inl rfl
    | .infinity .negative, _, hbelow, _ | .finite .negative .., _, hbelow, _ =>
      exact absurd rfl hbelow
    | .notANumber, hnan, _, _ => exact absurd rfl hnan

end VehicleTelemetry.Binary64
