import Mathlib

/-!
How a float is packed and rounded, as far as its sign and its size go. The operations on floats
compute with sign, mantissa and exponent, round the result to fifty-three bits and pack it into
sixty-four. The lemmas on packing that this builds on come with no part of Mathlib but the whole.

* `unpack_pack_finite`: packing keeps the sign, and makes infinity only of a
  number whose last place is worth more than `2 ^ 971`;
* `roundWithAccuracy_eq`: rounding keeps the sign, and makes the last place worth
  no more than fifty-three bits ask for, or twice as much after a carry;
* `UpTo k`: finite, and the last place is worth at most `2 ^ k`. A bound below 972
  survives packing (`upTo_pack`), and rounding gives one (`upTo_round`);
* `Signed s`: a number of sign `s`, be it zero or infinity. Packing and rounding keep it
  (`signed_pack`, `signed_round`, `signed_normalize`).
-/

namespace VehicleTelemetry.Binary64

open Float.Model Float.Model.UnpackedFloat

/-- Finite, and its last place is worth at most `2 ^ k`. -/
def UpTo (k : Int) : UnpackedFloat → Prop
  | .zero _ => True
  | .finite _ _ e _ => e ≤ k
  | _ => False

/-- A number of sign `s`. -/
def Signed (s : Sign) : UnpackedFloat → Prop
  | .notANumber => False
  | .infinity t | .zero t | .finite t _ _ _ => t = s

/-! ### Packing -/

lemma unpack_pack_zero (s : Sign) : (Float.Model.pack (.zero s)).unpack = .zero s := by
  cases s <;> rfl

lemma unpack_pack_infinity (s : Sign) :
    (Float.Model.pack (.infinity s)).unpack = .infinity s := by
  cases s <;> rfl

/-- Bits whose exponent field is not full stand for a finite number. Without the implicit bit its
exponent is the one of the field `1`. -/
lemma unpack_packComponents (s : Sign) (e : BitVec 11) (m : BitVec 52) (he : e ≠ -1#11) :
    unpack Format.binary64 (packComponents Format.binary64 s e m) = .zero s ∨
      ∃ m' h, unpack Format.binary64 (packComponents Format.binary64 s e m) =
        .finite s m' (max (e.toNat : Int) 1 - 1075) h := by
  rw [UnpackedFloat.unpack]
  simp only [unpackMantissa_packComponents, unpackExponent_packComponents,
    unpackSign_packComponents, Sign.ofBitVec_toBitVec]
  rw [if_neg he]
  split_ifs with hsmall hm
  · exact .inl rfl
  · subst hsmall
    have hpos : 0 < m.toNat := by simpa [BitVec.toNat_pos, BitVec.pos_iff_ne_zero]
    exact .inr ⟨_, hpos, rfl⟩
  · have hfield : 1 ≤ e.toNat := by
      have := mt BitVec.eq_of_toNat_eq hsmall
      simp at this
      omega
    have hpos : 0 < (1#1 ++ m).toNat := by
      rw [BitVec.toNat_append]
      exact Nat.lt_of_lt_of_le (by decide) Nat.left_le_or
    rw [max_eq_left (by omega)]
    exact .inr ⟨_, hpos, rfl⟩

lemma unpack_pack_finite (s : Sign) (m : Nat) (e : Int) (h : 0 < m) :
    (972 ≤ e ∧ (Float.Model.pack (.finite s m e h)).unpack = .infinity s) ∨
      (Float.Model.pack (.finite s m e h)).unpack = .zero s ∨
      ∃ m' e' h', (Float.Model.pack (.finite s m e h)).unpack = .finite s m' e' h' ∧
        e' ≤ max e (-1074) := by
  have hbias : Format.binary64.exponentBias = 1023 := by decide
  rw [Float.Model.pack, Float.Model.unpack]
  simp only [UnpackedFloat.pack, hbias]
  split_ifs with hlarge hnormal
  · left
    refine ⟨by omega, ?_⟩
    cases s <;> rfl
  · right
    generalize hb : (e + (1023 : Nat) + (52 : Nat)).toNat = field at hlarge
    have hfield : (BitVec.ofNat 11 field).toNat = field := by
      rw [BitVec.toNat_ofNat, Nat.mod_eq_of_lt (by omega)]
    have hne : BitVec.ofNat 11 field ≠ -1#11 := by
      intro hfull
      have := congrArg BitVec.toNat hfull
      rw [hfield] at this
      simp at this
      omega
    rcases unpack_packComponents s _ (BitVec.ofNat 52 m) hne with hz | ⟨m', h', hf⟩
    · exact .inl hz
    · exact .inr ⟨m', _, h', hf, by omega⟩
  · right
    rcases unpack_packComponents s 0#11 (BitVec.ofNat 52 m) (by decide) with hz | ⟨m', h', hf⟩
    · exact .inl hz
    · exact .inr ⟨m', _, h', hf, by simp⟩

/-- The mantissa of a float has fifty-three bits. -/
lemma mantissa_unpack_lt {x : Float.Model} {s : Sign} {m : Nat} {e : Int} {h : 0 < m}
    (hx : x.unpack = .finite s m e h) : m < 2 ^ 53 := by
  rw [Float.Model.unpack, UnpackedFloat.unpack] at hx
  dsimp only at hx
  split_ifs at hx
  · injection hx with _ hm _
    have := (@unpackMantissa Format.binary64 x.toBits.toBitVec).isLt
    omega
  · injection hx with _ hm _
    have := (1#1 ++ @unpackMantissa Format.binary64 x.toBits.toBitVec).isLt
    omega

/-- A float is what its sign, mantissa and exponent are packed into. -/
lemma ofModel_pack (x : Float) : Float.ofModel (Float.Model.pack x.toModel.unpack) = x :=
  x.ofBits_toBits

/-! ### Rounding -/

lemma log2_lt {m k : Nat} (hk : 0 < k) (h : m < 2 ^ k) : m.log2 < k := by
  rw [Nat.log2_eq_log_two]
  exact Nat.log_lt_of_lt_pow' hk.ne' h

lemma targetExponent_eq (t : Int) : Format.binary64.targetExponent t = max (t - 53) (-1074) :=
  rfl

lemma mantissa_shiftRight (em : ExtendedMantissa) (k : Nat) :
    (em >>> k).mantissa = em.mantissa / 2 ^ k := by
  induction k with
  | zero => simp [HShiftRight.hShiftRight, Nat.repeat]
  | succ k ih =>
      change (em >>> k).mantissa / 2 = _
      rw [ih, Nat.div_div_eq_div_mul, Nat.pow_succ]

lemma mantissa_ofMantissaAndAccuracy (m : Nat) (a : Accuracy) :
    (ExtendedMantissa.ofMantissaAndAccuracy m a).mantissa = m := by
  cases a with
  | exact => rfl
  | inexact side => cases side <;> rfl

lemma roundToNearestEven_le (m : Nat) (a : Accuracy) : a.roundToNearestEven m ≤ m + 1 := by
  cases a with
  | exact => exact Nat.le_succ m
  | inexact side => cases side <;> simp only [Accuracy.roundToNearestEven] <;> omega

lemma div_two_pow_lt {m k : Nat} (h : m.log2 ≤ 52 + k) : m / 2 ^ k < 2 ^ 53 := by
  rw [Nat.div_lt_iff_lt_mul (Nat.two_pow_pos k), ← Nat.pow_add]
  exact Nat.lt_of_lt_of_le Nat.lt_log2_self (Nat.pow_le_pow_right (by decide) (by omega))

lemma exponent_shiftToTargetExponent (m : Nat) (e : Int) (a : Accuracy) :
    (shiftToTargetExponent Format.binary64 m e a).2 = max e (max (m.log2 + e - 52) (-1074)) := by
  simp only [shiftToTargetExponent, shiftToExponent, totalExponent, targetExponent_eq]
  omega

/-- The mantissa that is left after the first shift, rounded: at worst it is carried into the
next bit. -/
lemma roundedMantissa_shiftToTargetExponent_le (m : Nat) (e : Int) (a : Accuracy) :
    (shiftToTargetExponent Format.binary64 m e a).1.roundedMantissa ≤ 2 ^ 53 := by
  simp only [shiftToTargetExponent, shiftToExponent, totalExponent, targetExponent_eq]
  generalize hk : (max ((m.log2 : Int) + 1 + e - 53) (-1074) - e).toNat = k
  have hshifted : m / 2 ^ k < 2 ^ 53 := div_two_pow_lt (by omega)
  rw [ExtendedMantissa.roundedMantissa, mantissa_shiftRight, mantissa_ofMantissaAndAccuracy]
  exact (roundToNearestEven_le _ _).trans hshifted

lemma roundWithAccuracy_eq (s : Sign) (m : Nat) (e : Int) (a : Accuracy) :
    roundWithAccuracy Format.binary64 s m e a = .zero s ∨
      ∃ m' e' h, roundWithAccuracy Format.binary64 s m e a = .finite s m' e' h ∧
        e' ≤ max (max e (m.log2 + e - 52)) (-1074) + 1 := by
  have hexponent := exponent_shiftToTargetExponent m e a
  have hmantissa := roundedMantissa_shiftToTargetExponent_le m e a
  rw [roundWithAccuracy]
  generalize shiftToTargetExponent Format.binary64 m e a = first at hexponent hmantissa
  obtain ⟨rounded, e₁⟩ := first
  have hlog : rounded.roundedMantissa.log2 ≤ 53 :=
    Nat.le_of_lt_succ (log2_lt (by decide) (hmantissa.trans_lt (by decide)))
  -- the second shift is for the carry alone
  have hcarry := exponent_shiftToTargetExponent rounded.roundedMantissa e₁ .exact
  dsimp only at hexponent ⊢
  split_ifs with h
  · exact .inl rfl
  · exact .inr ⟨_, _, Nat.pos_of_ne_zero h, rfl, by omega⟩

/-! ### Bounds -/

lemma upTo_pack {k : Int} {u : UnpackedFloat} (h : UpTo k u) (hlow : -1074 ≤ k) (hhigh : k < 972) :
    UpTo k (Float.Model.pack u).unpack := by
  match u, h with
  | .zero s, _ => rw [unpack_pack_zero]; trivial
  | .finite s m e hm, h =>
    have he : e ≤ k := h
    rcases unpack_pack_finite s m e hm with ⟨hlarge, -⟩ | hz | ⟨m', e', h', hf, hle⟩
    · omega
    · rw [hz]; trivial
    · rw [hf]
      exact show e' ≤ k by omega

lemma upTo_round {k : Int} {s : Sign} {m : Nat} {e : Int} {a : Accuracy}
    (hk : max (max e (m.log2 + e - 52)) (-1074) < k) :
    UpTo k (roundWithAccuracy Format.binary64 s m e a) := by
  rcases roundWithAccuracy_eq s m e a with hz | ⟨m', e', h', hf, hle⟩
  · rw [hz]; trivial
  · rw [hf]
    exact show e' ≤ k by omega

/-! ### Signs -/

lemma signed_pack {s : Sign} {u : UnpackedFloat} (h : Signed s u) :
    Signed s (Float.Model.pack u).unpack := by
  match u, h with
  | .zero _, rfl => rw [unpack_pack_zero]; rfl
  | .infinity _, rfl => rw [unpack_pack_infinity]; rfl
  | .finite _ m e hm, rfl =>
    rcases unpack_pack_finite s m e hm with ⟨-, hi⟩ | hz | ⟨_, _, _, hf, -⟩
    · rw [hi]; rfl
    · rw [hz]; rfl
    · rw [hf]; rfl

lemma signed_round (s : Sign) (m : Nat) (e : Int) (a : Accuracy) :
    Signed s (roundWithAccuracy Format.binary64 s m e a) := by
  rcases roundWithAccuracy_eq s m e a with hz | ⟨_, _, _, hf, -⟩
  · rw [hz]; rfl
  · rw [hf]; rfl

lemma signed_normalize {m : Int} (hm : 0 ≤ m) (e : Int) :
    Signed .positive (UnpackedFloat.normalize Format.binary64 m e .positive) := by
  rw [UnpackedFloat.normalize]
  split
  · have := Int.compare_eq_lt.mp ‹_›
    omega
  · rfl
  · exact signed_round .positive _ _ _

end VehicleTelemetry.Binary64
