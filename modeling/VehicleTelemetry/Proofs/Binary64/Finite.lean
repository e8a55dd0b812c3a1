import Mathlib.Tactic
import VehicleTelemetry.Decimal.Binary64
import VehicleTelemetry.Proofs.Binary64.Arithmetic

/-!
Which floats are finite.

* `isFinite_unpack_iff`: those without a full exponent field; `exists_ofFloat` is the number that
  such a float stands for;
* `isFinite_toFloat`: a magnitude below infinity gives one;
* `isFinite_ofInt`: so does a whole number of sixty-four bits.
-/

namespace VehicleTelemetry.Binary64

open Float.Model Float.Model.UnpackedFloat

lemma UpTo.mono {j k : Int} {u : UnpackedFloat} (h : UpTo j u) (hjk : j ≤ k) : UpTo k u := by
  match u, h with
  | .zero _, _ => trivial
  | .finite .., h => exact h.trans hjk

lemma isFinite_of_upTo {k : Int} {u : UnpackedFloat} (h : UpTo k u) : u.isFinite = true := by
  match u, h with
  | .zero _, _ | .finite .., _ => rfl

/-! ### The exponent field -/

lemma toNat_unpackExponent (b : BitVec 64) :
    (@unpackExponent Format.binary64 b).toNat = b.toNat / fractions % 2048 := by
  rw [unpackExponent_def, BitVec.extractLsb'_toNat, Nat.shiftRight_eq_div_pow]
  rfl

lemma unpackExponent_eq_iff (b : BitVec 64) :
    @unpackExponent Format.binary64 b = -1#11 ↔ b.toNat / fractions % 2048 = 2047 := by
  rw [← BitVec.toNat_inj, toNat_unpackExponent]
  rfl

lemma upTo_unpack {b : BitVec 64} (h : b.toNat / fractions % 2048 ≠ 2047) :
    UpTo 971 (unpack Format.binary64 b) := by
  have hfield := toNat_unpackExponent b
  have hbias : Format.binary64.exponentBias = 1023 := by decide
  rw [UnpackedFloat.unpack]
  dsimp only
  rw [if_neg (mt (unpackExponent_eq_iff b).mp h)]
  split_ifs with hleast hzero
  · trivial
  · have hzero := congrArg BitVec.toNat hleast
    show _ + 1 ≤ (971 : Int)
    simp only [hfield, hbias] at hzero ⊢
    simp at hzero
    omega
  · show _ ≤ (971 : Int)
    simp only [hfield, hbias]
    omega

lemma isFinite_unpack_iff (b : BitVec 64) :
    (unpack Format.binary64 b).isFinite = true ↔ b.toNat / fractions % 2048 ≠ 2047 := by
  refine ⟨fun h hfull => ?_, fun h => isFinite_of_upTo (upTo_unpack h)⟩
  rw [UnpackedFloat.unpack] at h
  dsimp only at h
  rw [if_pos ((unpackExponent_eq_iff b).mpr hfull)] at h
  split at h <;> nomatch h

/-- A finite float stands for a number. -/
lemma exists_ofFloat {x : Float} (h : x.isFinite = true) :
    ∃ negative m e, ofFloat x = .finite negative m e := by
  have hfield : x.toBits.toNat / fractions % 2048 ≠ 2047 := (isFinite_unpack_iff _).mp h
  rw [ofFloat, ofBits, if_neg hfield]
  split
  · exact ⟨_, _, _, rfl⟩
  · exact ⟨_, _, _, rfl⟩

/-! ### Finite results -/

lemma isFinite_toFloat {negative : Bool} {bits : ℕ} (h : bits < infinityBits) :
    (toFloat negative bits).isFinite = true := by
  refine isFinite_of_upTo (upTo_pack (upTo_unpack ?_) (by decide) (by decide))
  rw [Nat.toUInt64, UInt64.toNat_toBitVec, UInt64.toNat_ofNat']
  simp only [infinityBits, fractions, signBit] at *
  split <;> omega

lemma isFinite_neg {x : Float} {k : Int} (hx : UpTo k x.toModel.unpack) (hlow : -1074 ≤ k)
    (hhigh : k < 972) : x.neg.isFinite = true := by
  refine isFinite_of_upTo (upTo_pack (k := k) ?_ hlow hhigh)
  match x.toModel.unpack, hx with
  | .zero _, _ => trivial
  | .finite .., h => exact h

lemma upTo_ofNat_of_lt {n : ℕ} (hn : n < 2 ^ 64) : UpTo 13 (Float.ofNat n).toModel.unpack := by
  by_cases hsmall : n < 2 ^ 53
  · exact (upTo_ofNat hsmall).mono (by decide)
  · -- a whole number beyond the mantissa is rounded as it is
    have heq : (Float.ofNat n).toModel = Float.Model.ofScientific n 0 := by
      show (Float.ofScientific n false 0).toModel = _
      rw [Float.ofScientific, dif_neg (by omega)]
      rfl
    rw [heq]
    refine upTo_pack ?_ (by decide) (by decide)
    have hpower : (0 : ℤ) ≤ 2 ^ Format.binary64.exponentBits := by positivity
    have hlog : (n <<< Format.binary64.mantissaBits * 10 ^ (0 : ℤ).toNat).log2 < 117 := by
      refine log2_lt (by decide) ?_
      rw [Nat.shiftLeft_eq, show Format.binary64.mantissaBits = 53 from rfl, Int.toNat_zero,
        Nat.pow_zero]
      omega
    rw [UnpackedFloat.ofScientific, dif_neg (by omega), if_neg (by decide), if_neg (by omega),
      if_pos le_rfl, UnpackedFloat.mul]
    refine upTo_round ?_
    rw [show Format.binary64.mantissaBits = 53 from rfl] at hlog ⊢
    omega

/-- The whole numbers of sixty-four bits, with a sign or without, are finite as floats. -/
lemma isFinite_ofInt {value : ℤ} (hlow : -2 ^ 63 ≤ value) (hhigh : value < 2 ^ 64) :
    (Float.ofInt value).isFinite = true := by
  cases value with
  | ofNat n => exact isFinite_of_upTo (upTo_ofNat_of_lt (by simp at hhigh; omega))
  | negSucc n => exact isFinite_neg (upTo_ofNat_of_lt (by omega)) (by decide) (by decide)

end VehicleTelemetry.Binary64
