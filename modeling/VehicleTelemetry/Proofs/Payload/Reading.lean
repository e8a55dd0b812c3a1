import Mathlib.Algebra.BigOperators.Group.Finset.Basic
import Mathlib.Data.Int.ModEq
import Mathlib.Data.List.GetD
import Mathlib.Tactic
import VehicleTelemetry.Payload.Reader

/-!
What is read at a place of a payload.

A field is read if it lies fully inside the payload, and else its place and its width are the cause
of the refusal. The places are counted exactly: the end of a field that begins near the last place
that a word can name is behind every payload, not in front of it.

* `bigEndian_eq_sum`: the number that bytes spell is their sum with the powers of 256 as weights;
* `bigEndian_bigEndianBytes`: the bytes of a number spell it;
* `unsigned_eq_ok_iff`, `signed_eq_ok_iff`: when there is a number to read, and which one;
* `wordField_eq`: a sum of words that is checked for its carry finds the same fields;
* `unsigned_eq_of_bits`: the bits of a byte determine it;
* `reading_exact` puts these together.
-/

namespace VehicleTelemetry

/-- The bytes of a number, the first one weighing most. -/
def bigEndianBytes (width value : ℕ) : Payload :=
  (List.range width).map fun place => UInt8.ofNat (value / 256 ^ (width - 1 - place))

/-! ### Numbers and their bytes -/

lemma bigEndian_concat (bytes : List UInt8) (byte : UInt8) :
    bigEndian (bytes ++ [byte]) = 256 * bigEndian bytes + byte.toNat := by
  rw [bigEndian, List.foldl_append]
  rfl

lemma bigEndian_lt (bytes : List UInt8) : bigEndian bytes < 256 ^ bytes.length := by
  induction bytes using List.reverseRecOn with
  | nil => decide
  | append_singleton bytes byte ih =>
      have hbyte : byte.toNat < 256 := byte.toNat_lt
      rw [bigEndian_concat, List.length_append, List.length_singleton, pow_succ]
      omega

lemma bigEndian_eq_sum (bytes : List UInt8) :
    bigEndian bytes = ∑ i ∈ Finset.range bytes.length,
      (bytes.getD i 0).toNat * 256 ^ (bytes.length - 1 - i) := by
  induction bytes using List.reverseRecOn with
  | nil => rfl
  | append_singleton bytes byte ih =>
      have hlast : (bytes ++ [byte]).getD bytes.length 0 = byte := by simp
      have hbefore : ∀ i ∈ Finset.range bytes.length,
          ((bytes ++ [byte]).getD i 0).toNat * 256 ^ (bytes.length - i) =
            256 * ((bytes.getD i 0).toNat * 256 ^ (bytes.length - 1 - i)) := by
        intro i hi
        have hlt : i < bytes.length := Finset.mem_range.mp hi
        have hweight : bytes.length - i = bytes.length - 1 - i + 1 := by omega
        rw [List.getD_append _ _ _ _ hlt, hweight, pow_succ]
        ring
      rw [bigEndian_concat, ih, List.length_append, List.length_singleton, Finset.sum_range_succ,
        Nat.add_sub_cancel, Finset.sum_congr rfl hbefore, ← Finset.mul_sum, hlast, Nat.sub_self,
        pow_zero, mul_one]

lemma length_bigEndianBytes (width value : ℕ) : (bigEndianBytes width value).length = width := by
  rw [bigEndianBytes, List.length_map, List.length_range]

lemma bigEndianBytes_succ (width value : ℕ) :
    bigEndianBytes (width + 1) value =
      bigEndianBytes width (value / 256) ++ [UInt8.ofNat value] := by
  have hbefore : ∀ place ∈ List.range width,
      UInt8.ofNat (value / 256 ^ (width - place)) =
        UInt8.ofNat (value / 256 / 256 ^ (width - 1 - place)) := by
    intro place hplace
    have hlt : place < width := List.mem_range.mp hplace
    have hweight : width - place = width - 1 - place + 1 := by omega
    rw [hweight, pow_succ', Nat.div_div_eq_div_mul]
  rw [bigEndianBytes, List.range_succ, List.map_append, Nat.add_sub_cancel,
    List.map_congr_left hbefore, List.map_singleton, Nat.sub_self, pow_zero, Nat.div_one]
  rfl

/-- The bytes of a number spell what fits into them. -/
lemma bigEndian_bigEndianBytes (width value : ℕ) :
    bigEndian (bigEndianBytes width value) = value % 256 ^ width := by
  induction width generalizing value with
  | zero => rw [pow_zero, Nat.mod_one]; rfl
  | succ width ih =>
      rw [bigEndianBytes_succ, bigEndian_concat, ih, UInt8.toNat_ofNat', pow_succ' 256,
        Nat.mod_mul, Nat.add_comm]

namespace Payload

variable {data : Payload} {offset width n : ℕ} {cause : PayloadError}

/-! ### Fields -/

lemma length_take_drop (h : offset + width ≤ data.length) :
    ((data.drop offset).take width).length = width := by
  rw [List.length_take, List.length_drop]
  omega

lemma field_eq_error_iff :
    data.field offset width = .error cause ↔
      data.length < offset + width ∧ cause = .shortPayload offset width data.length := by
  rw [field, ← Nat.not_le]
  split <;> simp_all [eq_comm]

/-- The end of a field in words, if it is one: a sum that has lost its carry is less than its
parts. -/
def fieldEnd? (offset width : UInt64) : Option UInt64 :=
  if offset + width < offset then none else some (offset + width)

/-- The `width` bytes from `offset` on, found by the word of their end. -/
def wordField (data : Payload) (offset width : UInt64) : Except PayloadError (List UInt8) :=
  match fieldEnd? offset width with
  | some stop =>
    if stop.toNat ≤ data.length then .ok ((data.take stop.toNat).drop offset.toNat)
    else .error (.shortPayload offset.toNat width.toNat data.length)
  | none => .error (.shortPayload offset.toNat width.toNat data.length)

/-- A payload whose places are words has no field whose end is none. -/
lemma wordField_eq (data : Payload) (offset width : UInt64) (h : data.length < UInt64.size) :
    data.wordField offset width = data.field offset.toNat width.toNat := by
  have hsum := UInt64.toNat_add offset width
  have hoffset := offset.toNat_lt
  have hwidth := width.toNat_lt
  have hlost := UInt64.lt_iff_toNat_lt (a := offset + width) (b := offset)
  rw [wordField, fieldEnd?, field]
  by_cases hcarry : offset.toNat + width.toNat < 2 ^ 64
  · rw [Nat.mod_eq_of_lt hcarry] at hsum
    rw [if_neg (hlost.not.mpr (by omega))]
    simp only [hsum, List.drop_take, Nat.add_sub_cancel_left]
  · have hshort : ¬ offset.toNat + width.toNat ≤ data.length := by
      rw [UInt64.size] at h
      omega
    rw [if_pos (hlost.mpr (by omega)), if_neg hshort]

/-! ### Unsigned numbers -/

lemma unsigned_eq_ok_iff :
    data.unsigned offset width = .ok n ↔
      offset + width ≤ data.length ∧ n = bigEndian ((data.drop offset).take width) := by
  rw [unsigned, field]
  split <;> simp_all [eq_comm]

lemma unsigned_eq_error_iff :
    data.unsigned offset width = .error cause ↔
      data.length < offset + width ∧ cause = .shortPayload offset width data.length := by
  rw [unsigned, ← field_eq_error_iff]
  cases data.field offset width <;> simp

/-- A field of `width` bytes holds a number below `256 ^ width`. -/
lemma unsigned_lt (h : data.unsigned offset width = .ok n) : n < 256 ^ width := by
  obtain ⟨hlength, rfl⟩ := unsigned_eq_ok_iff.mp h
  have hlt := bigEndian_lt ((data.drop offset).take width)
  rwa [length_take_drop hlength] at hlt

/-- The number in a field in terms of the places of the whole payload. -/
lemma bigEndian_take_drop (h : offset + width ≤ data.length) :
    bigEndian ((data.drop offset).take width) =
      ∑ i ∈ Finset.range width, (data.getD (offset + i) 0).toNat * 256 ^ (width - 1 - i) := by
  rw [bigEndian_eq_sum, length_take_drop h]
  refine Finset.sum_congr rfl fun i hi => ?_
  have hlt : i < width := Finset.mem_range.mp hi
  rw [List.getD_eq_getElem?_getD, List.getElem?_take_of_lt hlt, List.getElem?_drop,
    ← List.getD_eq_getElem?_getD]

/-- What is written at a place is read there, whatever stands before and behind it. -/
lemma unsigned_written (width value : ℕ) (before after : Payload) :
    unsigned (before ++ bigEndianBytes width value ++ after) before.length width =
      .ok (value % 256 ^ width) := by
  have hlength := length_bigEndianBytes width value
  rw [unsigned_eq_ok_iff, List.append_assoc, List.drop_left,
    List.take_append_of_le_length hlength.ge, List.take_of_length_le hlength.le,
    bigEndian_bigEndianBytes]
  refine ⟨?_, rfl⟩
  rw [List.length_append, List.length_append, hlength]
  omega

/-! ### Signed numbers -/

lemma signed_eq_ok_iff {s : ℤ} :
    data.signed offset width = .ok s ↔
      ∃ n, data.unsigned offset width = .ok n ∧ s = Int.bmod n (2 ^ (8 * width)) := by
  rw [signed, Nat.one_shiftLeft]
  cases data.unsigned offset width <;> simp [eq_comm]

lemma signed_eq_error_iff :
    data.signed offset width = .error cause ↔ data.unsigned offset width = .error cause := by
  rw [signed]
  cases data.unsigned offset width <;> simp

/-- The remainder around zero is the one number of its range that leaves the same remainder. -/
lemma eq_bmod_iff {s : ℤ} :
    s = Int.bmod n (2 ^ (8 * width)) ↔
      s ≡ n [ZMOD 2 ^ (8 * width)] ∧ -2 ^ (8 * width) ≤ 2 * s ∧ 2 * s < 2 ^ (8 * width) := by
  rw [eq_comm, Int.bmod_eq_iff (by positivity), Int.modEq_comm, Int.modEq_iff_dvd]
  push_cast
  generalize (2 : ℤ) ^ (8 * width) = range
  constructor
  · rintro ⟨hlower, hupper, hdvd⟩
    exact ⟨hdvd, by omega, by omega⟩
  · rintro ⟨hdvd, hlower, hupper⟩
    exact ⟨by omega, by omega, hdvd⟩

/-! ### Bits -/

lemma bit_of_lt {index : ℕ} (h : 7 < index) (data : Payload) (offset : ℕ) :
    data.bit offset index = .error (.bitIndex index) :=
  if_pos h

lemma bit_of_le {index : ℕ} (h : index ≤ 7) (data : Payload) (offset : ℕ) :
    data.bit offset index = (·.testBit index) <$> data.unsigned offset 1 :=
  if_neg (Nat.not_lt.mpr h)

/-- Bytes with the same bits are the same. -/
lemma unsigned_eq_of_bits {other : Payload} {place m : ℕ} (hn : data.unsigned offset 1 = .ok n)
    (hm : other.unsigned place 1 = .ok m)
    (hbits : ∀ index ≤ 7, data.bit offset index = other.bit place index) : n = m := by
  refine Nat.eq_of_testBit_eq fun index => ?_
  by_cases hindex : index ≤ 7
  · have hbit := hbits index hindex
    rw [bit_of_le hindex, bit_of_le hindex, hn, hm] at hbit
    exact Except.ok.inj hbit
  · have hbehind : 8 ≤ index := Nat.lt_of_not_le hindex
    have hlarge {k : ℕ} (hk : k < 2 ^ 8) : k.testBit index = false :=
      Nat.testBit_lt_two_pow (hk.trans_le (Nat.pow_le_pow_right Nat.two_pos hbehind))
    rw [hlarge (unsigned_lt hn), hlarge (unsigned_lt hm)]

/-- **A read is exact.** There is an unsigned number to read if and only if the field ends inside
the payload, and it is the sum of the bytes with the powers of 256 as weights. A signed number is
read from the same fields: it is the one of the range around zero that is the same modulo the
range. Else the cause of the refusal is the field, with the length of the payload. The end of a
field may be found with words, also if their sum does not fit. What is written is read, as a word
and as a signed one, at any place. A bit is refused for an index above 7 wherever it is, and else
is read with the byte and is its bit, so that the eight bits of a byte determine it. -/
theorem reading_exact (data : Payload) (offset width : ℕ) :
    (∀ n, data.unsigned offset width = .ok n ↔ offset + width ≤ data.length ∧
      n = ∑ i ∈ Finset.range width, (data.getD (offset + i) 0).toNat * 256 ^ (width - 1 - i)) ∧
    (∀ s : ℤ, data.signed offset width = .ok s ↔
      ∃ n : ℕ, data.unsigned offset width = .ok n ∧ s ≡ n [ZMOD 2 ^ (8 * width)] ∧
        -2 ^ (8 * width) ≤ 2 * s ∧ 2 * s < 2 ^ (8 * width)) ∧
    (∀ cause,
      (data.unsigned offset width = .error cause ↔
        data.length < offset + width ∧ cause = .shortPayload offset width data.length) ∧
      (data.signed offset width = .error cause ↔ data.unsigned offset width = .error cause)) ∧
    (∀ place size : UInt64, data.length < UInt64.size →
      bigEndian <$> data.wordField place size = data.unsigned place.toNat size.toNat) ∧
    (∀ (x : BitVec (8 * width)) (before after : Payload),
      let written := before ++ bigEndianBytes width x.toNat ++ after
      written.unsigned before.length width = .ok x.toNat ∧
        written.signed before.length width = .ok x.toInt) ∧
    (∀ index, 7 < index → data.bit offset index = .error (.bitIndex index)) ∧
    (∀ index ≤ 7,
      (∀ b, data.bit offset index = .ok b ↔
        ∃ n, data.unsigned offset 1 = .ok n ∧ b = n.testBit index) ∧
      ∀ cause, data.bit offset index = .error cause ↔ data.unsigned offset 1 = .error cause) ∧
    ∀ (other : Payload) (place m n : ℕ),
      data.unsigned offset 1 = .ok m → other.unsigned place 1 = .ok n →
      (∀ index ≤ 7, data.bit offset index = other.bit place index) → m = n := by
  refine ⟨?_, ?_, fun cause => ⟨unsigned_eq_error_iff, signed_eq_error_iff⟩, ?_, ?_,
    fun index hindex => bit_of_lt hindex data offset, ?_,
    fun other place m n hm hn hbits => unsigned_eq_of_bits hm hn hbits⟩
  · intro n
    rw [unsigned_eq_ok_iff]
    exact and_congr_right fun hlength => by rw [bigEndian_take_drop hlength]
  · intro s
    rw [signed_eq_ok_iff]
    exact exists_congr fun n => and_congr_right fun _ => eq_bmod_iff
  · intro place size hlength
    rw [wordField_eq data place size hlength, unsigned]
  · intro x before after written
    have hunsigned : written.unsigned before.length width = .ok x.toNat := by
      have hlt : x.toNat < 256 ^ width := x.isLt.trans_eq (pow_mul 2 8 width)
      have hwritten := unsigned_written width x.toNat before after
      rwa [Nat.mod_eq_of_lt hlt] at hwritten
    exact ⟨hunsigned, signed_eq_ok_iff.mpr ⟨x.toNat, hunsigned, x.toInt_eq_toNat_bmod⟩⟩
  · intro index hindex
    rw [bit_of_le hindex]
    cases data.unsigned offset 1 <;> simp [eq_comm]

/-- A negative number between other bytes, and reads that end behind them. -/
theorem reading_exact_negative :
    let data : Payload := [0x12, 0xFF, 0x85, 0x34]
    (data.unsigned 1 2 = .ok 0xFF85 ∧ data.signed 1 2 = .ok (-123)) ∧
    data.signed 3 2 = .error (.shortPayload 3 2 4) ∧
    (data.length < UInt64.size ∧
      bigEndian <$> data.wordField 0xFFFFFFFFFFFFFFFF 2 =
        .error (.shortPayload 0xFFFFFFFFFFFFFFFF 2 4)) ∧
    (7 < 8 ∧ data.bit 9 8 = .error (.bitIndex 8)) ∧ (7 ≤ 7 ∧ data.bit 1 7 = .ok true) ∧
    (data.unsigned 1 1 = .ok 255 ∧ (∀ index ≤ 7, data.bit 1 index = bit [0xFF] 0 index) ∧
      ∀ n, unsigned [0xFF] 0 1 = .ok n → 255 = n) := by
  intro data
  have hwritten : [0x12] ++ bigEndianBytes 2 (-123 : BitVec (8 * 2)).toNat ++ [0x34] = data := by
    decide
  have hfit : data.length < UInt64.size := by decide
  have hbyte : data.unsigned 1 1 = .ok 255 := rfl
  have hsame : ∀ index ≤ 7, data.bit 1 index = bit [0xFF] 0 index := by decide
  obtain ⟨-, -, -, hwords, hback, -⟩ := reading_exact data 1 2
  obtain ⟨-, -, hcause, -⟩ := reading_exact data 3 2
  obtain ⟨-, -, -, -, -, hindex, -⟩ := reading_exact data 9 2
  obtain ⟨-, -, -, -, -, -, hbit, hbits⟩ := reading_exact data 1 1
  refine ⟨?_, ?_, ⟨hfit, hwords _ _ hfit⟩, ⟨by decide, hindex 8 (by decide)⟩,
    ⟨le_rfl, ((hbit 7 le_rfl).1 true).mpr ⟨255, hbyte, by decide⟩⟩,
    ⟨hbyte, hsame, fun n hn => hbits _ _ _ _ hbyte hn hsame⟩⟩
  · have h := hback (-123) [0x12] [0x34]
    rwa [hwritten] at h
  · exact (hcause _).2.mpr ((hcause _).1.mpr (by decide))

end Payload

end VehicleTelemetry
