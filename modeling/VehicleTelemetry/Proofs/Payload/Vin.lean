import Mathlib.Tactic
import VehicleTelemetry.Payload.Decode

/-!
The texts that are accepted as a vehicle identification number.

* `IsVin`: a text with at least one character, and all of them graphic;
* `Decode.isVin_of_vin`: whatever a response holds, nothing else is decoded from it.
-/

namespace VehicleTelemetry

/-- A text of graphic ASCII characters, at least one. -/
structure IsVin (text : String) : Prop where
  ne_empty : text ≠ ""
  graphic : ∀ c ∈ text.toList, 0x21 ≤ c.toNat ∧ c.toNat ≤ 0x7E

namespace Decode

lemma isGraphic_iff {byte : UInt8} : isGraphic byte = true ↔ 0x21 ≤ byte ∧ byte ≤ 0x7E := by
  rw [isGraphic, Bool.and_eq_true, decide_eq_true_eq, decide_eq_true_eq]

/-- Bytes among which none is found that is not graphic. -/
lemma isGraphic_of_firstNonGraphic?_eq_none {bytes : Payload} {offset : Nat}
    (h : firstNonGraphic? offset bytes = none) : ∀ byte ∈ bytes, isGraphic byte = true := by
  induction bytes generalizing offset with
  | nil => exact fun _ hmem => nomatch hmem
  | cons byte rest ih =>
      rw [firstNonGraphic?] at h
      split at h
      · next hgraphic => exact List.forall_mem_cons.mpr ⟨hgraphic, ih h⟩
      · cases h

/-- A byte spells the character with its number. -/
lemma toNat_ofNat_byte (byte : UInt8) : (Char.ofNat byte.toNat).toNat = byte.toNat := by
  have hvalid : byte.toNat.isValidChar := .inl (byte.toNat_lt.trans (by decide))
  rw [Char.ofNat, dif_pos hvalid]
  rfl

lemma isVin_asciiText {bytes : Payload} (hne : bytes ≠ [])
    (hgraphic : ∀ byte ∈ bytes, isGraphic byte = true) : IsVin (asciiText bytes) where
  ne_empty := by
    intro hempty
    rw [asciiText, ← String.toList_inj, String.toList_ofList] at hempty
    exact hne (List.map_eq_nil_iff.mp hempty)
  graphic := by
    intro c hc
    rw [asciiText, String.toList_ofList] at hc
    obtain ⟨byte, hbyte, rfl⟩ := List.mem_map.mp hc
    have hrange := isGraphic_iff.mp (hgraphic byte hbyte)
    rw [UInt8.le_iff_toNat_le, UInt8.le_iff_toNat_le] at hrange
    rw [toNat_ofNat_byte]
    exact hrange

/-- What is accepted as a vehicle identification number is one: it is not empty, also if
a response holds nothing but padding. -/
lemma isVin_of_vin {data : Payload} {text : String} (h : vin data = .ok text) : IsVin text := by
  rw [vin] at h
  split at h
  · cases h
  · next bytes hne =>
    split at h
    · cases h
    · next hnone =>
      obtain rfl := Except.ok.inj h
      exact isVin_asciiText hne (isGraphic_of_firstNonGraphic?_eq_none hnone)

end Decode

end VehicleTelemetry
