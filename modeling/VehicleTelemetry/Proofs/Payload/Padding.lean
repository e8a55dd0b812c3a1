import Mathlib.Data.List.DropRight
import Mathlib.Tactic
import VehicleTelemetry.Proofs.Payload.Vin

/-!
A vehicle identification number is a text in front of padding.

Dropping the padding works from the end of a response, and looking for a byte that is no graphic
character from its beginning. They meet at the last byte that is no padding.

* `dropPadding_eq_rdropWhile`: what is left is the response without the longest padding at its end;
  `lt_length_dropPadding_iff` names its places in the response itself;
* `firstNonGraphic?_dropPadding`: the byte that is found is the first one of its kind;
* `bytesOf_asciiText`, `asciiText_bytesOf`: graphic bytes and the text that they spell determine
  each other;
* `vin_padded` puts these together: each response is a padded text, or nothing but padding, or has
  a first byte that fits in neither.
-/

namespace VehicleTelemetry

/-- The bytes that a text is written in. -/
def bytesOf (text : String) : Payload := text.toByteArray.data.toList

/-- A response of a text and of padding behind it, in any length and mix. The text has a byte, and
all of its bytes are graphic. -/
structure IsPadded (data : Payload) (text : String) : Prop where
  ne_nil : bytesOf text ≠ []
  graphic : ∀ byte ∈ bytesOf text, 0x21 ≤ byte ∧ byte ≤ 0x7E
  padding : ∃ padding, (∀ byte ∈ padding, byte = 0x00 ∨ byte = 0x20) ∧
    data = bytesOf text ++ padding

/-- The places of the bytes that are no padding. -/
def textPlaces (data : Payload) : Set ℕ :=
  {place | ∃ byte, data[place]? = some byte ∧ byte ≠ 0x00 ∧ byte ≠ 0x20}

/-- The places of the bytes that are not graphic and do not lie behind the last byte that is no
padding. -/
def foreignPlaces (data : Payload) : Set ℕ :=
  {place | (∃ last, IsGreatest (textPlaces data) last ∧ place ≤ last) ∧
    ∃ byte, data[place]? = some byte ∧ (byte < 0x21 ∨ 0x7E < byte)}

namespace Decode

variable {data : Payload} {byte : UInt8}

lemma isPadding_iff : isPadding byte = true ↔ byte = 0x00 ∨ byte = 0x20 := by
  rw [isPadding, Bool.or_eq_true, beq_iff_eq, beq_iff_eq]

lemma not_isGraphic_iff : ¬ isGraphic byte = true ↔ byte < 0x21 ∨ 0x7E < byte := by
  rw [isGraphic_iff, not_and_or, UInt8.not_le, UInt8.not_le]

lemma not_isPadding_of_isGraphic (h : isGraphic byte = true) : ¬ isPadding byte = true := by
  rw [isPadding_iff]
  rintro (rfl | rfl) <;> exact absurd h (by decide)

/-! ### The end of the text -/

/-- The recursion from the left drops what a pass from the right does. -/
lemma dropPadding_eq_rdropWhile (data : Payload) :
    dropPadding data = data.rdropWhile isPadding := by
  induction data with
  | nil => rfl
  | cons byte rest ih =>
      rw [dropPadding, ih, List.rdropWhile, List.rdropWhile, List.reverse_cons,
        List.dropWhile_append]
      cases hrest : rest.reverse.dropWhile isPadding with
      | nil => by_cases hbyte : isPadding byte <;> simp [hbyte]
      | cons last kept => simp

lemma exists_padding (data : Payload) :
    ∃ padding, (∀ byte ∈ padding, isPadding byte = true) ∧ dropPadding data ++ padding = data := by
  refine ⟨data.rtakeWhile isPadding, fun byte => List.mem_rtakeWhile_imp, ?_⟩
  rw [dropPadding_eq_rdropWhile, List.rdropWhile_append_rtakeWhile]

lemma dropPadding_append (data : Payload) {padding : Payload}
    (h : ∀ byte ∈ padding, isPadding byte = true) :
    dropPadding (data ++ padding) = dropPadding data := by
  rw [dropPadding_eq_rdropWhile, dropPadding_eq_rdropWhile]
  induction padding using List.reverseRecOn with
  | nil => rw [List.append_nil]
  | append_singleton padding last ih =>
      obtain ⟨hpadding, hlast⟩ := List.forall_mem_append.mp h
      have hdropped := List.rdropWhile_concat_pos isPadding (data ++ padding) last
        (hlast last (List.mem_singleton_self last))
      rw [← List.append_assoc, hdropped, ih hpadding]

lemma dropPadding_eq_nil_iff : dropPadding data = [] ↔ ∀ byte ∈ data, isPadding byte = true := by
  rw [dropPadding_eq_rdropWhile, List.rdropWhile_eq_nil_iff]

/-- Graphic bytes are not padding, so that nothing is dropped of them. -/
lemma dropPadding_eq_self (h : ∀ byte ∈ data, isGraphic byte = true) : dropPadding data = data := by
  rw [dropPadding_eq_rdropWhile, List.rdropWhile_eq_self_iff]
  exact fun hne => not_isPadding_of_isGraphic (h _ (List.getLast_mem hne))

lemma lt_length_of_mem_textPlaces {place : ℕ} (h : place ∈ textPlaces data) :
    place < (dropPadding data).length := by
  obtain ⟨byte, hbyte, hzero, hspace⟩ := h
  obtain ⟨padding, hpadding, hdata⟩ := exists_padding data
  by_contra hbehind
  rw [← hdata, List.getElem?_append_right (not_lt.mp hbehind)] at hbyte
  obtain hpad | hpad := isPadding_iff.mp (hpadding byte (List.mem_of_getElem? hbyte))
  · exact hzero hpad
  · exact hspace hpad

lemma isGreatest_textPlaces (h : dropPadding data ≠ []) :
    IsGreatest (textPlaces data) ((dropPadding data).length - 1) := by
  refine ⟨⟨(dropPadding data).getLast h, ?_, ?_⟩, ?_⟩
  · obtain ⟨padding, -, hdata⟩ := exists_padding data
    have hlt : (dropPadding data).length - 1 < (dropPadding data).length :=
      Nat.sub_lt (List.length_pos_of_ne_nil h) Nat.one_pos
    have hlast : (dropPadding data)[(dropPadding data).length - 1]? =
        some ((dropPadding data).getLast h) := by
      rw [← List.getLast?_eq_getElem?, List.getLast?_eq_some_getLast h]
    rw [← hlast, ← List.getElem?_append_left hlt, hdata]
  · have hlast : ¬ isPadding ((dropPadding data).getLast h) = true := by
      have hdrop := h
      rw [dropPadding_eq_rdropWhile] at hdrop
      simpa only [dropPadding_eq_rdropWhile] using List.rdropWhile_last_not isPadding data hdrop
    rwa [isPadding_iff, not_or] at hlast
  · exact fun place hplace => Nat.le_sub_one_of_lt (lt_length_of_mem_textPlaces hplace)

/-- What is left when the padding is dropped ends with the last byte that is no padding. -/
lemma lt_length_dropPadding_iff {place : ℕ} :
    place < (dropPadding data).length ↔
      ∃ last, IsGreatest (textPlaces data) last ∧ place ≤ last := by
  constructor
  · intro hplace
    have hne : dropPadding data ≠ [] := List.ne_nil_of_length_pos (Nat.zero_lt_of_lt hplace)
    exact ⟨_, isGreatest_textPlaces hne, Nat.le_sub_one_of_lt hplace⟩
  · rintro ⟨last, hlast, hplace⟩
    exact hplace.trans_lt (lt_length_of_mem_textPlaces hlast.1)

/-! ### The first byte that does not fit -/

lemma firstNonGraphic?_eq (offset : ℕ) (bytes : Payload) :
    firstNonGraphic? offset bytes =
      (bytes.findIdx? fun byte => !isGraphic byte).bind fun place =>
        bytes[place]?.map fun byte => (offset + place, byte) := by
  induction bytes generalizing offset with
  | nil => rfl
  | cons byte rest ih =>
      rw [firstNonGraphic?, List.findIdx?_cons]
      by_cases hbyte : isGraphic byte
      · rw [if_pos hbyte, ih, hbyte, if_neg (by decide), Option.bind_map]
        simp [Nat.add_comm, Nat.add_left_comm]
      · simp [hbyte]

/-- The place that is found is the first one whose byte is not graphic. -/
lemma findIdx?_eq_some_iff_isLeast {bytes : Payload} {place : ℕ} :
    bytes.findIdx? (fun byte => !isGraphic byte) = some place ↔
      IsLeast {place | ∃ byte, bytes[place]? = some byte ∧ ¬ isGraphic byte = true} place := by
  rw [List.findIdx?_eq_some_iff_getElem]
  constructor
  · rintro ⟨hlt, hforeign, hbefore⟩
    refine ⟨⟨bytes[place], List.getElem?_eq_getElem hlt, by simpa using hforeign⟩, ?_⟩
    rintro other ⟨byte, hbyte, hother⟩
    obtain ⟨hlength, rfl⟩ := List.getElem?_eq_some_iff.mp hbyte
    by_contra hle
    exact hbefore other (not_le.mp hle) (by simpa using hother)
  · rintro ⟨⟨byte, hbyte, hforeign⟩, hleast⟩
    obtain ⟨hlt, rfl⟩ := List.getElem?_eq_some_iff.mp hbyte
    refine ⟨hlt, by simpa using hforeign, fun before hbefore hother => ?_⟩
    have hle : place ≤ before :=
      hleast ⟨_, List.getElem?_eq_getElem (hbefore.trans hlt), by simpa using hother⟩
    exact absurd hbefore (not_lt.mpr hle)

/-- The bytes that fit nowhere are those that are not graphic once the padding is gone. -/
lemma foreignPlaces_eq (data : Payload) :
    foreignPlaces data =
      {place | ∃ byte, (dropPadding data)[place]? = some byte ∧ ¬ isGraphic byte = true} := by
  obtain ⟨padding, -, hdata⟩ := exists_padding data
  have hkept {place : ℕ} (h : place < (dropPadding data).length) :
      data[place]? = (dropPadding data)[place]? := by
    rw [← List.getElem?_append_left h, hdata]
  ext place
  simp only [foreignPlaces, Set.mem_ofPred_eq, ← lt_length_dropPadding_iff, ← not_isGraphic_iff]
  constructor
  · rintro ⟨hplace, byte, hbyte, hforeign⟩
    exact ⟨byte, hkept hplace ▸ hbyte, hforeign⟩
  · rintro ⟨byte, hbyte, hforeign⟩
    have hplace : place < (dropPadding data).length := (List.getElem?_eq_some_iff.mp hbyte).1
    exact ⟨hplace, byte, (hkept hplace).trans hbyte, hforeign⟩

/-- The byte that is found when the padding is gone is the first that fits nowhere. -/
lemma firstNonGraphic?_dropPadding {offset : ℕ} :
    firstNonGraphic? 0 (dropPadding data) = some (offset, byte) ↔
      IsLeast (foreignPlaces data) offset ∧ data[offset]? = some byte := by
  obtain ⟨padding, -, hdata⟩ := exists_padding data
  have hkept {place : ℕ} {kept : UInt8} (h : (dropPadding data)[place]? = some kept) :
      data[place]? = some kept := by
    rw [← h, ← List.getElem?_append_left (List.getElem?_eq_some_iff.mp h).1, hdata]
  rw [firstNonGraphic?_eq, Option.bind_eq_some_iff, foreignPlaces_eq]
  constructor
  · rintro ⟨place, hplace, hbyte⟩
    obtain ⟨found, hfound, heq⟩ := Option.map_eq_some_iff.mp hbyte
    obtain ⟨rfl, rfl⟩ : place = offset ∧ found = byte := by simpa using heq
    exact ⟨findIdx?_eq_some_iff_isLeast.mp hplace, hkept hfound⟩
  · rintro ⟨hleast, hbyte⟩
    obtain ⟨kept, hfound, -⟩ := hleast.1
    obtain rfl : kept = byte := Option.some.inj ((hkept hfound).symm.trans hbyte)
    refine ⟨offset, findIdx?_eq_some_iff_isLeast.mpr hleast, ?_⟩
    rw [hfound, Option.map_some, Nat.zero_add]

/-! ### The text and its bytes -/

lemma bytesOf_ofList (characters : List Char) :
    bytesOf (String.ofList characters) = characters.flatMap String.utf8EncodeChar := by
  have hencode : (String.ofList characters).toByteArray =
      (characters.flatMap String.utf8EncodeChar).toByteArray := String.toByteArray_ofList
  rw [bytesOf, hencode, List.data_toByteArray]

lemma bytesOf_injective : Function.Injective bytesOf := by
  intro text other h
  rw [← String.toByteArray_inj]
  exact ByteArray.ext (Array.toList_inj.mp h)

lemma bytesOf_asciiText {bytes : Payload} (h : ∀ byte ∈ bytes, isGraphic byte = true) :
    bytesOf (asciiText bytes) = bytes := by
  have hbyte (byte : UInt8) (hgraphic : isGraphic byte = true) :
      String.utf8EncodeChar (Char.ofNat byte.toNat) = [byte] := by
    have hval : (Char.ofNat byte.toNat).val.toNat = byte.toNat := toNat_ofNat_byte byte
    have hle : byte.toNat ≤ 0x7E := UInt8.le_iff_toNat_le.mp (isGraphic_iff.mp hgraphic).2
    rw [String.utf8EncodeChar, hval, if_pos (hle.trans (by decide)), UInt8.ofNat_toNat]
  rw [asciiText, bytesOf_ofList, List.flatMap_map]
  induction bytes with
  | nil => rfl
  | cons byte rest ih =>
      obtain ⟨hfirst, hrest⟩ := List.forall_mem_cons.mp h
      rw [List.flatMap_cons, hbyte byte hfirst, ih hrest]
      rfl

lemma asciiText_bytesOf {text : String} (h : ∀ byte ∈ bytesOf text, isGraphic byte = true) :
    asciiText (bytesOf text) = text :=
  bytesOf_injective (bytesOf_asciiText h)

/-! ### The number -/

/-- A byte that does not fit goes before an empty text, and both before an answer. -/
lemma vin_eq (data : Payload) :
    vin data =
      match firstNonGraphic? 0 (dropPadding data) with
      | some found => .error (.invalidText found.1 found.2)
      | none =>
        if dropPadding data = [] then .error .emptyPayload
        else .ok (asciiText (dropPadding data)) := by
  rw [vin]
  split
  · next hnil =>
    rw [hnil]
    rfl
  · next text hne =>
    cases firstNonGraphic? 0 (dropPadding data) with
    | some found => rfl
    | none => exact (if_neg hne).symm

lemma vin_eq_invalidText_iff {offset : ℕ} :
    vin data = .error (.invalidText offset byte) ↔
      firstNonGraphic? 0 (dropPadding data) = some (offset, byte) := by
  rw [vin_eq]
  cases firstNonGraphic? 0 (dropPadding data) with
  | some found => simp [Prod.ext_iff]
  | none => by_cases hnil : dropPadding data = [] <;> simp [hnil]

lemma vin_eq_emptyPayload_iff : vin data = .error .emptyPayload ↔ dropPadding data = [] := by
  rw [vin_eq]
  cases hfound : firstNonGraphic? 0 (dropPadding data) with
  | some found =>
      have hne : dropPadding data ≠ [] := by
        rintro hnil
        rw [hnil] at hfound
        cases hfound
      simp [hne]
  | none => by_cases hnil : dropPadding data = [] <;> simp [hnil]

lemma isPadded_of_vin {text : String} (h : vin data = .ok text) : IsPadded data text := by
  rw [vin_eq] at h
  cases hfound : firstNonGraphic? 0 (dropPadding data) with
  | some found => simp [hfound] at h
  | none =>
      rw [hfound] at h
      simp only at h
      split_ifs at h with hnil
      have hgraphic := isGraphic_of_firstNonGraphic?_eq_none hfound
      obtain rfl := Except.ok.inj h
      obtain ⟨padding, hpadding, hdata⟩ := exists_padding data
      refine ⟨?_, ?_, padding, fun byte hbyte => isPadding_iff.mp (hpadding byte hbyte), ?_⟩
      · rwa [bytesOf_asciiText hgraphic]
      · rw [bytesOf_asciiText hgraphic]
        exact fun byte hbyte => isGraphic_iff.mp (hgraphic byte hbyte)
      · rw [bytesOf_asciiText hgraphic, hdata]

lemma vin_of_isPadded {text : String} (h : IsPadded data text) : vin data = .ok text := by
  obtain ⟨padding, hpadding, hdata⟩ := h.padding
  have hgraphic : ∀ byte ∈ bytesOf text, isGraphic byte = true :=
    fun byte hbyte => isGraphic_iff.mpr (h.graphic byte hbyte)
  have hdrop : dropPadding data = bytesOf text := by
    rw [hdata, dropPadding_append _ fun byte hbyte => isPadding_iff.mpr (hpadding byte hbyte),
      dropPadding_eq_self hgraphic]
  have hfound : firstNonGraphic? 0 (bytesOf text) = none := by
    rw [firstNonGraphic?_eq, List.findIdx?_eq_none_iff.mpr (by simpa using hgraphic)]
    rfl
  rw [vin_eq, hdrop, hfound]
  simp only [if_neg h.ne_nil, asciiText_bytesOf hgraphic]

/-- **A vehicle identification number is a padded text.** A response is accepted with a text if and
only if it is the bytes of the text, at least one and all of them graphic, and then zeros and spaces
in any number and mix; it is that of one text at most. It is refused as empty if and only if it has
no other bytes than these two, and for a byte and its place if and only if the place is the first
one of a byte that is not graphic and does not lie behind the last byte that is neither. There is
no other case. So more padding changes nothing, and an accepted text is accepted again. -/
theorem vin_padded (data : Payload) :
    (∀ text, vin data = .ok text ↔ IsPadded data text) ∧
    (∀ text other, IsPadded data text → IsPadded data other → text = other) ∧
    (vin data = .error .emptyPayload ↔ ∀ byte ∈ data, byte = 0x00 ∨ byte = 0x20) ∧
    (∀ offset byte, vin data = .error (.invalidText offset byte) ↔
      IsLeast (foreignPlaces data) offset ∧ data[offset]? = some byte) ∧
    ((∃ text, vin data = .ok text) ∨ vin data = .error .emptyPayload ∨
      ∃ offset byte, vin data = .error (.invalidText offset byte)) ∧
    (∀ padding : Payload, (∀ byte ∈ padding, byte = 0x00 ∨ byte = 0x20) →
      vin (data ++ padding) = vin data) ∧
    ∀ text, vin data = .ok text → vin (bytesOf text) = .ok text := by
  have hok (text : String) : vin data = .ok text ↔ IsPadded data text :=
    ⟨isPadded_of_vin, vin_of_isPadded⟩
  refine ⟨hok, ?_, ?_, ?_, ?_, ?_, ?_⟩
  · intro text other htext hother
    exact Except.ok.inj (((hok text).mpr htext).symm.trans ((hok other).mpr hother))
  · simp only [vin_eq_emptyPayload_iff, dropPadding_eq_nil_iff, isPadding_iff]
  · intro offset byte
    rw [vin_eq_invalidText_iff, firstNonGraphic?_dropPadding]
  -- less the padding, the payload has a foreign byte, or has nothing, or is the text
  · cases hfound : firstNonGraphic? 0 (dropPadding data) with
    | some found =>
        obtain ⟨offset, byte⟩ := found
        exact .inr (.inr ⟨offset, byte, vin_eq_invalidText_iff.mpr hfound⟩)
    | none =>
        by_cases hnil : dropPadding data = []
        · exact .inr (.inl (vin_eq_emptyPayload_iff.mpr hnil))
        · refine .inl ⟨asciiText (dropPadding data), ?_⟩
          rw [vin_eq, hfound]
          exact if_neg hnil
  · intro padding hpadding
    have hdrop := dropPadding_append data fun byte hbyte => isPadding_iff.mpr (hpadding byte hbyte)
    rw [vin_eq, vin_eq, hdrop]
  · intro text htext
    have hpadded := isPadded_of_vin htext
    exact vin_of_isPadded ⟨hpadded.ne_nil, hpadded.graphic, [], nofun, (List.append_nil _).symm⟩

/-- A text with mixed padding, then the same with more padding, alone, and with a byte in it that
would be padding at its end. -/
theorem vin_padded_mixed :
    let data : Payload := [0x56, 0x31, 0x00, 0x20, 0x00]
    let torn : Payload := [0x56, 0x00, 0x31, 0xFF, 0x20]
    (IsPadded data "V1" ∧ vin data = .ok "V1") ∧
    ((∀ byte ∈ ([0x20] : Payload), byte = 0x00 ∨ byte = 0x20) ∧
      vin (data ++ [0x20]) = .ok "V1") ∧
    vin (bytesOf "V1") = .ok "V1" ∧
    (vin torn = .error (.invalidText 1 0x00) ∧ IsLeast (foreignPlaces torn) 1) := by
  intro data torn
  obtain ⟨hok, -, -, -, -, hmore, hagain⟩ := vin_padded data
  have hdata : IsPadded data "V1" :=
    ⟨by decide, by decide +kernel, [0x00, 0x20, 0x00], by simp, rfl⟩
  have hvin : vin data = .ok "V1" := (hok "V1").mpr hdata
  have hspace : ∀ byte ∈ ([0x20] : Payload), byte = 0x00 ∨ byte = 0x20 := by simp
  have htorn : vin torn = .error (.invalidText 1 0x00) := by decide
  obtain ⟨-, -, -, hinvalid, -⟩ := vin_padded torn
  exact ⟨⟨hdata, hvin⟩, ⟨hspace, (hmore [0x20] hspace).trans hvin⟩, hagain "V1" hvin, htorn,
    ((hinvalid 1 0x00).mp htorn).1⟩

end Decode

end VehicleTelemetry
