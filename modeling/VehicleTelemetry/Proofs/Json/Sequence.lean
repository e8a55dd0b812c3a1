import Mathlib.Tactic
import VehicleTelemetry.Json.Parser
import VehicleTelemetry.Json.Printer

/-!
Written strings and written arrays are read back.

* `readCharacters_writeChar`: the characters of a string one at a time, each as itself or as the
  escape that was written for it; `readString_writeString` is the whole string;
* `readSequence_bracket`: items between brackets, if each item is read back in front of a comma
  and in front of the closing bracket;
* `mem_of_readSequence`: whatever is read between brackets was read as an item.
-/

namespace VehicleTelemetry.Json

variable {rest : List Char}

/-! ### Strings -/

/-- The escape by number that is written for a control character. -/
lemma readHex_control : ∀ n < 32,
    Text.readHex 4 ['0', '0', Nat.digitChar (n / 16), Nat.digitChar (n % 16)] = some (n, []) := by
  decide

lemma readHex_append {count n : ℕ} {digits others : List Char}
    (h : Text.readHex count digits = some (n, others)) (rest : List Char) :
    Text.readHex count (digits ++ rest) = some (n, others ++ rest) := by
  rw [Text.readHex, Option.ite_none_right_eq_some] at h
  obtain ⟨hdigits, heq⟩ := h
  obtain ⟨hvalue, hothers⟩ := Prod.mk.inj (Option.some.inj heq)
  have hle : count ≤ digits.length := by
    have hlength := hdigits.1
    rw [List.length_take] at hlength
    omega
  rw [Text.readHex, List.take_append_of_le_length hle, List.drop_append_of_le_length hle,
    if_pos hdigits, hvalue, hothers]

/-- The escape of a control character stands for it. -/
lemma readEscapedUnit_control {c : Char} (hc : c.toNat < 0x20) (rest : List Char) :
    readEscapedUnit ('0' :: '0' :: Nat.digitChar (c.toNat / 16) :: Nat.digitChar (c.toNat % 16) ::
      rest) = some (c, rest) := by
  have hread := readHex_append (readHex_control _ hc) rest
  simp only [List.cons_append, List.nil_append] at hread
  rw [readEscapedUnit, hread, Option.bind_eq_bind, Option.bind_some]
  dsimp only
  rw [if_pos (by simp; omega), Char.ofNat_toNat]

/-- A character is read back as it was written. -/
lemma readCharacters_writeChar (read : List Char) (fuel : ℕ) (c : Char) (rest : List Char) :
    readCharacters read (fuel + 1) (writeChar c ++ rest) =
      readCharacters (c :: read) fuel rest := by
  rw [writeChar.eq_def]
  split
  case h_8 hquote hbackslash _ _ _ _ _ =>
    split
    · next hcontrol =>
      have hescape := readEscapedUnit_control hcontrol rest
      simp [readCharacters, readEscape, hescape]
    · next hcontrol =>
      rw [List.singleton_append, readCharacters, if_neg (by simpa using hquote),
        if_neg (by simpa using hbackslash), if_neg hcontrol]
  all_goals rfl

lemma readCharacters_flatMap (text : List Char) (read : List Char) {fuel : ℕ}
    (hfuel : text.length < fuel) :
    readCharacters read fuel (text.flatMap writeChar ++ '"' :: rest) =
      some (String.ofList (read.reverse ++ text), rest) := by
  induction text generalizing read fuel with
  | nil =>
      obtain ⟨fuel, rfl⟩ := Nat.exists_eq_add_of_lt hfuel
      simp [readCharacters]
  | cons c text ih =>
      obtain ⟨fuel, rfl⟩ := Nat.exists_eq_add_of_lt (Nat.zero_lt_of_lt hfuel)
      rw [List.length_cons] at hfuel
      rw [List.flatMap_cons, List.append_assoc, Nat.zero_add, readCharacters_writeChar,
        ih _ (by omega), List.reverse_cons, List.append_assoc]
      rfl

lemma length_le_flatMap_writeChar (text : List Char) :
    text.length ≤ (text.flatMap writeChar).length := by
  induction text with
  | nil => exact le_rfl
  | cons c text ih =>
      have hne : 0 < (writeChar c).length := by
        rw [writeChar.eq_def]
        split
        case h_8 => split <;> simp
        all_goals simp
      rw [List.flatMap_cons, List.length_append, List.length_cons]
      omega

/-- A written string is read back, whatever its characters are. -/
theorem readString_writeString (text : String) (rest : List Char) :
    readString (writeString text ++ rest) = some (text, rest) := by
  have hlength := length_le_flatMap_writeChar text.toList
  rw [writeString, List.cons_append, List.cons_append, List.append_assoc, List.singleton_append]
  refine (readCharacters_flatMap text.toList [] ?_).trans (by simp)
  rw [List.length_append, List.length_cons]
  omega

/-! ### Items between brackets -/

section Sequence

variable {α : Type} {item : List Char → Option (α × List Char)} {values : List α}
  {texts : List (List Char)}

/-- What may follow an item of an array. -/
def Separates (rest : List Char) : Prop :=
  rest.head? = some ',' ∨ rest.head? = some ']'

/-- A text that is read back as the item `value`. -/
structure IsItem (item : List Char → Option (α × List Char)) (value : α) (text : List Char) :
    Prop where
  starts : ∃ c cs, text = c :: cs ∧ isBlank c = false ∧ c ≠ ']'
  read : ∀ rest, Separates rest → item (text ++ rest) = some (value, rest)

lemma length_le_intercalate (h : List.Forall₂ (IsItem item) values texts) :
    values.length ≤ (List.intercalate [','] texts).length := by
  induction h with
  | nil => exact Nat.zero_le _
  | @cons value text values texts hitem hitems ih =>
      obtain ⟨c, cs, rfl, -⟩ := hitem.starts
      cases texts with
      | nil =>
          cases hitems
          simp [List.intercalate]
      | cons other texts =>
          rw [List.intercalate_cons_cons, List.length_append, List.length_append]
          simp only [List.length_cons] at ih ⊢
          omega

lemma readItems_intercalate (h : List.Forall₂ (IsItem item) values texts) (hne : values ≠ [])
    {fuel : ℕ} (hfuel : values.length ≤ fuel) (rest : List Char) :
    readItems item ']' fuel (List.intercalate [','] texts ++ ']' :: rest) =
      some (values, rest) := by
  induction h generalizing fuel with
  | nil => exact absurd rfl hne
  | @cons value text values texts hitem hitems ih =>
      obtain ⟨fuel, rfl⟩ := Nat.exists_eq_add_of_le' (Nat.le_of_add_left_le hfuel)
      cases hitems with
      | nil =>
          rw [List.intercalate_singleton, readItems, hitem.read _ (.inr rfl)]
          rfl
      | @cons other othertext others othertexts hother hothers =>
          rw [List.length_cons] at hfuel
          rw [List.intercalate_cons_cons, List.append_assoc, List.append_assoc, readItems,
            hitem.read _ (.inl rfl)]
          have hlength : (other :: others).length ≤ fuel := by omega
          have hnext := ih (List.cons_ne_nil _ _) hlength
          simp [skipBlank, isBlank, hnext]

/-- Items between brackets are read back. -/
theorem readSequence_bracket (h : List.Forall₂ (IsItem item) values texts) (rest : List Char) :
    ∃ cs, bracket '[' ']' none texts ++ rest = '[' :: cs ∧
      readSequence item ']' cs = some (values, rest) := by
  rw [bracket]
  cases h with
  | nil => exact ⟨']' :: rest, rfl, rfl⟩
  | @cons value text values texts hitem hitems =>
      have hall := List.Forall₂.cons hitem hitems
      refine ⟨List.intercalate [','] (text :: texts) ++ ']' :: rest, by simp, ?_⟩
      -- an item begins with neither a blank nor the bracket, so the row is not read as empty
      obtain ⟨c, cs, hcs, hblank, hclose⟩ : ∃ c cs,
          List.intercalate [','] (text :: texts) ++ ']' :: rest = c :: cs ∧
            isBlank c = false ∧ c ≠ ']' := by
        obtain ⟨c, cs, rfl, hc⟩ := hitem.starts
        cases texts with
        | nil => exact ⟨c, cs ++ ']' :: rest, by simp, hc⟩
        | cons other texts => exact ⟨c, _, by rw [List.intercalate_cons_cons]; rfl, hc⟩
      have hlength : (value :: values).length ≤
          (List.intercalate [','] (text :: texts) ++ ']' :: rest).length := by
        rw [List.length_append]
        exact (length_le_intercalate hall).trans (Nat.le_add_right _ _)
      have hread := readItems_intercalate hall (List.cons_ne_nil _ _) hlength rest
      rw [hcs] at hread ⊢
      rw [readSequence, skipBlank, List.dropWhile_cons_of_neg (by simp [hblank])]
      dsimp only
      rw [if_neg (by simpa using hclose), hread]

/-- Whatever is read as an item of an array was read by the reader of items. -/
lemma mem_of_readItems {close : Char} {fuel : ℕ} {cs rest : List Char}
    (h : readItems item close fuel cs = some (values, rest)) :
    ∀ value ∈ values, ∃ cs rest, item cs = some (value, rest) := by
  induction fuel generalizing cs values rest with
  | zero => nomatch h
  | succ fuel ih =>
      rw [readItems, Option.bind_eq_bind, Option.bind_eq_some_iff] at h
      obtain ⟨⟨first, left⟩, hfirst, h⟩ := h
      dsimp only at h
      split at h
      · nomatch h
      · split at h
        · cases h
          rintro value hvalue
          rw [List.mem_singleton.mp hvalue]
          exact ⟨_, _, hfirst⟩
        · split at h
          · rw [Option.bind_eq_bind, Option.bind_eq_some_iff] at h
            obtain ⟨⟨others, left'⟩, hothers, h⟩ := h
            cases h
            rintro value hvalue
            rcases List.mem_cons.mp hvalue with rfl | hvalue
            · exact ⟨_, _, hfirst⟩
            · exact ih hothers value hvalue
          · nomatch h

lemma mem_of_readSequence {close : Char} {cs rest : List Char}
    (h : readSequence item close cs = some (values, rest)) :
    ∀ value ∈ values, ∃ cs rest, item cs = some (value, rest) := by
  rw [readSequence] at h
  split at h
  · nomatch h
  · split at h
    · cases h
      exact nofun
    · exact mem_of_readItems h

end Sequence

end VehicleTelemetry.Json
