import Mathlib.Tactic
import VehicleTelemetry.Proofs.Binary64.Finite
import VehicleTelemetry.Proofs.Decimal.Shortest
import VehicleTelemetry.Proofs.Json.Number
import VehicleTelemetry.Proofs.Json.Sequence

/-!
Values of a JSON text: what is written for them is read back, and what is read is in range.

* `readValue_write_float`: a finite float comes back bit for bit, since it is its shortest decimal
  that is written; `readValue_write_floats` is an array of them;
* `Json.InRange`: numbers as JSON texts can hold them, finite floats and whole numbers that fit;
  `inRange_readValue`: nothing else is read.
-/

namespace VehicleTelemetry.Json

variable {rest : List Char}

/-! ### Written values -/

lemma ends_nil : Ends [] :=
  nofun

lemma Separates.ends (h : Separates rest) : Ends rest := by
  intro c hc
  rcases h with h | h <;> cases h.symm.trans hc <;> rfl

lemma finite?_shortest {x : Float} {negative : Bool} {m : ℕ} {e : ℤ}
    (hx : Binary64.ofFloat x = .finite negative m e) :
    finite? negative (Decimal.shortest .even m e) = some (float x) := by
  have hback := Decimal.toFloat_shortest .even hx
  have hnearest := Decimal.nearest_shortest .even (Binary64.ofFloat_finite hx).1
  have hlt := Binary64.reducedBits_lt (Binary64.ofFloat_finite hx).1
  rw [Decimal.toFloat] at hback
  rw [finite?, if_neg (by omega), hback]

/-- A finite float is read back bit for bit. -/
theorem readValue_write_float (depth : ℕ) {x : Float} (hx : x.isFinite = true)
    (hrest : Ends rest) :
    readValue depth ((float x).write none ++ rest) = some (float x, rest) := by
  obtain ⟨negative, m, e, hfloat⟩ := Binary64.exists_ofFloat hx
  rw [write, readValue_writeFloat depth hfloat hrest, finite?_shortest hfloat]
  rfl

lemma readValue_write_bool (depth : ℕ) (value : Bool) :
    readValue depth ((bool value).write none) = some (bool value, []) := by
  rw [write, readValue.eq_def]
  cases value <;> rfl

lemma readValue_write_string (depth : ℕ) (text : String) :
    readValue depth ((string text).write none) = some (string text, []) := by
  have hread := readString_writeString text []
  rw [List.append_nil] at hread
  rw [write]
  rw [writeString, List.cons_append] at hread ⊢
  rw [readValue.eq_def]
  show (readString _ >>= _) = _
  rw [hread]
  rfl

lemma writeItems_eq (values : List Json) : writeItems none values = values.map (write none) := by
  induction values with
  | nil => rfl
  | cons value values ih => rw [writeItems, ih, List.map_cons]

lemma isItem_float (depth : ℕ) {x : Float} (hx : x.isFinite = true) :
    IsItem (readValue depth) (float x) ((float x).write none) where
  starts := by
    obtain ⟨negative, m, e, hfloat⟩ := Binary64.exists_ofFloat hx
    obtain ⟨c, cs, htext, hc⟩ := NumberText.begins_signed negative
      (.ofDecimal (Decimal.shortest .even m e))
    rw [write, writeFloat_eq hfloat]
    refine ⟨c, cs, htext, hc.not_isBlank, ?_⟩
    rintro rfl
    revert hc
    simp [Begins]
  read _ hrest := readValue_write_float depth hx hrest.ends

/-- An array of finite floats is read back. -/
theorem readValue_write_floats (depth : ℕ) {values : List Float}
    (h : ∀ x ∈ values, x.isFinite = true) :
    readValue (depth + 1) ((array (values.map float)).write none) =
      some (array (values.map float), []) := by
  have hitems : List.Forall₂ (IsItem (readValue depth)) (values.map float)
      (values.map fun x => (float x).write none) := by
    rw [List.forall₂_map_left_iff, List.forall₂_map_right_iff, List.forall₂_same]
    exact fun x hx => isItem_float depth (h x hx)
  obtain ⟨cs, hcs, hread⟩ := readSequence_bracket hitems []
  rw [List.append_nil] at hcs
  have hwrite : (array (values.map float)).write none = '[' :: cs := by
    rw [write, Option.map_none, writeItems_eq, List.map_map, ← hcs]
    rfl
  rw [hwrite, readValue.eq_def]
  show (readSequence _ _ _ >>= _) = _
  rw [hread]
  rfl

/-! ### Values that are read -/

/-- A number as a JSON text can hold it: a whole number that fits, or a finite float. -/
inductive IsNumber : Json → Prop where
  | int {value : ℤ} : fits value = true → IsNumber (int value)
  | float {x : Float} : x.isFinite = true → IsNumber (float x)

/-- A value that is in range if it is a number. -/
def NumberInRange : Json → Prop
  | .int value => fits value = true
  | .float x => x.isFinite = true
  | _ => True

/-- A value whose numbers, and those among its items, are in range. -/
def InRange : Json → Prop
  | .array items => ∀ item ∈ items, item.NumberInRange
  | value => value.NumberInRange

lemma isNumber_of_finite? {negative : Bool} {d : Decimal} {value : Json}
    (h : finite? negative d = some value) : IsNumber value := by
  rw [finite?] at h
  split at h
  · cases h
  · next hne =>
    cases h
    exact .float (Binary64.isFinite_toFloat (lt_of_le_of_ne d.nearest_le hne))

lemma isNumber_of_numberValue {negative : Bool} {whole : List Char} {fraction : Option (List Char)}
    {exponent : Option ℤ} {value : Json}
    (h : numberValue negative whole fraction exponent = some value) : IsNumber value := by
  rw [numberValue.eq_def] at h
  split at h
  · dsimp only at h
    generalize (if negative then _ else _ : ℤ) = size at h
    split at h
    · next hfits =>
      cases h
      exact .int (Bool.and_elim_left hfits)
    · exact isNumber_of_finite? h
  · exact isNumber_of_finite? h

lemma isNumber_of_readMagnitude {negative : Bool} {cs : List Char} {value : Json}
    (h : readMagnitude negative cs = some (value, rest)) : IsNumber value := by
  simp only [readMagnitude, Option.bind_eq_bind, Option.bind_eq_some_iff] at h
  obtain ⟨_, _, _, _, _, _, number, hnumber, h⟩ := h
  cases h
  exact isNumber_of_numberValue hnumber

lemma isNumber_of_readNumber {cs : List Char} {value : Json}
    (h : readNumber cs = some (value, rest)) : IsNumber value := by
  rw [readNumber.eq_def] at h
  split at h
  · exact isNumber_of_readMagnitude h
  · exact isNumber_of_readMagnitude h

lemma IsNumber.inRange {value : Json} (h : IsNumber value) : value.InRange := by
  cases h with
  | int h => exact h
  | float h => exact h

lemma InRange.numberInRange {value : Json} (h : value.InRange) : value.NumberInRange := by
  cases value with
  | array items => trivial
  | _ => exact h

lemma inRange_of_readWord {word cs : List Char} {constant value : Json} (hword : constant.InRange)
    (h : readWord word constant cs = some (value, rest)) : value.InRange := by
  rw [readWord] at h
  split at h
  · cases h
    exact hword
  · nomatch h

/-- What is read as a value is in range. -/
theorem inRange_of_readValue {depth : ℕ} {cs rest : List Char} {value : Json}
    (h : readValue depth cs = some (value, rest)) : value.InRange := by
  rw [readValue.eq_def] at h
  split at h
  case h_1 => nomatch h
  case h_2 => exact inRange_of_readWord (show null.InRange from trivial) h
  case h_3 => exact inRange_of_readWord (show (bool true).InRange from trivial) h
  case h_4 => exact inRange_of_readWord (show (bool false).InRange from trivial) h
  case h_5 =>
    obtain ⟨_, _, h⟩ := Option.bind_eq_some_iff.mp h
    cases h
    trivial
  case h_6 =>
    -- the items are values of a lesser depth
    match depth with
    | 0 => nomatch h
    | depth + 1 =>
      obtain ⟨⟨items, left⟩, hitems, h⟩ := Option.bind_eq_some_iff.mp h
      cases h
      intro item hitem
      obtain ⟨_, _, hread⟩ := mem_of_readSequence hitems item hitem
      exact (inRange_of_readValue hread).numberInRange
  case h_7 =>
    match depth with
    | 0 => nomatch h
    | depth + 1 =>
      obtain ⟨_, _, h⟩ := Option.bind_eq_some_iff.mp h
      cases h
      trivial
  case h_8 => exact (isNumber_of_readNumber h).inRange

end VehicleTelemetry.Json
