import Mathlib.Tactic
import VehicleTelemetry.Metric.Text
import VehicleTelemetry.Proofs.Json.Value

/-!
A metric value is read back from its JSON text as what it was, although its kind is not written.

* `HasFiniteFloats`: the values that can be written; `parse?_write_eq` reads each back;
* `variants`: the kinds in the order in which they are tried; `ofJson?_eq_findSome?` says that the
  first one that takes a JSON value is the kind it is read as;
* `hasFiniteFloats_of_parse?`: whatever is read can be written again.
-/

namespace VehicleTelemetry.MetricValue

/-- Every float of a value is finite. -/
def HasFiniteFloats : MetricValue → Prop
  | float x => x.isFinite = true
  | floats xs => ∀ x ∈ xs, x.isFinite = true
  | bool _ | int _ | text _ => True

instance : DecidablePred HasFiniteFloats
  | float x => inferInstanceAs (Decidable (x.isFinite = true))
  | floats xs => inferInstanceAs (Decidable (∀ x ∈ xs, x.isFinite = true))
  | bool _ | int _ | text _ => inferInstanceAs (Decidable True)

/-! ### The kinds in turn -/

/-- A JSON value as a boolean. -/
def boolOfJson? : Json → Option MetricValue
  | .bool value => some (bool value)
  | _ => none

/-- A JSON value as a whole number of sixty-four bits with a sign. -/
def intOfJson? : Json → Option MetricValue
  | .int value => if Word.isSigned value then some (int (Int64.ofInt value)) else none
  | _ => none

/-- A JSON value as a text. -/
def textOfJson? : Json → Option MetricValue
  | .string value => some (text value)
  | _ => none

/-- A JSON value as an array of floats. -/
def floatsOfJson? : Json → Option MetricValue
  | .array items => floats <$> items.mapM floatOfJson?
  | _ => none

/-- The kinds in the order in which they are tried. -/
def variants : List (Json → Option MetricValue) :=
  [boolOfJson?, intOfJson?, fun json => float <$> floatOfJson? json, textOfJson?, floatsOfJson?]

/-- A JSON value is read as the first kind that takes it. -/
lemma ofJson?_eq_findSome? (json : Json) : ofJson? json = variants.findSome? (· json) := by
  cases json with
  | int value =>
      rw [ofJson?, variants, List.findSome?_cons, List.findSome?_cons]
      by_cases h : Word.isSigned value
      · simp only [boolOfJson?, intOfJson?, if_pos h]
      · simp only [boolOfJson?, intOfJson?, if_neg h]
        rfl
  | array items =>
      show floats <$> items.mapM floatOfJson? =
        [floatsOfJson?].findSome? (· (.array items))
      rw [List.findSome?_cons, floatsOfJson?]
      cases items.mapM floatOfJson? <;> rfl
  | _ => rfl

/-! ### Written values -/

lemma ofJson?_toJson (value : MetricValue) : ofJson? value.toJson = some value := by
  cases value with
  | int value =>
      have hlow := value.le_toInt
      have hhigh := value.toInt_lt
      rw [toJson, ofJson?, if_pos ((Word.isSigned_iff _).mpr (by omega)), Int64.ofInt_toInt]
  | floats xs =>
      have hitems : (xs.map Json.float).mapM floatOfJson? = some xs := by
        induction xs with
        | nil => rfl
        | cons x xs ih =>
            rw [List.map_cons, List.mapM_cons, ih]
            rfl
      rw [toJson, ofJson?, hitems]
      rfl
  | _ => rfl

lemma readValue_write {value : MetricValue} (h : value.HasFiniteFloats) :
    Json.readValue Json.nestingLimit (value.toJson.write none) = some (value.toJson, []) := by
  cases value with
  | bool value => exact Json.readValue_write_bool _ value
  | int value =>
      have hlow := value.le_toInt
      have hhigh := value.toInt_lt
      have hfits : Json.fits value.toInt = true := by
        simp [Json.fits]
        omega
      have hread := Json.readValue_writeInt Json.nestingLimit hfits Json.ends_nil
      rwa [List.append_nil] at hread
  | float x =>
      have hread := Json.readValue_write_float Json.nestingLimit h Json.ends_nil
      rwa [List.append_nil] at hread
  | text value => exact Json.readValue_write_string _ value
  | floats xs => exact Json.readValue_write_floats 126 h

/-- A value that can be written is read back as what it was. -/
lemma parse?_write_eq {value : MetricValue} (h : value.HasFiniteFloats) :
    parse? value.write = some value := by
  rw [parse?, Json.parse?, write, Json.compact, String.toList_ofList, Json.ofChars?,
    readValue_write h]
  exact ofJson?_toJson value

/-! ### Values that are read -/

lemma isFinite_of_floatOfJson? {json : Json} (h : json.NumberInRange) {x : Float}
    (hx : floatOfJson? json = some x) : x.isFinite = true := by
  cases json with
  | int value =>
      cases hx
      have hfits : Json.fits value = true := h
      simp only [Json.fits, Bool.and_eq_true, decide_eq_true_eq, UInt64.size] at hfits
      exact Binary64.isFinite_ofInt (by omega) (by omega)
  | float y =>
      cases hx
      exact h
  | _ => nomatch hx

lemma isFinite_of_mapM {items : List Json} (h : ∀ item ∈ items, item.NumberInRange)
    {xs : List Float} (hxs : items.mapM floatOfJson? = some xs) : ∀ x ∈ xs, x.isFinite = true := by
  induction items generalizing xs with
  | nil =>
      cases hxs
      exact nofun
  | cons item items ih =>
      simp only [List.mapM_cons, Option.bind_eq_bind, Option.bind_eq_some_iff] at hxs
      obtain ⟨x, hx, others, hothers, heq⟩ := hxs
      cases heq
      rw [List.forall_mem_cons] at h ⊢
      exact ⟨isFinite_of_floatOfJson? h.1 hx, ih h.2 hothers⟩

lemma hasFiniteFloats_of_ofJson? {json : Json} (h : json.InRange) {value : MetricValue}
    (hvalue : ofJson? json = some value) : value.HasFiniteFloats := by
  cases json with
  | null => nomatch hvalue
  | bool value =>
      cases hvalue
      trivial
  | int value =>
      rw [ofJson?] at hvalue
      have hnumber : (Json.int value).NumberInRange := h
      split at hvalue <;> cases hvalue
      · trivial
      · exact isFinite_of_floatOfJson? hnumber rfl
  | float x =>
      cases hvalue
      exact h
  | string value =>
      cases hvalue
      trivial
  | array items =>
      obtain ⟨xs, hxs, rfl⟩ := Option.map_eq_some_iff.mp hvalue
      exact isFinite_of_mapM h hxs
  | object members => nomatch hvalue

/-- No text is read as a value with a float that is not finite. -/
lemma hasFiniteFloats_of_parse? {input : String} {value : MetricValue}
    (h : parse? input = some value) : value.HasFiniteFloats := by
  obtain ⟨json, hjson, hvalue⟩ := Option.bind_eq_some_iff.mp h
  obtain ⟨⟨read, rest⟩, hread, hrest⟩ := Option.bind_eq_some_iff.mp hjson
  dsimp only at hrest
  split at hrest <;> cases hrest
  exact hasFiniteFloats_of_ofJson? (Json.inRange_of_readValue hread) hvalue

/-- **Reading inverts writing.** Each kind of value is the first one that takes the JSON value.
Every value whose floats are finite is read back as what it was, its floats bit for bit. What is
read from any text is such a value, so that it can be written and read again. -/
theorem parse_write :
    (∀ input, parse? input = Json.parse? input >>= fun json => variants.findSome? (· json)) ∧
      (∀ value : MetricValue, value.HasFiniteFloats → parse? value.write = some value) ∧
      ∀ input value, parse? input = some value → parse? value.write = some value := by
  refine ⟨fun input => ?_, fun value => parse?_write_eq, fun input value h => ?_⟩
  · rw [parse?, funext ofJson?_eq_findSome?]
  · exact parse?_write_eq (hasFiniteFloats_of_parse? h)

/-- A negative zero, the least float and a text of escapes are written and read back; a list that
holds a whole number beyond the signed ones is read as floats. -/
theorem parse_write_signs_and_escapes :
    (floats [-0.0, 5e-324]).HasFiniteFloats ∧
      parse? (floats [-0.0, 5e-324]).write = some (floats [-0.0, 5e-324]) ∧
      parse? (text "\"\\\n\u0001\u00e9").write = some (text "\"\\\n\u0001\u00e9") ∧
      parse? "[1, -0, 18446744073709551615]" = some (floats [1.0, -0.0, 18446744073709551615.0]) ∧
      parse? (floats [1.0, -0.0, 18446744073709551615.0]).write =
        some (floats [1.0, -0.0, 18446744073709551615.0]) := by
  have hfloats : (floats [-0.0, 5e-324]).HasFiniteFloats := by decide +kernel
  have hread : parse? "[1, -0, 18446744073709551615]" =
      some (floats [1.0, -0.0, 18446744073709551615.0]) := by decide +kernel
  exact ⟨hfloats, parse_write.2.1 _ hfloats, parse_write.2.1 _ trivial, hread,
    parse_write.2.2 _ _ hread⟩

end VehicleTelemetry.MetricValue
