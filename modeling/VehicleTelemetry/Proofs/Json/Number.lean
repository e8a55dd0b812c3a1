import Mathlib.Tactic
import VehicleTelemetry.Json.Parser
import VehicleTelemetry.Json.Printer
import VehicleTelemetry.Proofs.Decimal.Nearest
import VehicleTelemetry.Proofs.Text.Digits

/-!
A written number is read as the number it was written for.

* `NumberText`: the parts of a number as it is written, without its sign, and the decimal that they
  spell; `readMagnitude_text` reads them back, whatever follows that does not go on with the number;
* `NumberText.ofDecimal`: the parts in which a decimal is written. There is a point or an exponent
  among them (`isSome_ofDecimal`), and they spell a decimal of the same value (`value_ofDecimal`);
* `readValue_writeFloat`, `readValue_writeInt`: so a written float is read as the float nearest to
  its decimal, and a whole number that fits stays what it is.
-/

namespace VehicleTelemetry.Json

open Text

/-- The digits before a point: there is one, and a zero stands alone. -/
structure IsWhole (digits : List Char) : Prop where
  ne_nil : digits ≠ []
  isDigit : ∀ c ∈ digits, c.isDigit = true
  zero_alone : digits.head? = some '0' → digits.length = 1

/-- The digits after a point. -/
structure IsPlaces (digits : List Char) : Prop where
  ne_nil : digits ≠ []
  isDigit : ∀ c ∈ digits, c.isDigit = true

/-- The characters that go on with a number. -/
def goesOn (c : Char) : Bool :=
  c.isDigit || c == '.' || c == 'e' || c == 'E'

/-- What may follow a number. -/
def Ends (rest : List Char) : Prop :=
  ∀ c ∈ rest.head?, goesOn c = false

/-- The parts of a number without its sign. -/
structure NumberText where
  whole : List Char
  fraction : Option (List Char)
  exponent : Option ℤ
  isWhole : IsWhole whole
  isPlaces : ∀ places ∈ fraction, IsPlaces places

namespace NumberText

/-- The point and the digits after it. -/
def fractionChars : Option (List Char) → List Char
  | none => []
  | some places => '.' :: places

/-- The letter, the sign and the digits of an exponent. -/
def exponentChars : Option ℤ → List Char
  | none => []
  | some (.ofNat e) => 'e' :: '+' :: Nat.toDigits 10 e
  | some (.negSucc e) => 'e' :: '-' :: Nat.toDigits 10 (e + 1)

/-- How the parts are written. -/
def chars (text : NumberText) : List Char :=
  text.whole ++ fractionChars text.fraction ++ exponentChars text.exponent

/-- The decimal that the parts spell. -/
def decimal (text : NumberText) : Decimal :=
  ⟨digitsValue 10 (text.whole ++ text.fraction.getD []),
    text.exponent.getD 0 - (text.fraction.getD []).length⟩

end NumberText

/-! ### Reading -/

variable {digits rest : List Char} {negative : Bool}

lemma readDigits_append (hne : digits ≠ []) (hdigits : ∀ c ∈ digits, c.isDigit = true)
    (hrest : ∀ c ∈ rest.head?, c.isDigit = false) :
    readDigits (digits ++ rest) = some (digits, rest) := by
  have hstop : rest.takeWhile Char.isDigit = [] ∧ rest.dropWhile Char.isDigit = rest := by
    cases rest with
    | nil => exact ⟨rfl, rfl⟩
    | cons c rest => simp [hrest c rfl]
  rw [readDigits, List.span_eq_takeWhile_dropWhile, List.takeWhile_append_of_pos hdigits,
    List.dropWhile_append_of_pos hdigits, hstop.1, hstop.2, List.append_nil]
  cases digits with
  | nil => exact absurd rfl hne
  | cons c digits => rfl

lemma readWhole_append (h : IsWhole digits) (hrest : ∀ c ∈ rest.head?, c.isDigit = false) :
    readWhole (digits ++ rest) = some (digits, rest) := by
  rw [readWhole, readDigits_append h.ne_nil h.isDigit hrest, Option.bind_eq_bind, Option.bind_some]
  dsimp only
  split
  · next c others => exact absurd (h.zero_alone rfl) (by simp)
  · rfl

lemma Ends.not_isDigit (h : Ends rest) : ∀ c ∈ rest.head?, c.isDigit = false := by
  intro c hc
  have := h c hc
  simp only [goesOn, Bool.or_eq_false_iff] at this
  exact this.1.1.1

lemma readFraction_append {fraction : Option (List Char)}
    (h : ∀ places ∈ fraction, IsPlaces places) (hdigit : ∀ c ∈ rest.head?, c.isDigit = false)
    (hpoint : rest.head? ≠ some '.') :
    readFraction (NumberText.fractionChars fraction ++ rest) = some (fraction, rest) := by
  cases fraction with
  | none =>
      rw [NumberText.fractionChars, List.nil_append, readFraction]
      rintro _ rfl
      exact hpoint rfl
  | some places =>
      obtain ⟨hne, hdigits⟩ := h places rfl
      rw [NumberText.fractionChars, List.cons_append, readFraction,
        readDigits_append hne hdigits hdigit]
      rfl

lemma readExponent_append (exponent : Option ℤ) (hrest : Ends rest) :
    readExponent (NumberText.exponentChars exponent ++ rest) = some (exponent, rest) := by
  have hdigits (e : ℕ) := readDigits_append (Nat.toDigits_ne_nil (n := e)) (isDigit_toDigits e)
    hrest.not_isDigit
  match exponent with
  | none =>
      rw [NumberText.exponentChars, List.nil_append]
      cases rest with
      | nil => rfl
      | cons c rest =>
          have hc := hrest c rfl
          simp only [goesOn, Bool.or_eq_false_iff] at hc
          rw [readExponent, hc.1.2, hc.2]
          rfl
  | some (.ofNat e) =>
      simp [NumberText.exponentChars, readExponent, readSign, hdigits, digitsValue_toDigits]
  | some (.negSucc e) =>
      simp [NumberText.exponentChars, readExponent, readSign, hdigits, digitsValue_toDigits,
        Int.negSucc_eq]

/-- The parts of a number are read back, and their value is taken. -/
lemma readMagnitude_text (text : NumberText) (hrest : Ends rest) :
    readMagnitude negative (text.chars ++ rest) =
      (numberValue negative text.whole text.fraction text.exponent).map (·, rest) := by
  -- each reader stops where the next part begins, so the beginnings are looked at first
  have hexponent : ∀ c ∈ (NumberText.exponentChars text.exponent ++ rest).head?,
      c.isDigit = false ∧ c ≠ '.' := by
    match text.exponent with
    | none =>
        intro c hc
        have := hrest c hc
        simp only [goesOn, Bool.or_eq_false_iff, beq_eq_false_iff_ne] at this
        exact ⟨this.1.1.1, this.1.1.2⟩
    | some (.ofNat e) => rintro _ ⟨⟩; decide
    | some (.negSucc e) => rintro _ ⟨⟩; decide
  have hfraction : ∀ c ∈ (NumberText.fractionChars text.fraction ++
      (NumberText.exponentChars text.exponent ++ rest)).head?, c.isDigit = false := by
    match text.fraction with
    | none => exact fun c hc => (hexponent c hc).1
    | some places => rintro _ ⟨⟩; decide
  rw [NumberText.chars, List.append_assoc, List.append_assoc, readMagnitude,
    readWhole_append text.isWhole hfraction]
  simp only [Option.bind_eq_bind, Option.bind_some]
  rw [readFraction_append text.isPlaces (fun c hc => (hexponent c hc).1)
    fun h => (hexponent _ h).2 rfl]
  simp only [Option.bind_some]
  rw [readExponent_append _ hrest, Option.bind_some]
  cases numberValue negative text.whole text.fraction text.exponent <;> rfl

/-- With a point or an exponent the value is a float. -/
lemma numberValue_of_isSome (negative : Bool) (text : NumberText)
    (h : text.fraction.isSome ∨ text.exponent.isSome) :
    numberValue negative text.whole text.fraction text.exponent =
      finite? negative text.decimal := by
  rw [numberValue, NumberText.decimal]
  rintro hfraction hexponent
  simp [hfraction, hexponent] at h

lemma finite?_congr {d other : Decimal} (h : d.value = other.value) (negative : Bool) :
    finite? negative d = finite? negative other := by
  rw [finite?, finite?, Decimal.nearest_congr h]

/-! ### Written decimals -/

lemma isWhole_toDigits (n : ℕ) : IsWhole (Nat.toDigits 10 n) where
  ne_nil := Nat.toDigits_ne_nil
  isDigit := isDigit_toDigits n
  zero_alone h := by rw [head?_toDigits h]; rfl

lemma length_padded (width n : ℕ) :
    (Decimal.padded width n).length = max width (Nat.toDigits 10 n).length := by
  rw [Decimal.padded, List.length_append, List.length_replicate]
  omega

lemma isDigit_padded (width n : ℕ) : ∀ c ∈ Decimal.padded width n, c.isDigit = true := by
  intro c hc
  rcases List.mem_append.mp hc with hzero | hdigit
  · rw [List.eq_of_mem_replicate hzero]
    rfl
  · exact isDigit_toDigits n c hdigit

lemma digitsValue_padded (width n : ℕ) : digitsValue 10 (Decimal.padded width n) = n := by
  rw [Decimal.padded, digitsValue_zeros, digitsValue_toDigits]

/-- Digits are padded just so far that one stands before the point. -/
lemma isWhole_take_padded (places n : ℕ) (hplaces : 0 < places) :
    IsWhole ((Decimal.padded (places + 1) n).take
      ((Decimal.padded (places + 1) n).length - places)) := by
  have hlength := length_padded (places + 1) n
  refine ⟨?_, fun c hc => isDigit_padded _ n c (List.mem_of_mem_take hc), fun hzero => ?_⟩
  · rw [← List.length_pos_iff_ne_nil, List.length_take]
    omega
  · rw [List.length_take, hlength]
    rw [List.head?_take, if_neg (by omega)] at hzero
    by_cases hshort : (Nat.toDigits 10 n).length ≤ places + 1
    · omega
    · rw [Decimal.padded, Nat.sub_eq_zero_of_le (by omega), List.replicate_zero,
        List.nil_append] at hzero
      rw [head?_toDigits hzero] at hshort
      simp at hshort

namespace NumberText

/-- A whole number. -/
def ofNat (n : ℕ) : NumberText where
  whole := Nat.toDigits 10 n
  fraction := none
  exponent := none
  isWhole := isWhole_toDigits n
  isPlaces := nofun

lemma chars_ofNat (n : ℕ) : (ofNat n).chars = Nat.toDigits 10 n := by
  simp [chars, ofNat, fractionChars, exponentChars]

/-- A whole number with a point and a zero. -/
def ofWhole (n : ℕ) : NumberText where
  whole := Nat.toDigits 10 n
  fraction := some ['0']
  exponent := none
  isWhole := isWhole_toDigits n
  isPlaces := by
    rintro _ ⟨⟩
    exact ⟨by simp, by simp⟩

/-- A number with `last + 1` digits after its point. -/
def ofPlaces (last n : ℕ) : NumberText where
  whole := (Decimal.padded (last + 2) n).take ((Decimal.padded (last + 2) n).length - (last + 1))
  fraction := some <|
    (Decimal.padded (last + 2) n).drop ((Decimal.padded (last + 2) n).length - (last + 1))
  exponent := none
  isWhole := isWhole_take_padded (last + 1) n (by omega)
  isPlaces := by
    have hlength := length_padded (last + 2) n
    rintro _ ⟨⟩
    refine ⟨?_, fun c hc => isDigit_padded _ n c (List.mem_of_mem_drop hc)⟩
    rw [← List.length_pos_iff_ne_nil, List.length_drop]
    omega

/-- One digit before the point, and a power of ten. -/
def ofScale (n : ℕ) (scale : ℤ) : NumberText where
  whole := (Nat.toDigits 10 n).take 1
  fraction := some ((Nat.toDigits 10 n).drop 1) |>.filter (· ≠ [])
  exponent := some scale
  isWhole := by
    have hlength := Nat.length_toDigits_pos (b := 10) (n := n)
    refine ⟨?_, fun c hc => isDigit_toDigits n c (List.mem_of_mem_take hc), fun _ => ?_⟩
    · rw [← List.length_pos_iff_ne_nil, List.length_take]
      omega
    · rw [List.length_take]
      omega
  isPlaces := by
    intro places hplaces
    obtain ⟨⟨⟩, hne⟩ := Option.filter_eq_some_iff.mp hplaces
    exact ⟨of_decide_eq_true hne, fun c hc => isDigit_toDigits n c (List.mem_of_mem_drop hc)⟩

lemma value_ofWhole (n : ℕ) : (ofWhole n).decimal.value = n := by
  rw [decimal, Decimal.value, ofWhole, Option.getD_some, digitsValue_append, digitsValue_toDigits]
  simp [digitsValue, digitValue?]

lemma decimal_ofPlaces (last n : ℕ) : (ofPlaces last n).decimal = ⟨n, .negSucc last⟩ := by
  have hlength := length_padded (last + 2) n
  rw [decimal, ofPlaces, Option.getD_some, List.take_append_drop, digitsValue_padded,
    List.length_drop]
  congr 1
  simp only [Option.getD_none]
  omega

lemma decimal_ofScale (n : ℕ) (scale : ℤ) :
    (ofScale n scale).decimal = ⟨n, scale + 1 - Decimal.digitCount n⟩ := by
  have hlength := Nat.length_toDigits_pos (b := 10) (n := n)
  have hfraction : (ofScale n scale).fraction.getD [] = (Nat.toDigits 10 n).drop 1 := by
    show ((some ((Nat.toDigits 10 n).drop 1)).filter (· ≠ [])).getD [] = _
    cases (Nat.toDigits 10 n).drop 1 <;> rfl
  rw [decimal, hfraction, ofScale, List.take_append_drop, digitsValue_toDigits, List.length_drop,
    Decimal.digitCount]
  congr 1
  simp only [Option.getD_some]
  omega

lemma chars_ofPlaces (last n : ℕ) :
    (ofPlaces last n).chars = Decimal.positional ⟨n, .negSucc last⟩ := by
  rw [chars, ofPlaces, Decimal.positional, exponentChars, List.append_nil, fractionChars]

lemma chars_ofScale (d : Decimal) :
    (ofScale d.digits d.scale).chars = Decimal.scientific true d := by
  rw [chars, ofScale, Decimal.scientific]
  dsimp only
  cases hdigits : Nat.toDigits 10 d.digits with
  | nil => exact absurd hdigits Nat.toDigits_ne_nil
  | cons c others =>
      cases others <;> cases d.scale <;> rfl

/-- The parts in which a decimal is written. -/
def ofDecimal (d : Decimal) : NumberText :=
  if -5 ≤ d.scale ∧ d.scale ≤ 15 then
    match d.exponent with
    | .ofNat e => ofWhole (d.digits * Decimal.tenPow e)
    | .negSucc e => ofPlaces e d.digits
  else ofScale d.digits d.scale

lemma chars_ofDecimal (d : Decimal) : (ofDecimal d).chars = Decimal.Layout.json.write d := by
  obtain ⟨digits, exponent⟩ := d
  rw [ofDecimal, Decimal.Layout.write]
  simp only [Decimal.Layout.json, ← Bool.decide_and, decide_eq_true_eq]
  split
  · cases exponent with
    | ofNat e =>
        simp [ofWhole, chars, fractionChars, exponentChars, Decimal.positional]
    | negSucc e =>
        simp [chars_ofPlaces]
  · exact chars_ofScale ⟨digits, exponent⟩

/-- A decimal is written with a point or an exponent. -/
lemma isSome_ofDecimal (d : Decimal) :
    (ofDecimal d).fraction.isSome ∨ (ofDecimal d).exponent.isSome := by
  rw [ofDecimal]
  split
  · split
    · exact .inl rfl
    · exact .inl rfl
  · exact .inr rfl

lemma value_ofDecimal (d : Decimal) : (ofDecimal d).decimal.value = d.value := by
  obtain ⟨digits, exponent⟩ := d
  rw [ofDecimal]
  split
  · cases exponent with
    | ofNat e =>
        rw [value_ofWhole, Decimal.value, Decimal.tenPow, Int.ofNat_eq_natCast, zpow_natCast,
          Nat.pow_eq]
        push_cast
        rfl
    | negSucc e => rw [decimal_ofPlaces]
  · rw [decimal_ofScale, Decimal.scale]
    congr 2
    dsimp only
    omega

end NumberText

/-- A written decimal is rounded when it is read. -/
theorem readMagnitude_write (d : Decimal) (hrest : Ends rest) :
    readMagnitude negative (Decimal.Layout.json.write d ++ rest) =
      (finite? negative d).map (·, rest) := by
  rw [← NumberText.chars_ofDecimal, readMagnitude_text _ hrest,
    numberValue_of_isSome _ _ (NumberText.isSome_ofDecimal d),
    finite?_congr (NumberText.value_ofDecimal d)]

/-! ### Numbers as values -/

lemma NumberText.exists_cons (text : NumberText) :
    ∃ c cs, text.chars = c :: cs ∧ c.isDigit = true := by
  obtain ⟨hne, hdigits, -⟩ := text.isWhole
  obtain ⟨c, cs, hwhole⟩ := List.exists_cons_of_ne_nil hne
  refine ⟨c, cs ++ NumberText.fractionChars text.fraction ++
    NumberText.exponentChars text.exponent, ?_, hdigits c (by simp [hwhole])⟩
  rw [NumberText.chars, hwhole, List.cons_append, List.cons_append]

/-- The characters that a number starts with. -/
def Begins (c : Char) : Prop :=
  c = '-' ∨ c.isDigit = true

lemma Begins.not_isBlank {c : Char} (h : Begins c) : isBlank c = false := by
  rw [← Bool.not_eq_true, isBlank]
  simp only [Bool.or_eq_true, beq_iff_eq]
  rintro (((rfl | rfl) | rfl) | rfl) <;> revert h <;> simp [Begins]

lemma readValue_number (depth : ℕ) {c : Char} {cs : List Char} (hc : Begins c) :
    readValue depth (c :: cs) = readNumber (c :: cs) := by
  have hblank : skipBlank (c :: cs) = c :: cs :=
    List.dropWhile_cons_of_neg (by simp [hc.not_isBlank])
  rw [readValue.eq_def, hblank]
  -- no number starts with the first character of another value
  split
  case h_1 heq => nomatch heq
  case h_8 => rfl
  all_goals
    next heq =>
    cases heq
    exact absurd hc (by simp [Begins])

lemma NumberText.begins_signed (negative : Bool) (text : NumberText) :
    ∃ c cs, Decimal.signed negative text.chars = c :: cs ∧ Begins c := by
  obtain ⟨c, cs, htext, hc⟩ := text.exists_cons
  rw [htext, Decimal.signed]
  cases negative with
  | true => exact ⟨_, _, rfl, .inl rfl⟩
  | false => exact ⟨_, _, rfl, .inr hc⟩

/-- A number with its sign is read from its parts. -/
lemma readValue_signed (depth : ℕ) (negative : Bool) (text : NumberText) (rest : List Char) :
    readValue depth (Decimal.signed negative text.chars ++ rest) =
      readMagnitude negative (text.chars ++ rest) := by
  obtain ⟨c, cs, htext, hc⟩ := text.exists_cons
  rw [htext, Decimal.signed]
  cases negative with
  | true => exact readValue_number depth (.inl rfl)
  | false =>
      refine (readValue_number depth (.inr hc)).trans ?_
      rw [readNumber]
      · rfl
      · rintro _ ⟨⟩
        exact absurd hc (by decide)

lemma writeFloat_eq {x : Float} {m : ℕ} {e : ℤ} (hx : Binary64.ofFloat x = .finite negative m e) :
    writeFloat x = Decimal.signed negative
      (NumberText.ofDecimal (Decimal.shortest .even m e)).chars := by
  rw [writeFloat, hx, NumberText.chars_ofDecimal, Decimal.Layout.float, hx]
  rfl

/-- A written float is read as the float nearest to its decimal. -/
theorem readValue_writeFloat (depth : ℕ) {x : Float} {m : ℕ} {e : ℤ}
    (hx : Binary64.ofFloat x = .finite negative m e) (hrest : Ends rest) :
    readValue depth (writeFloat x ++ rest) =
      (finite? negative (Decimal.shortest .even m e)).map (·, rest) := by
  rw [writeFloat_eq hx, readValue_signed, NumberText.chars_ofDecimal, readMagnitude_write _ hrest]

/-- A written whole number is read as it is, if it fits. -/
theorem readValue_writeInt (depth : ℕ) {value : ℤ} (hfits : fits value = true)
    (hrest : Ends rest) : readValue depth (writeInt value ++ rest) = some (int value, rest) := by
  have hread (negative : Bool) (n : ℕ) :
      readValue depth (Decimal.signed negative (Nat.toDigits 10 n) ++ rest) =
        (numberValue negative (Nat.toDigits 10 n) none none).map (·, rest) := by
    conv_lhs => rw [← NumberText.chars_ofNat, readValue_signed, readMagnitude_text _ hrest]
    rfl
  cases value with
  | ofNat n =>
      refine (hread false n).trans ?_
      rw [numberValue, digitsValue_toDigits, if_pos (by simpa using hfits)]
      rfl
  | negSucc n =>
      refine (hread true (n + 1)).trans ?_
      rw [numberValue, digitsValue_toDigits, if_pos]
      · rfl
      · rw [if_pos rfl, show -((n + 1 : ℕ) : ℤ) = .negSucc n from rfl, hfits]
        rfl

end VehicleTelemetry.Json
