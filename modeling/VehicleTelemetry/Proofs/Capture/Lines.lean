import Mathlib.Tactic
import VehicleTelemetry.Capture.File

/-!
The lines of a capture, and the first of them that cannot be read.

* `characters?_eq_some_iff`: bytes encode a text if they are what its characters are encoded by;
* `text?`, `text?_withoutReturn`: the trimmed text of a line, which is the same with and without a
  carriage return at its end;
* `isBad`, `event?`, `errorOf`: what there is to know of a line, and `readLine_eq`, that it is
  read by them;
* `readFrom_linesFrom`: the lines of a file can be taken as the pieces between its newlines. The
  last piece may be empty, which is one blank line more, and what a line is without its carriage
  return, it is with it;
* `readFrom_eq`: the first bad line decides.
-/

namespace VehicleTelemetry.Capture

/-! ### The text of a line -/

/-- Bytes encode the text that is encoded by them. -/
lemma characters?_eq_some_iff {bytes : List UInt8} {text : List Char} :
    characters? bytes = some text ↔ text.flatMap String.utf8EncodeChar = bytes := by
  have hbytes : (⟨bytes.toArray⟩ : ByteArray) = bytes.toByteArray :=
    ByteArray.ext List.data_toByteArray.symm
  have hencode : (String.ofList text).toByteArray =
      (text.flatMap String.utf8EncodeChar).toByteArray := String.toByteArray_ofList
  rw [characters?, hbytes, String.fromUTF8?]
  constructor
  · intro h
    split at h
    · next hvalid =>
      obtain rfl : (String.fromUTF8 bytes.toByteArray hvalid).toList = text := by simpa using h
      rw [String.ofList_toList] at hencode
      have hcode : bytes.toByteArray = _ := hencode
      simpa using congrArg (fun b => b.data.toList) hcode.symm
    · simp at h
  · rintro rfl
    have hvalid : (text.flatMap String.utf8EncodeChar).toByteArray.IsValidUTF8 := ⟨text, rfl⟩
    have hstring : String.fromUTF8 _ hvalid = String.ofList text :=
      String.toByteArray_inj.mp hencode.symm
    rw [dif_pos hvalid, hstring]
    simp

/-- No other character is encoded with the byte of a carriage return at its end. -/
lemma eq_return_of_getLast? {c : Char} (h : (String.utf8EncodeChar c).getLast? = some 0x0D) :
    c = '\r' := by
  have hbyte {n : Nat} (hn : UInt8.ofNat n = 0x0D) : n % 256 = 13 := by
    simpa using congrArg UInt8.toNat hn
  rw [String.utf8EncodeChar] at h
  split_ifs at h with hone
  · have hval := hbyte (n := c.val.toNat) (by simpa using h)
    refine Char.ext (UInt32.toNat_inj.mp ?_)
    show c.val.toNat = 13
    omega
  all_goals
    have hval := hbyte (n := c.val.toNat % 64 + 128) (by simpa using h)
    omega

lemma characters?_concat_return (line : List UInt8) :
    characters? (line ++ [0x0D]) = (characters? line).map (· ++ ['\r']) := by
  have hreturn : String.utf8EncodeChar '\r' = [0x0D] := by decide
  ext text
  rw [characters?_eq_some_iff, Option.map_eq_some_iff]
  constructor
  · intro h
    induction text using List.reverseRecOn with
    | nil => simp at h
    | append_singleton text c _ =>
        rw [List.flatMap_append, List.flatMap_singleton] at h
        obtain rfl : c = '\r' := by
          refine eq_return_of_getLast? ?_
          have hlast := congrArg List.getLast? h
          rw [List.getLast?_append_of_ne_nil _ (String.utf8EncodeChar_ne_nil)] at hlast
          simpa using hlast
        rw [hreturn] at h
        exact ⟨text, characters?_eq_some_iff.mpr (List.append_cancel_right h), rfl⟩
  · rintro ⟨before, hbefore, rfl⟩
    rw [List.flatMap_append, characters?_eq_some_iff.mp hbefore, List.flatMap_singleton, hreturn]

/-- White space at the end is trimmed. -/
lemma trim_concat (text : List Char) {c : Char} (h : Text.isBlank c = true) :
    Text.trim (text ++ [c]) = Text.trim text := by
  rw [Text.trim, Text.trim, List.dropWhile_append]
  split_ifs with hempty
  · rw [List.isEmpty_iff.mp hempty]
    simp [h]
  · rw [List.reverse_append, List.reverse_singleton, List.singleton_append,
      List.dropWhile_cons_of_pos h]

/-- The trimmed text of a line, if it is one. -/
def text? (line : List UInt8) : Option (List Char) :=
  (characters? line).map Text.trim

/-- A line without the carriage return at its end. -/
def withoutReturn (line : List UInt8) : List UInt8 :=
  if line.getLast? = some 0x0D then line.dropLast else line

/-- A carriage return at the end changes nothing. -/
lemma text?_withoutReturn (line : List UInt8) : text? (withoutReturn line) = text? line := by
  rw [withoutReturn]
  split_ifs with hreturn
  · obtain ⟨before, rfl⟩ := List.getLast?_eq_some_iff.mp hreturn
    rw [List.dropLast_concat, text?, text?, characters?_concat_return, Option.map_map]
    congr 1
    funext text
    exact (trim_concat text (by decide)).symm
  · rfl

lemma reverse_dropReturn (line : List UInt8) :
    (dropReturn line).reverse = withoutReturn line.reverse := by
  rw [withoutReturn, List.getLast?_reverse]
  match line with
  | [] => rfl
  | byte :: rest =>
    by_cases hbyte : byte = 0x0D
    · subst hbyte
      simp [dropReturn]
    · simp [dropReturn, hbyte]

/-! ### What a line holds -/

/-- Whether a line cannot be read: it is no text, or its text is neither empty nor a comment and
spells no event. -/
def isBad (line : List UInt8) : Bool :=
  match text? line with
  | none => true
  | some text => !isIdle text && (CaptureEvent.ofChars? text).isNone

/-- Why a line cannot be read. -/
def errorOf (line : List UInt8) (number : Nat) : CaptureError :=
  if (text? line).isNone then .unreadable else .badLine number

/-- The event of a line, unless it is empty, a comment or cannot be read. -/
def event? (line : List UInt8) : Option CaptureEvent := do
  let text ← text? line
  if isIdle text then none else CaptureEvent.ofChars? text

lemma readLine_eq (line : List UInt8) (number : Nat) :
    readLine (line, number) =
      if isBad line then .error (errorOf line number) else .ok (event? line) := by
  rw [readLine, isBad, errorOf, event?, text?]
  cases hline : characters? line with
  | none => rfl
  | some text =>
      by_cases hidle : isIdle (Text.trim text)
      · simp [hidle]
      · cases hevent : CaptureEvent.ofChars? (Text.trim text) <;> simp [hidle, hevent]

/-- Whether a line is neither empty nor a comment. -/
def holdsEvent (line : List UInt8) : Bool :=
  (text? line).any (!isIdle ·)

/-- Unless it is bad, such a line has an event, and no other line has. -/
lemma isSome_event? {line : List UInt8} (h : isBad line = false) :
    (event? line).isSome = holdsEvent line := by
  rw [isBad] at h
  rw [event?, holdsEvent]
  cases htext : text? line with
  | none => simp [htext] at h
  | some text =>
      by_cases hidle : isIdle text
      · simp [hidle]
      · simpa [hidle, htext, Option.isSome_iff_ne_none] using h

/-! ### One line after another -/

/-- The events of lines that are numbered from some number on. -/
def readFrom (number : Nat) (lines : List (List UInt8)) : Except CaptureError (List CaptureEvent) :=
  List.filterMap id <$> (lines.zipIdx number).mapM readLine

lemma readFrom_cons (number : Nat) (line : List UInt8) (rest : List (List UInt8)) :
    readFrom number (line :: rest) =
      if isBad line then .error (errorOf line number)
      else ((event? line).toList ++ ·) <$> readFrom (number + 1) rest := by
  rw [readFrom, List.zipIdx_cons, List.mapM_cons, readLine_eq]
  split_ifs with hbad
  · rfl
  · rw [readFrom]
    cases (rest.zipIdx (number + 1)).mapM readLine with
    | error e => rfl
    | ok events => cases hevent : event? line <;> rfl

lemma readFrom_cons_congr {line other : List UInt8} (h : text? line = text? other)
    {rest others : List (List UInt8)} {number : Nat}
    (hrest : readFrom (number + 1) rest = readFrom (number + 1) others) :
    readFrom number (line :: rest) = readFrom number (other :: others) := by
  rw [readFrom_cons, readFrom_cons, isBad, isBad, errorOf, errorOf, event?, event?, h, hrest]

/-- The pieces of a file between its newlines, without the carriage returns before them. -/
def pieces (bytes : List UInt8) : List (List UInt8) :=
  (bytes.splitOn 0x0A).map withoutReturn

lemma modifyHead_nil_append (pieces : List (List UInt8)) :
    pieces.modifyHead (([] : List UInt8).reverse ++ ·) = pieces := by
  cases pieces <;> rfl

/-- The lines are read as the pieces between newlines are. -/
lemma readFrom_linesFrom (line bytes : List UInt8) (number : Nat) :
    readFrom number (linesFrom line bytes) =
      readFrom number
        (((bytes.splitOn 0x0A).modifyHead (line.reverse ++ ·)).map withoutReturn) := by
  -- the bytes of the line so far are held in reverse, and belong to the first piece
  induction bytes generalizing line number with
  | nil =>
      rw [linesFrom, List.splitOn_nil, List.modifyHead_cons, List.append_nil, List.map_singleton]
      split_ifs with hempty
      · rw [List.isEmpty_iff.mp hempty]
        rfl
      · exact readFrom_cons_congr (text?_withoutReturn _).symm rfl
  | cons byte rest ih =>
      rw [linesFrom, List.splitOn, List.splitOnP_cons_eq_if_modifyHead, ← List.splitOn]
      by_cases hnewline : byte = 0x0A
      · rw [if_pos hnewline, if_pos (beq_iff_eq.mpr hnewline), List.modifyHead_cons,
          List.append_nil, List.map_cons, reverse_dropReturn]
        have hrest := ih [] (number + 1)
        rw [modifyHead_nil_append] at hrest
        exact readFrom_cons_congr rfl hrest
      · have hpiece : ((line.reverse ++ ·) ∘ List.cons byte) = ((byte :: line).reverse ++ ·) := by
          funext piece
          simp
        rw [if_neg hnewline, if_neg (mt beq_iff_eq.mp hnewline), List.modifyHead_modifyHead, hpiece]
        exact ih (byte :: line) number

lemma parse_eq (bytes : List UInt8) :
    parse bytes =
      (List.mergeSort · fun a b => a.time ≤ b.time) <$> readFrom 1 (pieces bytes) := by
  have hpieces : readFrom 1 (lines bytes) = readFrom 1 (pieces bytes) := by
    rw [lines, readFrom_linesFrom, modifyHead_nil_append, pieces]
  rw [← hpieces, readFrom, ← comp_map]
  rfl

/-- The first bad line and its number. -/
def firstBad? (number : Nat) (lines : List (List UInt8)) : Option (List UInt8 × Nat) :=
  (lines.zipIdx number).find? fun line => isBad line.1

lemma firstBad?_cons (number : Nat) (line : List UInt8) (rest : List (List UInt8)) :
    firstBad? number (line :: rest) =
      if isBad line then some (line, number) else firstBad? (number + 1) rest := by
  rw [firstBad?, List.zipIdx_cons, List.find?_cons]
  cases isBad line <;> rfl

/-- The first bad line decides. -/
lemma readFrom_eq (number : Nat) (lines : List (List UInt8)) :
    readFrom number lines =
      match firstBad? number lines with
      | some (line, number) => .error (errorOf line number)
      | none => .ok (lines.filterMap event?) := by
  induction lines generalizing number with
  | nil => rfl
  | cons line rest ih =>
      rw [readFrom_cons, ih, firstBad?_cons]
      split_ifs with hbad
      · rfl
      · cases firstBad? (number + 1) rest with
        | some bad => rfl
        | none => cases hevent : event? line <;> simp [hevent]

lemma isBad_of_firstBad?_eq_none {number : Nat} {lines : List (List UInt8)}
    (h : firstBad? number lines = none) : ∀ line ∈ lines, isBad line = false := by
  induction lines generalizing number with
  | nil => simp
  | cons line rest ih =>
      rw [firstBad?_cons] at h
      split_ifs at h with hbad
      exact List.forall_mem_cons.mpr ⟨Bool.eq_false_iff.mpr hbad, ih h⟩

end VehicleTelemetry.Capture
