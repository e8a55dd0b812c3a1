import VehicleTelemetry.Text.Digit
import VehicleTelemetry.Yaml.Source

/-!
Scalars: in quotes, without quotes, and in blocks.

Each reader takes the characters that are left and gives what it read with the characters after it,
or nothing if the text is wrong.
-/

namespace VehicleTelemetry.Yaml

open Source

/-! ### Scalars in quotes -/

/-- The character of an escape of one letter. -/
def escaped? : Char → Option Char
  | '0' => some '\x00'
  | 'a' => some '\x07'
  | 'b' => some '\x08'
  | 't' | '\t' => some '\t'
  | 'n' => some '\n'
  | 'v' => some '\x0b'
  | 'f' => some '\x0c'
  | 'r' => some '\r'
  | 'e' => some '\x1b'
  | ' ' => some ' '
  | '"' => some '"'
  | '/' => some '/'
  | '\\' => some '\\'
  | 'N' => some '\u0085'
  | '_' => some '\u00a0'
  | 'L' => some '\u2028'
  | 'P' => some '\u2029'
  | _ => none

/-- The character of an escape, after its backslash. -/
def readEscape (source : Source) : Option (Char × Source) :=
  let numbered (count : Nat) (rest : Source) : Option (Char × Source) :=
    (Text.readCodePoint count (chars (rest.take count))).map fun (c, _) => (c, rest.drop count)
  match source with
  | ('x', _) :: rest => numbered 2 rest
  | ('u', _) :: rest => numbered 4 rest
  | ('U', _) :: rest => numbered 8 rest
  | (c, _) :: rest => (escaped? c).map fun c => (c, rest)
  | [] => none

/-- A scalar in double quotes from after its first quote on, at most `fuel` characters long; `read`
holds what is read so far, the last character first. Blanks around line ends do not count. -/
def readDouble (read : List Char) : Nat → Source → Option (String × Source)
  | 0, _ | _, [] => none
  | _, ('"', _) :: rest => some (String.ofList read.reverse, rest)
  | fuel + 1, ('\\', _) :: rest =>
    match lineEnds (rest.take 1) with
    | (1, []) =>
      let (count, rest) := lineEnds rest
      readDouble (List.replicate (count - 1) '\n' ++ read) fuel rest
    | _ =>
      match readEscape rest with
      | some (c, rest) => readDouble (c :: read) fuel rest
      | none => none
  | fuel + 1, glyph :: rest =>
    match lineEnds (glyph :: rest) with
    | (0, _) => readDouble (glyph.1 :: read) fuel rest
    | (count, rest) =>
      if isSeparator rest then none else readDouble (foldedEnds count ++ read) fuel rest

/-- A scalar in single quotes, in the same way. A quote inside it is written twice. -/
def readSingle (read : List Char) : Nat → Source → Option (String × Source)
  | 0, _ | _, [] => none
  | fuel + 1, ('\x27', _) :: ('\x27', _) :: rest => readSingle ('\x27' :: read) fuel rest
  | _, ('\x27', _) :: rest => some (String.ofList read.reverse, rest)
  | fuel + 1, glyph :: rest =>
    match lineEnds (glyph :: rest) with
    | (0, _) => readSingle (glyph.1 :: read) fuel rest
    | (count, rest) =>
      if isSeparator rest then none else readSingle (foldedEnds count ++ read) fuel rest

/-! ### Scalars without quotes -/

/-- The characters that structure lists and maps in brackets. -/
def isFlowMark (c : Char) : Bool :=
  c == ',' || c == '[' || c == ']' || c == '\x7b' || c == '\x7d'

/-- Whether a colon before these characters ends a key. -/
def endsKey (flow : Bool) : Source → Bool
  | [] => true
  | glyph :: _ => isBlank glyph || isLineEnd glyph || (flow && isFlowMark glyph.1)

/-- Whether a scalar without quotes may begin here. -/
def startsPlain (flow : Bool) : Source → Bool
  | [] => false
  | (c, _) :: rest =>
    if c == '-' || c == '?' || c == ':' then !endsKey flow rest
    else !("\t\n #&*!|>\x27\"%@\x60".toList.contains c) && !isFlowMark c

/-- The part of a scalar without quotes that is in one line. -/
def takePlain (flow : Bool) : Source → List Char × Source
  | [] => ([], [])
  | (c, column) :: rest =>
    if c == '\n' || (c == ':' && endsKey flow rest) || (flow && isFlowMark c)
        || (isBlank (c, column) && (rest.head?.any fun glyph => glyph.1 == '#')) then
      ([], (c, column) :: rest)
    else
      let (others, rest) := takePlain flow rest
      (c :: others, rest)

/-- Characters without the blanks after them. -/
def trimEnd (cs : List Char) : List Char :=
  (cs.reverse.dropWhile fun c => c == ' ' || c == '\t').reverse

/-- The parts of a scalar without quotes in the lines after the first one, at most `fuel` of them.
They are at column `least` or behind it. -/
def readPlainLines (flow : Bool) (least : Nat) : Nat → Source → List Char × Source
  | 0, source => ([], source)
  | fuel + 1, source =>
    match source, lineEnds source with
    | ('\n', _) :: _, (count, (c, column) :: rest) =>
      let next := (c, column) :: rest
      if column < least || c == '#' || isSeparator next then ([], source)
      else match takePlain flow next with
        | ([], _) => ([], source)
        | (part, rest) =>
          let (others, rest) := readPlainLines flow least fuel rest
          (foldedEnds count ++ trimEnd part ++ others, rest)
    | _, _ => ([], source)

/-- A scalar without quotes. -/
def readPlain (flow : Bool) (least : Nat) (source : Source) : Option (String × Source) :=
  if startsPlain flow source then
    let (first, rest) := takePlain flow source
    let (others, rest) := readPlainLines flow least rest.length rest
    some (String.ofList (trimEnd first ++ others), rest)
  else none

/-! ### Scalars in blocks -/

/-- Which line ends at the end of a block count. -/
inductive Chomping where
  | strip
  | clip
  | keep
  deriving DecidableEq, Repr

/-- What the signs after the mark of a block say: which line ends count, and how far the block is
indented. There is at most one sign of each kind. -/
def readHeader (source : Source) : Option ((Chomping × Option Nat) × Source) :=
  let isSign (glyph : Char × Nat) := glyph.1 == '+' || glyph.1 == '-'
  let isDepth (glyph : Char × Nat) := '1' ≤ glyph.1 && glyph.1 ≤ '9'
  let header := source.takeWhile fun glyph => isSign glyph || isDepth glyph
  let chomping := match header.filter isSign with
    | [] => some Chomping.clip
    | [glyph] => some (if glyph.1 == '+' then .keep else .strip)
    | _ => none
  let depth := match header.filter isDepth with
    | [] => some none
    | [glyph] => some (Text.digitValue? 10 glyph.1)
    | _ => none
  match chomping, depth, skipInline (source.drop header.length) with
  | some chomping, some depth, [] => some ((chomping, depth), [])
  | some chomping, some depth, ('\n', _) :: rest => some ((chomping, depth), rest)
  | _, _, _ => none

/-- How far the first line with content is indented. -/
def firstIndent : Nat → Source → Nat
  | 0, _ => 0
  | fuel + 1, source =>
    match source.dropWhile fun glyph => glyph.1 == ' ' with
    | [] => 0
    | ('\n', _) :: rest => firstIndent fuel rest
    | (_, column) :: _ => column

/-- The lines of a block without their indentation, at most `fuel` of them. -/
def takeLines (indent : Nat) : Nat → Source → List (List Char) × Source
  | 0, source => ([], source)
  | _, [] => ([], [])
  | fuel + 1, source =>
    let line := source.takeWhile fun glyph => !isLineEnd glyph
    let spaces := (line.takeWhile fun glyph => glyph.1 == ' ').length
    if indent ≤ spaces || spaces == line.length then
      let (others, rest) := takeLines indent fuel ((source.drop line.length).drop 1)
      (chars (line.drop indent) :: others, rest)
    else ([], source)

/-- What stands for the line ends between two lines of a folded block, with a number of empty lines
between them. A line that begins with a blank keeps its line ends. -/
def foldedGap (before : Option (List Char)) (empty : Nat) (line : List Char) : List Char :=
  let isIndented (line : List Char) : Bool := line.head?.any fun c => c == ' ' || c == '\t'
  match before with
  | none => List.replicate empty '\n'
  | some before =>
    if isIndented before || isIndented line then List.replicate (empty + 1) '\n'
    else foldedEnds (empty + 1)

/-- The text of lines that are folded, after a line and a number of empty lines. -/
def foldLines (before : Option (List Char)) (empty : Nat) : List (List Char) → List Char
  | [] => []
  | line :: rest =>
    if line.isEmpty then foldLines before (empty + 1) rest
    else foldedGap before empty line ++ line ++ foldLines (some line) 0 rest

/-- A block after its mark; `least` is the first column behind its parent. The source goes on at the
start of a line, before which the line end is put back. -/
def readBlock (folded : Bool) (least : Nat) (source : Source) : Option (String × Source) := do
  let ((chomping, depth), rest) ← readHeader source
  let indent := match depth with
    | some depth => least - 1 + depth
    | none => max (firstIndent rest.length rest) (max least 1)
  let (lines, rest) := takeLines indent rest.length rest
  let trailing := (lines.reverse.takeWhile List.isEmpty).length
  let kept := lines.take (lines.length - trailing)
  let body := if folded then foldLines none 0 kept else List.intercalate ['\n'] kept
  let ends := match chomping with
    | .strip => 0
    | .clip => if kept.isEmpty then 0 else 1
    | .keep => if kept.isEmpty then trailing else trailing + 1
  some (String.ofList (body ++ List.replicate ends '\n'), ('\n', 0) :: rest)

end VehicleTelemetry.Yaml
