/-!
The characters of a YAML document with their columns, and the gaps between its tokens.

Indentation decides where a block ends, so that each character is kept with the number of characters
before it in its line.
-/

namespace VehicleTelemetry.Yaml

/-- The characters that are left, each with its column. -/
abbrev Source := List (Char × Nat)

namespace Source

/-- The characters of a text from a column on. All line ends become line feeds. -/
def ofChars : Nat → List Char → Source
  | _, [] => []
  | column, '\r' :: '\n' :: rest => ('\n', column) :: ofChars 0 rest
  | column, c :: rest =>
    if c == '\r' || c == '\n' then ('\n', column) :: ofChars 0 rest
    else (c, column) :: ofChars (column + 1) rest

/-- The characters without their columns. -/
def chars (source : Source) : List Char :=
  source.map Prod.fst

/-- White space inside a line. -/
def isBlank (glyph : Char × Nat) : Bool :=
  glyph.1 == ' ' || glyph.1 == '\t'

/-- Whether a character ends a line. -/
def isLineEnd (glyph : Char × Nat) : Bool :=
  glyph.1 == '\n'

/-- Whether no visible character comes next. -/
def isGap : Source → Bool
  | [] => true
  | glyph :: _ => isBlank glyph || isLineEnd glyph

/-- Whether a character with a gap after it comes next. -/
def isMark (mark : Char) : Source → Bool
  | (c, _) :: rest => c == mark && isGap rest
  | [] => false

/-- Whether a line that separates documents comes next. -/
def isSeparator : Source → Bool
  | ('-', 0) :: ('-', _) :: ('-', _) :: rest => isGap rest
  | ('.', 0) :: ('.', _) :: ('.', _) :: rest => isGap rest
  | _ => false

/-- The column of what comes next in the document. -/
def column? : Source → Option Nat
  | [] => none
  | (c, column) :: rest => if isSeparator ((c, column) :: rest) then none else some column

/-- The characters from the end of the line on. -/
def dropLine (source : Source) : Source :=
  source.dropWhile fun glyph => !isLineEnd glyph

/-- The characters after blanks and a comment. There is a gap before a comment. -/
def skipInline (source : Source) : Source :=
  match source, source.dropWhile isBlank with
  | (c, column) :: _, ('#', at') :: rest =>
    if isBlank (c, column) || column == 0 then dropLine rest else ('#', at') :: rest
  | _, rest => rest

/-- The characters after at most `fuel` line ends and lines without content. A tab does not indent,
so that it is left if there is content behind it. -/
def skipLines : Nat → Source → Source
  | fuel + 1, ('\n', _) :: rest =>
    let line := rest.dropWhile fun glyph => glyph.1 == ' '
    match line.dropWhile isBlank with
    | [] => []
    | ('#', _) :: comment => skipLines fuel (dropLine comment)
    | ('\n', column) :: after => skipLines fuel (('\n', column) :: after)
    | _ => line
  | _, source => source

/-- The characters from the next content on. -/
def skip (source : Source) : Source :=
  let rest := skipInline source
  skipLines rest.length rest

/-- The characters from the next content on, where lines do not matter. -/
def skipFlow : Nat → Source → Source
  | 0, source => source
  | fuel + 1, source =>
    match skipInline source with
    | ('\n', _) :: rest => skipFlow fuel rest
    | rest => rest

/-- Whether there is a line end between a place and a later one. -/
def crossesLine (source later : Source) : Bool :=
  (source.take (source.length - later.length)).any isLineEnd

/-- How many line ends come next, with blanks between them, and what follows them. -/
def lineEnds : Source → Nat × Source
  | [] => (0, [])
  | glyph :: rest =>
    if isLineEnd glyph then
      let (count, rest) := lineEnds rest
      (count + 1, rest)
    else if isBlank glyph then lineEnds rest
    else (0, glyph :: rest)

end Source

/-- What a number of line ends inside a scalar stands for: one for a space, more for one less. -/
def foldedEnds (count : Nat) : List Char :=
  if count = 1 then [' '] else List.replicate (count - 1) '\n'

end VehicleTelemetry.Yaml
