import VehicleTelemetry.Yaml.Scalar
import VehicleTelemetry.Yaml.Value

/-!
Reading YAML documents.

A node in brackets (a flow node) goes up to its bracket. A node in a block goes on as long as its
lines are indented: a list by dashes in one column, a map by keys in one column, each of which is in
one line. A node may have an anchor, by which other nodes refer to it, and a tag.
-/

namespace VehicleTelemetry.Yaml

open Source

/-- A reader knows the values of the anchors so far, and may refuse. -/
abbrev Reader := StateT (List (String × Value)) Option

/-! ### Properties -/

/-- The anchor and the tag of a node. -/
structure Properties where
  anchor : Option String := none
  tag : Option String := none

/-- Whether a node has neither. -/
def Properties.isEmpty (properties : Properties) : Bool :=
  properties.anchor.isNone && properties.tag.isNone

/-- A word up to a gap or a bracket. -/
def readWord (source : Source) : String × Source :=
  let word := source.takeWhile fun glyph =>
    !isBlank glyph && !isLineEnd glyph && !isFlowMark glyph.1
  (String.ofList (chars word), source.drop word.length)

/-- The anchor and the tag in front of a node, in any order; `skip` goes on to what follows. -/
def readProperties (skip : Source → Source) :
    Nat → Properties → Source → Option (Properties × Source)
  | fuel + 1, properties, ('&', _) :: rest =>
    match properties.anchor, readWord rest with
    | none, (name, rest) =>
      if name.isEmpty then none
      else readProperties skip fuel { properties with anchor := some name } (skip rest)
    | some _, _ => none
  | fuel + 1, properties, ('!', _) :: rest =>
    match properties.tag, readWord rest with
    | none, (name, rest) =>
      readProperties skip fuel { properties with tag := some name } (skip rest)
    | some _, _ => none
  | _, properties, source => some (properties, source)

/-- The name of a standard tag, after its first mark, and no name of any other. -/
def tagName (tag : String) : String :=
  match tag.toList with
  | '!' :: name => String.ofList name
  | _ => ""

/-- The value of a scalar without quotes and with these properties. -/
def Properties.plain? (properties : Properties) (scalar : String) : Option Value :=
  match properties.tag with
  | none => Value.ofScalar? scalar
  | some tag => Value.ofTagged? (tagName tag) scalar

/-- Remembers a value under the anchor of its node. -/
def Properties.note (properties : Properties) (value : Value) : Reader Unit :=
  match properties.anchor with
  | none => pure ()
  | some name => modify ((name, value) :: ·)

/-- The value that an anchor names, after the mark of the reference. -/
def readReference (source : Source) : Reader (Value × Source) := do
  let (name, rest) := readWord source
  match List.lookup name (← get) with
  | some value => pure (value, rest)
  | none => failure

/-! ### Flow nodes -/

/-- The characters from the next content on inside brackets. -/
def skipAny (source : Source) : Source :=
  skipFlow source.length source

/-- Adds a member to a map that begins with it; no key occurs twice. -/
def addMember (key value : Value) (others : List (Value × Value)) : Reader (List (Value × Value)) :=
  if others.any fun (other, _) => key.sameKey other then failure else pure ((key, value) :: others)

mutual

/-- A node inside brackets. One that is left out is nothing. -/
def readFlow : Nat → Source → Reader (Value × Source)
  | 0, _ => failure
  | fuel + 1, source => do
    let (properties, source) ← readProperties skipAny 3 {} source
    let (value, rest) ← match source with
      | ('[', _) :: rest => do
        let (items, rest) ← readFlowItems fuel rest
        pure (Value.list items, rest)
      | ('\x7b', _) :: rest => do
        let (members, rest) ← readFlowMembers fuel rest
        pure (Value.map members, rest)
      | ('"', _) :: rest => do
        let (text, rest) ← readDouble [] rest.length rest
        pure (Value.text text, rest)
      | ('\x27', _) :: rest => do
        let (text, rest) ← readSingle [] rest.length rest
        pure (Value.text text, rest)
      | ('*', _) :: rest => readReference rest
      | source =>
        match readPlain true 0 source with
        | some (scalar, rest) => do
          let value ← properties.plain? scalar
          pure (value, rest)
        | none => do
          let value ← properties.plain? ""
          pure (value, source)
    properties.note value
    pure (value, rest)

/-- The items of a list up to its bracket. An item may be a map of a single member. -/
def readFlowItems : Nat → Source → Reader (List Value × Source)
  | 0, _ => failure
  | fuel + 1, source =>
    match skipAny source with
    | (']', _) :: rest => pure ([], rest)
    | (',', _) :: _ => failure
    | source => do
      let (item, rest) ←
        if isMark '?' source then do
          let (member, rest) ← readFlowMember fuel source
          pure (Value.map [member], rest)
        else do
          let (item, rest) ← readFlow fuel source
          match skipAny rest with
          | (':', _) :: rest => do
            let (value, rest) ← readFlow fuel (skipAny rest)
            pure (Value.map [(item, value)], rest)
          | rest => pure (item, rest)
      match skipAny rest with
      | (',', _) :: rest => do
        let (others, rest) ← readFlowItems fuel rest
        pure (item :: others, rest)
      | (']', _) :: rest => pure ([item], rest)
      | _ => failure

/-- A key, and a value if there is one. -/
def readFlowMember : Nat → Source → Reader ((Value × Value) × Source)
  | 0, _ => failure
  | fuel + 1, source => do
    let source := if isMark '?' source then skipAny (source.drop 1) else source
    let (key, rest) ← readFlow fuel source
    match skipAny rest with
    | (':', _) :: rest => do
      let (value, rest) ← readFlow fuel (skipAny rest)
      pure ((key, value), rest)
    | rest => pure ((key, .null), rest)

/-- The members of a map up to its brace. -/
def readFlowMembers : Nat → Source → Reader (List (Value × Value) × Source)
  | 0, _ => failure
  | fuel + 1, source =>
    match skipAny source with
    | ('\x7d', _) :: rest => pure ([], rest)
    | (',', _) :: _ => failure
    | source => do
      let ((key, value), rest) ← readFlowMember fuel source
      match skipAny rest with
      | (',', _) :: rest => do
        let (others, rest) ← readFlowMembers fuel rest
        pure (← addMember key value others, rest)
      | ('\x7d', _) :: rest => pure ([(key, value)], rest)
      | _ => failure

end

/-! ### Block nodes -/

/-- A key in one line with the colon after it. -/
def readKey (fuel : Nat) (source : Source) : Reader (Value × Source) := do
  let (properties, body) ← readProperties skipInline 3 {} source
  let (key, rest) ← match body with
    | (':', _) :: _ => pure (Value.null, body)
    | (c, _) :: _ =>
      if "[\x7b\"\x27*".toList.contains c then readFlow fuel body
      else if startsPlain false body then do
        let (scalar, rest) := takePlain false body
        let key ← properties.plain? (String.ofList (trimEnd scalar))
        pure (key, rest)
      else failure
    | [] => failure
  let rest := rest.dropWhile isBlank
  if isMark ':' rest && !crossesLine source rest then
    properties.note key
    pure (key, rest.drop 1)
  else failure

/-- A node that is neither a list by dashes nor a map by keys. -/
def readInline (fuel least : Nat) (properties : Properties) (source : Source) :
    Reader (Value × Source) :=
  match source with
  | ('|', _) :: rest => do
    let (text, rest) ← readBlock false least rest
    pure (.text text, rest)
  | ('>', _) :: rest => do
    let (text, rest) ← readBlock true least rest
    pure (.text text, rest)
  | (c, _) :: _ =>
    if "[\x7b\"\x27*".toList.contains c then readFlow fuel source
    else do
      let (scalar, rest) ← readPlain false least source
      let value ← properties.plain? scalar
      pure (value, rest)
  | [] => failure

mutual

/-- A node at a column of at least `least`, or a list by dashes at a column of at least `leastList`.
Lists by dashes and maps by keys begin in a line of their own, or in this one if it is `fresh`. -/
def readNode : Nat → Nat → Nat → Bool → Source → Reader (Value × Source)
  | 0, _, _, _, _ => failure
  | fuel + 1, least, leastList, fresh, source => do
    let next := skip source
    let fresh := fresh || crossesLine source next
    match column? next with
    | none => pure (.null, next)
    | some column =>
      if fresh && isMark '-' next && leastList ≤ column then do
        let (items, rest) ← readItems fuel column next
        pure (.list items, rest)
      else if column < least then pure (.null, next)
      else if fresh && (isMark '?' next || ((readKey fuel next).run (← get)).isSome) then do
        let (members, rest) ← readMembers fuel column next
        pure (.map members, rest)
      else do
        let (properties, body) ← readProperties skipInline 3 {} next
        let (value, rest) ←
          if !properties.isEmpty && isGap body then readNode fuel least leastList false body
          else readInline fuel least properties body
        properties.note value
        pure (value, rest)

/-- The items of a list whose dashes are in a column. -/
def readItems : Nat → Nat → Source → Reader (List Value × Source)
  | 0, _, _ => failure
  | fuel + 1, column, source => do
    let (item, rest) ← readNode fuel (column + 1) (column + 1) true (source.drop 1)
    let next := skip rest
    match column? next with
    | none => pure ([item], next)
    | some found =>
      if column < found then failure
      else if found = column && isMark '-' next then do
        let (others, rest) ← readItems fuel column next
        pure (item :: others, rest)
      else pure ([item], next)

/-- The members of a map whose keys are in a column. -/
def readMembers : Nat → Nat → Source → Reader (List (Value × Value) × Source)
  | 0, _, _ => failure
  | fuel + 1, column, source => do
    let ((key, value), rest) ← readMember fuel column source
    let next := skip rest
    match column? next with
    | none => pure ([(key, value)], next)
    | some found =>
      if column < found then failure
      else if found = column then do
        let (others, rest) ← readMembers fuel column next
        pure (← addMember key value others, rest)
      else pure ([(key, value)], next)

/-- A key in a column and its value. A key after a question mark may be any node. -/
def readMember : Nat → Nat → Source → Reader ((Value × Value) × Source)
  | 0, _, _ => failure
  | fuel + 1, column, source =>
    if isMark '?' source then do
      let (key, rest) ← readNode fuel (column + 1) (column + 1) true (source.drop 1)
      let next := skip rest
      if column? next = some column && isMark ':' next then do
        let (value, rest) ← readNode fuel (column + 1) column true (next.drop 1)
        pure ((key, value), rest)
      else pure ((key, .null), next)
    else do
      let (key, rest) ← readKey fuel source
      let (value, rest) ← readNode fuel (column + 1) column false rest
      pure ((key, value), rest)

end

/-! ### Documents -/

/-- The content of a document and what follows it: the end, or a line that separates documents. -/
def readContent (fresh : Bool) (source : Source) : Option (Value × Source) := do
  let ((value, rest), _) ← (readNode (3 * source.length + 3) 0 0 fresh source).run []
  let rest := skip rest
  if (column? rest).isNone then some (value, rest) else none

/-- The documents of a text, at most `fuel` lines that separate or direct. After a directive there
has to be a document with a separator in front. -/
def readDocuments (directed : Bool) : Nat → Source → Option (List Value)
  | 0, _ => none
  | fuel + 1, source =>
    match skipLines (source.length + 1) (('\n', 0) :: source) with
    | [] => if directed then none else some []
    | ('\t', _) :: _ => none
    | ('%', 0) :: rest => readDocuments true fuel (dropLine rest)
    | next =>
      match isSeparator next, next with
      | true, ('-', _) :: _ => do
        let (value, rest) ← readContent false (next.drop 3)
        let others ← readDocuments false fuel rest
        some (value :: others)
      | true, _ => if directed then none else readDocuments false fuel (next.drop 3)
      | false, _ =>
        if directed then none
        else do
          let (value, rest) ← readContent true next
          let others ← readDocuments false fuel rest
          some (value :: others)

/-- The documents of a text. -/
def parse? (text : String) : Option (List Value) :=
  let source := ofChars 0 text.toList
  readDocuments false (source.length + 1) source

end VehicleTelemetry.Yaml
