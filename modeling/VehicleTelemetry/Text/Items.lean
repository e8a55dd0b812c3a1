/-!
Rows of items between brackets, as documents write lists and maps.
-/

namespace VehicleTelemetry.Text

/-- Items with commas between them up to a closing character, at most `fuel` of them; there may be a
comma after the last one. `skip` passes over what may stand between tokens, and `item` reads one
item from where it begins. -/
def readItems {α : Type} (skip : List Char → List Char)
    (item : List Char → Option (α × List Char)) (close : Char) :
    Nat → List Char → Option (List α × List Char)
  | 0, _ => none
  | fuel + 1, cs =>
    match skip cs with
    | [] => none
    | c :: rest =>
      if c == close then some ([], rest)
      else do
        let (first, rest) ← item (c :: rest)
        match skip rest with
        | ',' :: rest => do
          let (others, rest) ← readItems skip item close fuel rest
          some (first :: others, rest)
        | c :: rest => if c == close then some ([first], rest) else none
        | [] => none

end VehicleTelemetry.Text
