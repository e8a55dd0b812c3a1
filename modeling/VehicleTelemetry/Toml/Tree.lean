import VehicleTelemetry.Toml.Value

/-!
Tables under construction.

A table comes from a header, is implied by a longer header, or comes from a dotted key. Where it
comes from decides what may still be added: a header may complete an implied table once, dotted
keys may only go on where dotted keys began, and nothing is defined twice.

Members keep the order in which they were begun, but a table that a header completes goes to the
end.
-/

namespace VehicleTelemetry.Toml

/-- Where a table comes from. -/
inductive Origin where
  | header
  | implied
  | dotted
  deriving DecidableEq, Repr

/-- What a name stands for while its document is read. -/
inductive Node where
  | value (value : Value)
  | table (origin : Origin) (members : List (String × Node))
  /-- An array of tables, the last of which is still open. -/
  | tables (elements : List (List (String × Node)))

/-- The members of a table under construction. -/
abbrev Members := List (String × Node)

namespace Members

/-- Sets a name, in its place if it is there and else at the end. -/
def set (name : String) (node : Node) : Members → Members
  | [] => [(name, node)]
  | (other, old) :: rest =>
    if other == name then (name, node) :: rest else (other, old) :: set name node rest

/-- Changes the table at the end of a path, which is created on the way. -/
def descend (byDots : Bool) (change : Origin → Members → Option Members) :
    List String → Origin → Members → Option Members
  | [], origin, members => change origin members
  | name :: path, _, members =>
    match List.lookup name members with
    | none => do
      let origin := if byDots then Origin.dotted else Origin.implied
      let inner ← descend byDots change path origin []
      some (set name (.table origin inner) members)
    | some (.value _) => none
    | some (.table origin inner) => do
      if byDots && origin == .header then none
      else
        let inner ← descend byDots change path origin inner
        some (set name (.table origin inner) members)
    | some (.tables elements) => do
      let last ← descend byDots change path .header (elements.getLast?.getD [])
      some (set name (.tables (elements.dropLast ++ [last])) members)

/-- Sets a value at the end of a path of dotted keys. -/
def assign (path : List String) (name : String) (value : Value) (members : Members) :
    Option Members :=
  descend true
    (fun origin members =>
      if !path.isEmpty && origin != .dotted then none
      else if (List.lookup name members).isSome then none
      else some (set name (.value value) members))
    path .header members

/-- Takes a name away. -/
def erase (name : String) (members : Members) : Members :=
  members.filter fun (other, _) => other != name

/-- Opens a table by its header. -/
def openTable (path : List String) (name : String) (members : Members) : Option Members :=
  descend false
    (fun _ members =>
      match List.lookup name members with
      | none => some (set name (.table .header []) members)
      | some (.table .implied inner) => some (erase name members ++ [(name, .table .header inner)])
      | some _ => none)
    path .header members

/-- Opens a further element of an array of tables. -/
def openElement (path : List String) (name : String) (members : Members) : Option Members :=
  descend false
    (fun _ members =>
      match List.lookup name members with
      | none => some (set name (.tables [[]]) members)
      | some (.tables elements) => some (set name (.tables (elements ++ [[]])) members)
      | some _ => none)
    path .header members

end Members

mutual

/-- The value of a finished node. -/
def Node.toValue : Node → Value
  | .value leaf => leaf
  | .table _ members => .table (Node.membersToValues members)
  | .tables elements => .array (Node.elementsToValues elements)

/-- The values of a finished table. -/
def Node.membersToValues : List (String × Node) → List (String × Value)
  | [] => []
  | (name, node) :: rest => (name, node.toValue) :: Node.membersToValues rest

/-- The values of a finished array of tables. -/
def Node.elementsToValues : List (List (String × Node)) → List Value
  | [] => []
  | members :: rest => .table (Node.membersToValues members) :: Node.elementsToValues rest

end

end VehicleTelemetry.Toml
