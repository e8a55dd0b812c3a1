/-!
Paths of files, and directories as tables of files.

A path is a row of names with slashes between them. Empty names and single dots stay where they are,
two dots go back to the directory above.
-/

namespace VehicleTelemetry

namespace Path

/-- The names of a path: the parts between its slashes. -/
def names (path : String) : List String :=
  let (name, names) := path.toList.foldr
    (fun c (name, names) =>
      if c == '/' then ([], String.ofList name :: names) else (c :: name, names))
    ([], [])
  String.ofList name :: names

/-- A path in reverse, without the slashes and the single dots at its end. -/
def dropEnd : List Char → List Char
  | '/' :: rest => dropEnd rest
  | '.' :: '/' :: rest => dropEnd rest
  | cs => cs

/-- A path without the slashes and the single dots at its end. -/
def trimmed (path : String) : List Char :=
  (dropEnd path.toList.reverse).reverse

/-- The name of the file at a path. A path of dots names none. -/
def fileName? (path : String) : Option (List Char) :=
  let name := ((trimmed path).reverse.takeWhile (· != '/')).reverse
  if name.all (· == '.') && name.length ≤ 2 then none else some name

/-- The extension of the file at a path: what stands behind the last point of its name, unless the
name begins with that point. -/
def extension? (path : String) : Option String := do
  let name ← fileName? path
  let extension := (name.reverse.takeWhile (· != '.')).reverse
  if extension.length + 1 < name.length then some (String.ofList extension) else none

/-- A path with an extension added to the name of its file. -/
def addExtension? (path extension : String) : Option String :=
  (fileName? path).map fun _ => String.ofList (trimmed path) ++ "." ++ extension

end Path

/-- A directory: its files and those of the directories in it, each with the names that lead to
it. -/
structure Directory where
  files : List (List String × List UInt8)

namespace Directory

/-- The directory of files with given paths. -/
def ofFiles (files : List (String × List UInt8)) : Directory :=
  ⟨files.map fun (path, content) => (Path.names path, content)⟩

/-- Whether names lead to a directory. -/
def isDirectory (directory : Directory) (names : List String) : Bool :=
  names.isEmpty
    || directory.files.any fun (file, _) => names.isPrefixOf file && names.length < file.length

/-- The content of the file that names lead to from a directory inside this one. There is nothing
beyond a file, and nothing is known of the directories above. -/
def readFrom (directory : Directory) : List String → List String → Option (List UInt8)
  | place, [name] =>
    if name == "" || name == "." || name == ".." || !directory.isDirectory place then none
    else directory.files.lookup (place ++ [name])
  | place, name :: names =>
    if !directory.isDirectory place then none
    else if name == "" || name == "." then directory.readFrom place names
    else if name == ".." then
      if place.isEmpty then none else directory.readFrom place.dropLast names
    else directory.readFrom (place ++ [name]) names
  | _, [] => none

/-- The content of the file at a path. A path from the root is none of this directory. -/
def read (directory : Directory) (path : String) : Option (List UInt8) :=
  if path.toList.head? == some '/' then none else directory.readFrom [] (Path.names path)

end Directory

end VehicleTelemetry
