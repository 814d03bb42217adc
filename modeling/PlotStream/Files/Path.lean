/-!
Paths. A path is written as names with slashes between them. Empty names and single points
stand for nothing, two points for the directory above. A path from the root begins with the
name `/`, which no other name can be equal to.
-/

namespace PlotStream.Files

/-- The name of the root. -/
def rootName : String := "/"

/-- The names in a written path, empty ones included. -/
def splitNames (text : List Char) : List (List Char) :=
  match text with
  | [] => [[]]
  | '/' :: rest => [] :: splitNames rest
  | c :: rest =>
    match splitNames rest with
    | [] => [[c]]
    | name :: names => (c :: name) :: names

/-- The names of a path, from the root or from the working directory. -/
structure Path where
  /-- What the written path begins with: nothing, `/` or `//`. -/
  root : String
  names : List String
  deriving Repr, DecidableEq

/-- What a written path begins with. Two slashes are kept, more count as one. -/
def rootOf : List Char → String
  | '/' :: '/' :: '/' :: _ => "/"
  | '/' :: '/' :: _ => "//"
  | '/' :: _ => "/"
  | _ => ""

/-- The path that is written as `text`. -/
def Path.ofText (text : String) : Path where
  root := rootOf text.toList
  names :=
    ((splitNames text.toList).filter fun name => name ≠ [] ∧ name ≠ ['.']).map String.ofList

/-- The plain written form of a path. -/
def Path.text (path : Path) : String :=
  if path.root = "" ∧ path.names = [] then "."
  else path.root ++ String.intercalate "/" path.names

/-- The directory that holds what the path leads to. -/
def Path.parent (path : Path) : Path := { path with names := path.names.dropLast }

/-- A path and all paths above it, the uppermost first. -/
def Path.chain (path : Path) : List Path :=
  (List.range (path.names.length + 1)).map fun n => { path with names := path.names.take n }

end PlotStream.Files
