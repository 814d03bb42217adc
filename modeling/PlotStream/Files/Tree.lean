import PlotStream.Files.Path
import PlotStream.Text.Quoted

/-!
A tree of files. Directories are entries of their own and stay when they become empty. Paths are
followed name by name, so a path that goes through a file leads nowhere even if it only goes on
to the directory above. Paths and the names in them must not be too long, and an empty path leads
nowhere, as does one with a null character in it.
-/

namespace PlotStream.Files

inductive Node where
  | file (bytes : List UInt8)
  | directory
  deriving Repr, DecidableEq

/-- Where a node is: the names on the way to it, the root's name first if it is counted from
there. -/
abbrev Place := List String

/-- A tree of files, as the nodes in it. The working directory, the root with its standard
directories, and the null device are always there. -/
structure Tree where
  nodes : List (Place × Node) := []
  deriving Repr, DecidableEq

inductive Trouble where
  | missing
  | exists
  | notADirectory
  | isADirectory
  | nameTooLong
  deriving Repr, DecidableEq

def Trouble.number : Trouble → Nat
  | .missing => 2
  | .exists => 17
  | .notADirectory => 20
  | .isADirectory => 21
  | .nameTooLong => 36

def Trouble.text : Trouble → String
  | .missing => "No such file or directory"
  | .exists => "File exists"
  | .notADirectory => "Not a directory"
  | .isADirectory => "Is a directory"
  | .nameTooLong => "File name too long"

structure Fault where
  trouble : Trouble
  path : String
  deriving Repr, DecidableEq

def Fault.message (fault : Fault) : String :=
  "[Errno " ++ toString fault.trouble.number ++ "] " ++ fault.trouble.text ++ ": " ++
    Text.quoted fault.path

namespace Tree

/-- The names of the standard directories in the root. -/
def standardNames : List String :=
  [ "bin", "boot", "dev", "etc", "home", "lib", "media", "mnt", "opt", "proc", "root", "run",
    "sbin", "srv", "sys", "tmp", "usr", "var" ]

/-- Whether a place is a directory in every tree: the working directory, the root and the
standard directories in it, and what lies above the working directory. -/
def isGround (place : Place) : Bool :=
  place = [rootName] || (standardNames.map ([rootName, ·])).contains place ||
    place.all (· = "..")

/-- The place of the null device, which reads as an empty file. -/
def nullDevice : Place := [rootName, "dev", "null"]

/-- The greatest number of bytes in a name. -/
def maxNameBytes : Nat := 255

/-- The greatest number of bytes in a path. -/
def maxPathBytes : Nat := 4095

/-- What is at a place. -/
def at? (tree : Tree) (place : Place) : Option Node :=
  if isGround place then some .directory
  else if place = nullDevice then some (.file [])
  else tree.nodes.lookup place

/-- The place above. -/
def above (place : Place) : Place :=
  if place = [rootName] then place
  else if place.all (· = "..") then place ++ [".."]
  else place.dropLast

/-- Follow names from a place. -/
def follow (tree : Tree) (place : Place) : List String → Except Trouble Place
  | [] => .ok place
  | name :: names =>
    match tree.at? place with
    | none => .error .missing
    | some (.file _) => .error .notADirectory
    | some .directory =>
      if name = "" ∨ name = "." then tree.follow place names
      else if name = ".." then tree.follow (above place) names
      else if maxNameBytes < name.utf8ByteSize then .error .nameTooLong
      else tree.follow (place ++ [name]) names

/-- The place that a written path leads to. -/
def resolve (tree : Tree) (text : String) : Except Trouble Place :=
  if text = "" ∨ text.toList.contains '\x00' then .error .missing
  else if maxPathBytes < text.utf8ByteSize then .error .nameTooLong
  else
    let start := if text.startsWith "/" then [rootName] else []
    tree.follow start ((splitNames text.toList).map String.ofList)

/-- What a written path leads to. -/
def find (tree : Tree) (text : String) : Except Trouble Node :=
  match tree.resolve text with
  | .error trouble => .error trouble
  | .ok place =>
    match tree.at? place with
    | some node => .ok node
    | none => .error .missing

/-- Whether a path leads to anything. One that is too long to be followed does not tell. -/
def has (tree : Tree) (path : Path) : Except Fault Bool :=
  match tree.find path.text with
  | .ok _ => .ok true
  | .error .nameTooLong => .error ⟨.nameTooLong, path.text⟩
  | .error _ => .ok false

/-- The content of the file at a written path. -/
def read (tree : Tree) (text : String) : Except Fault (List UInt8) :=
  match tree.find text with
  | .ok (.file bytes) => .ok bytes
  | .ok .directory => .error ⟨.isADirectory, text⟩
  | .error trouble => .error ⟨trouble, text⟩

/-- Put a node at a place. -/
def put (tree : Tree) (place : Place) (node : Node) : Tree :=
  if (tree.nodes.lookup place).isSome then
    { nodes := tree.nodes.map fun (p, old) => if p = place then (p, node) else (p, old) }
  else { nodes := tree.nodes ++ [(place, node)] }

/-- Make all directories on the way to a place that are not there yet. -/
def grow (tree : Tree) (place : Place) : Tree :=
  (List.range place.length).foldl
    (fun tree n =>
      if (tree.at? (place.take n)).isSome then tree else tree.put (place.take n) .directory)
    tree

/-- Put a node at a place, with all directories on the way to it. -/
def plant (tree : Tree) (place : Place) (node : Node) : Tree := (tree.grow place).put place node

/-- The place of a path that leads nowhere yet. -/
def placeOf (path : Path) : Place :=
  path.names.foldl (fun place name => if name = ".." then above place else place ++ [name])
    (if path.root = "" then [] else [rootName])

/-- A tree with the given files, and directories where there is no content. -/
def ofList (entries : List (String × Option (List UInt8))) : Tree :=
  entries.foldl
    (fun tree (text, content) =>
      tree.plant (placeOf (.ofText text)) ((content.map Node.file).getD .directory))
    {}

/-- Make a directory and those above it. It may be there already. -/
def makeDirectory (tree : Tree) (path : Path) : Except Fault Tree :=
  match tree.find path.text with
  | .ok .directory => .ok tree
  | .ok (.file _) => .error ⟨.exists, path.text⟩
  | .error .missing => .ok (tree.plant (placeOf path) .directory)
  | .error trouble => .error ⟨trouble, path.text⟩

/-- Write a file; the directories on the way to it are made if need be. -/
def write (tree : Tree) (text : String) (bytes : List UInt8) : Except Fault Tree :=
  match tree.find text with
  | .ok .directory => .error ⟨.isADirectory, text⟩
  | .error .notADirectory => .error ⟨.notADirectory, text⟩
  | .error .nameTooLong => .error ⟨.nameTooLong, text⟩
  | _ => .ok (tree.plant (placeOf (.ofText text)) (.file bytes))

/-- Remove a file. -/
def remove (tree : Tree) (text : String) : Except Fault Tree :=
  match tree.resolve text with
  | .error trouble => .error ⟨trouble, text⟩
  | .ok place =>
    match tree.at? place with
    | none => .error ⟨.missing, text⟩
    | some .directory => .error ⟨.isADirectory, text⟩
    | some (.file _) => .ok { nodes := tree.nodes.filter fun (p, _) => p ≠ place }

/-- The written form of a place. -/
def textOf (place : Place) : String :=
  if place.head? = some rootName then "/" ++ String.intercalate "/" place.tail
  else String.intercalate "/" place

/-- The files of a tree with their written places. -/
def files (tree : Tree) : List (String × List UInt8) :=
  tree.nodes.filterMap fun
    | (place, .file bytes) => some (textOf place, bytes)
    | (_, .directory) => none

end Tree

end PlotStream.Files
