import SpecGraph.Path

/-!
# File trees

A tree of folders and text files with a working folder. A path is resolved part by part: every part
but the last has to be a folder, and double dots go to the folder above. Operations that the tree does
not allow give no result: reading a folder, writing where there is no folder, or making a folder where
there is a file. A text that is read has line feeds for all its line ends.
-/

namespace SpecGraph

/-- The place of a file or folder: the names on the way from the root of the tree. -/
abbrev Location := List String

/-- A tree of folders and text files. -/
structure Files where
  /-- The files with their texts, in the order they were made. -/
  files : List (Location × String)
  /-- The folders other than the root. -/
  folders : List Location
deriving DecidableEq

/-- What a path leads to. -/
inductive Node where
  | folder
  | file (text : String)
deriving DecidableEq

namespace Files

/-- The folder in which relative paths start. -/
def home : Location := ["home"]

/-- The tree with the working folder and nothing else. -/
def empty : Files := ⟨[], [home]⟩

instance : Inhabited Files := ⟨empty⟩

/-- The file or folder at a place. -/
def nodeAt? (tree : Files) (place : Location) : Option Node :=
  if place = [] ∨ place ∈ tree.folders then some .folder
  else (tree.files.find? fun entry => entry.1 = place).map fun entry => .file entry.2

/-- The place that parts lead to from a folder, where every part but the last is a folder. -/
def follow? (tree : Files) (start : Location) : List String → Option Location
  | [] => some start
  | part :: rest =>
      if tree.nodeAt? start = some .folder then
        tree.follow? (if part = ".." then start.dropLast else start ++ [part]) rest
      else none

/-- The place that a path leads to, if all folders on the way exist. -/
def resolve? (tree : Files) (path : Path) : Option Location :=
  tree.follow? (if path.isAbsolute then [] else home) path.parts

/-- The file or folder that a path leads to. -/
def find? (tree : Files) (path : Path) : Option Node :=
  (tree.resolve? path).bind tree.nodeAt?

/-- The way along parts from a folder comes to a part that is too long for a name. -/
def isBlockedByLength (tree : Files) (start : Location) : List String → Bool
  | [] => false
  | part :: rest =>
      if tree.nodeAt? start = some .folder then
        Path.mostPartBytes < Text.byteSize part ||
          tree.isBlockedByLength (if part = ".." then start.dropLast else start ++ [part]) rest
      else false

/-- A path is too long, or comes to a part that is. -/
def isTooLong (tree : Files) (path : Path) : Bool :=
  Path.mostBytes < Text.byteSize path.text ||
    tree.isBlockedByLength (if path.isAbsolute then [] else home) path.parts

/-- A path leads to a file or a folder. -/
def exists? (tree : Files) (path : Path) : Bool := (tree.find? path).isSome

/-- A text whose line ends are all line feeds. -/
def withLineFeeds : List Char → List Char
  | [] => []
  | '\r' :: '\n' :: rest => '\n' :: withLineFeeds rest
  | '\r' :: rest => '\n' :: withLineFeeds rest
  | character :: rest => character :: withLineFeeds rest

/-- The text of a file as it is read. -/
def readText (text : String) : String := String.ofList (withLineFeeds text.toList)

/-- The names in the folder at a place. -/
def namesIn (tree : Files) (place : Location) : List String :=
  (tree.folders ++ tree.files.map Prod.fst).filterMap fun location =>
    if location ≠ [] ∧ location.dropLast = place then location.getLast? else none

/-- The text of the file that a path leads to. -/
def read? (tree : Files) (path : Path) : Option String :=
  match tree.find? path with
  | some (.file text) => some (readText text)
  | _ => none

/-- The files with a text in a place, in the place of an earlier text or else at the end. -/
def put (files : List (Location × String)) (place : Location) (text : String) :
    List (Location × String) :=
  match files with
  | [] => [(place, text)]
  | entry :: rest => if entry.1 = place then (place, text) :: rest else entry :: put rest place text

/-- The tree with a text in the file that a path leads to. -/
def write? (tree : Files) (path : Path) (text : String) : Option Files := do
  let place ← tree.resolve? path
  if tree.isTooLong path || tree.nodeAt? place = some .folder then none
  else if tree.nodeAt? place.dropLast = some .folder then
    return { tree with files := put tree.files place text }
  else none

/-- What became of making one folder. -/
inductive Made where
  | done (tree : Files)
  | missing
  | refused

/-- Some start of the parts of a path leads to a file. -/
def isBlocked (tree : Files) (path : Path) : Bool :=
  (List.range (path.parts.length + 1)).any fun count =>
    match tree.find? ⟨path.anchor, path.parts.take count⟩ with
    | some (.file _) => true
    | _ => false

/-- The tree with a folder at a path whose parent has to be there. -/
def makeFolder (tree : Files) (path : Path) : Made :=
  if tree.isBlocked path || tree.isTooLong path then .refused
  else
    match tree.find? path, tree.resolve? path with
    | some _, _ => .done tree
    | none, some place => .done { tree with folders := tree.folders ++ [place] }
    | none, none => .missing

/-- The tree with a folder at a path and all folders above it, and whether they could all be made. -/
def makeFolders (tree : Files) (path : Path) : (depth : Nat) → Files × Bool
  | 0 => (tree, false)
  | depth + 1 =>
      match tree.makeFolder path with
      | .done tree => (tree, true)
      | .refused => (tree, false)
      | .missing =>
          if path.parts = [] then (tree, false)
          else
            let (tree, made) := tree.makeFolders path.parent depth
            match made, tree.makeFolder path with
            | true, .done tree => (tree, true)
            | _, _ => (tree, false)

/-- The tree with the folder of a path and all folders above it, and whether they could all be made. -/
def makeParents (tree : Files) (path : Path) : Files × Bool :=
  tree.makeFolders path.parent (path.parts.length + 1)

/-- The tree with a text in the file that a path leads to, after making its folder. -/
def writeDeep? (tree : Files) (path : Path) (text : String) : Option Files :=
  let (tree, made) := tree.makeParents path
  if made then tree.write? path text else none

/-- The tree without the file that a path leads to. -/
def remove? (tree : Files) (path : Path) : Option Files := do
  let place ← tree.resolve? path
  match tree.nodeAt? place with
  | some (.file _) => return { tree with files := tree.files.filter fun entry => entry.1 ≠ place }
  | _ => none

/-- The files below the working folder, by their paths from it. -/
def listing (tree : Files) : List (String × String) :=
  tree.files.filterMap fun (place, text) =>
    if home.isPrefixOf place then some ("/".intercalate (place.drop home.length), readText text)
    else none

/-- The files below the working folder that another tree has not, or has with another text. -/
def changedSince (tree earlier : Files) : List (String × String) :=
  tree.listing.filter fun entry => !earlier.listing.contains entry

end Files

end SpecGraph
