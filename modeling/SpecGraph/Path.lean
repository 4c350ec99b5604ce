import SpecGraph.Text.CodePoints

/-!
# Paths

A path is an anchor and a list of parts. The anchor is empty for a relative path, one slash for an
absolute one, and two slashes for a text that starts with exactly two. Empty parts and single dots are
dropped; double dots stay. Joining an absolute path to another one gives the absolute path.
-/

namespace SpecGraph

/-- A normalised path. -/
structure Path where
  /-- What stands before the first part. -/
  anchor : String
  /-- The parts, from the root on. -/
  parts : List String
deriving DecidableEq, Inhabited

namespace Path

/-- The parts of a text between its slashes, the current one collected in reverse. -/
def split : (current : List Char) → List Char → List String
  | current, [] => [String.ofList current.reverse]
  | current, character :: rest =>
      if character = '/' then String.ofList current.reverse :: split [] rest
      else split (character :: current) rest

/-- The anchor of a text by the slashes it starts with. -/
def anchorOf (text : List Char) : String :=
  match (text.takeWhile fun character => character == '/').length with
  | 0 => ""
  | 2 => "//"
  | _ => "/"

/-- The path that a text denotes. -/
def parse (text : String) : Path :=
  ⟨anchorOf text.toList, (split [] text.toList).filter fun part => part != "" && part != "."⟩

/-- A text that can only lead to a folder: one that ends in a slash or in a single dot. -/
def isFolderName (text : String) : Bool :=
  ((split [] text.toList).getLast?).any fun part => part == "" || part == "."

/-- The text of a path; an empty relative path is a single dot. -/
def text (path : Path) : String :=
  if path.anchor = "" ∧ path.parts = [] then "."
  else path.anchor ++ "/".intercalate path.parts

/-- A path starts at the root. -/
def isAbsolute (path : Path) : Bool := path.anchor != ""

/-- The folders on the way to a text: what stands before its last slash. -/
def wayTo (text : String) : Path :=
  parse (String.ofList (text.toList.reverse.dropWhile fun character => character != '/').reverse)

/-- Some character of a path is NUL, so that no file can have it. -/
def hasNul (path : Path) : Bool := path.parts.any fun part => part.toList.contains (Char.ofNat 0)

/-- A path that can be written in bytes. -/
def isWritable (path : Path) : Bool := path.parts.all Text.canNameFile

/-- A path that a file can have. -/
def isPossible (path : Path) : Bool := path.isWritable && !path.hasNul

/-- The greatest number of bytes in a part of a path. -/
def mostPartBytes : Nat := 255

/-- The greatest number of bytes in the text of a path. -/
def mostBytes : Nat := 4095

/-- A path continued by another one. -/
def join (left right : Path) : Path :=
  if right.isAbsolute then right else ⟨left.anchor, left.parts ++ right.parts⟩

/-- A path continued by one part. -/
def child (path : Path) (part : String) : Path := ⟨path.anchor, path.parts ++ [part]⟩

/-- A path without its last part. -/
def parent (path : Path) : Path := ⟨path.anchor, path.parts.dropLast⟩

/-- The last part of a path. -/
def fileName (path : Path) : String := path.parts.getLast?.getD ""

/-- The ending of the last part from its last dot on, unless the dot is its first or last character. -/
def suffix (path : Path) : String :=
  let reversed := path.fileName.toList.reverse
  let ending := reversed.takeWhile fun character => character != '.'
  let before := reversed.drop (ending.length + 1)
  if ending.length < reversed.length ∧ ending ≠ [] ∧ before ≠ [] then
    String.ofList ('.' :: ending.reverse)
  else ""

end Path

end SpecGraph
