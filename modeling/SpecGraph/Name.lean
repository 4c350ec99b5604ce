/-!
# Names of declarations

A declaration is addressed by the name of its namespace and a path inside it. The full form of a name
is `@namespace/path`; a bare `path` is a name in the default namespace. A path has one or more
segments, none of them empty, with a slash between two of them.
-/

namespace SpecGraph

/-- The address of a declaration. -/
structure Name where
  /-- The name of the namespace. -/
  space : String
  /-- The path inside the namespace. -/
  path : String
deriving DecidableEq, Inhabited

/-- Why a text is not a name. -/
inductive NameFault where
  | empty
  | emptySpace
  | missingPath
  | emptySegment
deriving DecidableEq, Inhabited

namespace NameFault

/-- The reason in words. -/
def reason : NameFault → String
  | .empty => "name is empty"
  | .emptySpace => "namespace name is empty"
  | .missingPath => "missing local name after namespace"
  | .emptySegment => "local name has an empty path segment"

end NameFault

namespace Name

/-- The namespace of bare names. -/
def defaultSpace : String := "default"

/-- The segments of a text between its slashes. -/
def segments : List Char → List (List Char)
  | [] => [[]]
  | character :: rest =>
      if character = '/' then [] :: segments rest
      else
        match segments rest with
        | [] => [[character]]
        | segment :: others => (character :: segment) :: others

/-- Segments with a slash between two of them. -/
def join (segments : List (List Char)) : List Char := ['/'].intercalate segments

/-- The full form of an address. -/
def format (name : Name) : String := "@" ++ name.space ++ "/" ++ name.path

/-- A path of given segments in a namespace. -/
def ofSegments (space : String) (segments : List (List Char)) : Except NameFault Name :=
  if segments.any List.isEmpty then throw .emptySegment
  else pure ⟨space, String.ofList (join segments)⟩

/-- The address that a text denotes. -/
def parse (text : String) : Except NameFault Name :=
  if text = "" then throw .empty
  else
    match segments text.toList with
    | ('@' :: space) :: path =>
        if space.isEmpty then throw .emptySpace
        else if path.isEmpty then throw .missingPath
        else ofSegments (String.ofList space) path
    | path => ofSegments defaultSpace path

/-- A text that starts like a full name and has a slash. -/
def isFull (text : String) : Bool :=
  match text.toList with
  | '@' :: rest => rest.contains '/'
  | _ => false

end Name

end SpecGraph
