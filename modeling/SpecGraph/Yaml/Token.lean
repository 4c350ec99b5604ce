import SpecGraph.Error.Basic

/-!
# Tokens of YAML

A YAML text is a list of tokens: marks of the structure, either written in the text or implied by its
indentation, and scalars with the properties that stand before a node.
-/

namespace SpecGraph

namespace Yaml

/-- A tag as it is written: a suffix, after the handle of a prefix unless it is verbatim. -/
structure TagText where
  /-- The handle, if there is one. -/
  handle : Option String
  /-- What follows the handle. -/
  suffix : String
deriving DecidableEq, Inhabited

/-- A line before a document that tells how to read it. -/
inductive Directive where
  | version (major minor : Nat)
  | tag (handle : String) (replacement : String)
  | reserved
deriving DecidableEq, Inhabited

/-- A token. -/
inductive Token where
  | directive (value : Directive)
  | documentStart
  | documentEnd
  | blockSequenceStart
  | blockMappingStart
  | blockEnd
  | flowSequenceStart
  | flowSequenceEnd
  | flowMappingStart
  | flowMappingEnd
  | blockEntry
  | flowEntry
  | key
  | value
  | alias (name : String)
  | anchor (name : String)
  | tag (text : TagText)
  | scalar (text : List Char) (plain : Bool)
  | streamEnd
deriving DecidableEq, Inhabited

end Yaml

end SpecGraph
