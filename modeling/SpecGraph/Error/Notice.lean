import SpecGraph.Data.Access
import SpecGraph.Data.Display
import SpecGraph.Error.Message

/-!
# Notices

A notice is an error as it is handed on: its message, a stable code, details, and the parts that it was
made from. Notices of each kind are made from parts that may be any values; a part is given by its place
or by its name, and one that may be left out is null then. The code and the details of a general notice
are free, those of every other kind follow from the kind and the parts. No value is a change between
manifests, so a notice of breaking changes is made from none.
-/

namespace SpecGraph

/-- The kinds of notices. -/
inductive NoticeKind where
  | general
  | malformedName
  | duplicate
  | unknownType
  | frozen
  | compilation
  | finalization
  | document
  | incompatible
deriving DecidableEq, Inhabited

/-- A part that a notice is made from. -/
structure NoticePart where
  /-- The name of the part. -/
  name : String
  /-- The part may not be left out. -/
  isRequired : Bool
deriving DecidableEq, Inhabited

/-- An error as it is handed on. -/
structure Notice where
  /-- What happened. -/
  message : Data
  /-- What tells kinds of errors apart. -/
  code : Data
  /-- What belongs to the message. -/
  details : Data
  /-- The parts by name. -/
  parts : List (String × Data)
deriving Inhabited

namespace NoticeKind

/-- Every kind. -/
def all : List NoticeKind :=
  [general, malformedName, duplicate, unknownType, frozen, compilation, finalization, document,
    incompatible]

/-- The name of a kind. -/
def name : NoticeKind → String
  | general => "HyperspecError"
  | malformedName => "MalformedNamespaceReferenceError"
  | duplicate => "DuplicateDeclarationError"
  | unknownType => "UnknownFieldTypeError"
  | frozen => "BuilderFrozenError"
  | compilation => "CompilationFailedError"
  | finalization => "FinalizationError"
  | document => "DeclarationFileError"
  | incompatible => "CompatibilityError"

/-- The kind of a name. -/
def ofName? (name : String) : Option NoticeKind := all.find? fun kind => kind.name == name

/-- The parts of a kind, in their order. -/
def parts : NoticeKind → List NoticePart
  | general => [⟨"message", true⟩, ⟨"code", false⟩, ⟨"details", false⟩]
  | malformedName => [⟨"reference", true⟩, ⟨"reason", true⟩]
  | duplicate => [⟨"kind", true⟩, ⟨"name", true⟩, ⟨"scope", false⟩]
  | unknownType => [⟨"type_tag", true⟩, ⟨"suggestions", false⟩]
  | frozen => [⟨"message", true⟩, ⟨"spec_root", false⟩]
  | compilation => [⟨"stage", true⟩, ⟨"output_root", true⟩, ⟨"cause", true⟩]
  | finalization => [⟨"failures", true⟩]
  | document => [⟨"message", true⟩, ⟨"errors", false⟩]
  | incompatible => [⟨"changes", true⟩]

end NoticeKind

namespace Notice

/-- A value for each part, from values given by place and values given by name. A value without a part,
a part with two values and a required part without one are refused. -/
def fill (parts : List NoticePart) (placed : List Data) (named : List (String × Data)) :
    Except Fault (List Data) :=
  let byPlace := (parts.map NoticePart.name).zip placed
  let isMisplaced := named.any fun (name, _) =>
    (byPlace.lookup name).isSome || !parts.any fun part => part.name == name
  if parts.length < placed.length || isMisplaced then throw .wrongKind
  else parts.mapM fun part =>
    match (byPlace ++ named).lookup part.name with
    | some value => pure value
    | none => if part.isRequired then throw .wrongKind else pure .null

/-- A value, or another one in the place of a value that counts as false. -/
def orElse (value other : Data) : Data := if value.isTruthy then value else other

/-- The texts that a value is made of. -/
def textsOf (value : Data) : Except Fault (List String) := do
  (← value.items).mapM fun item =>
    match item with
    | .text text => pure text
    | _ => throw .wrongKind

/-- The two values that a failure is made of: a root and what happened there. -/
def failureOf (value : Data) : Except Fault (Data × Data) := do
  match ← value.items with
  | [root, cause] => pure (root, cause)
  | _ => throw .badValue

/-- A notice of a kind whose code and details are fixed. -/
def fixed (message : String) (code : String) (details parts : List (String × Data)) : Notice :=
  ⟨.text message, .text code, .object details, parts⟩

/-- The notice of a kind that is made from a value for each of its parts. -/
def ofParts (kind : NoticeKind) (values : List Data) : Except Fault Notice := do
  match kind, values with
  | .general, [message, code, details] =>
      return ⟨message, orElse code (.text "HYPERSPEC_ERROR"), orElse details (.object []), []⟩
  | .malformedName, [reference, reason] =>
      let parts := [("reference", reference), ("reason", reason)]
      return fixed (Message.malformedName reference.inner reason.display)
        "MALFORMED_NAMESPACE_REFERENCE" parts parts
  | .duplicate, [declared, name, scope] =>
      let parts := [("kind", declared), ("name", name), ("scope", scope)]
      let inScope := if scope.isTruthy then some scope.display else none
      return fixed (Message.duplicate declared.display name.display inScope)
        "DUPLICATE_DECLARATION" parts parts
  | .unknownType, [tag, suggestions] =>
      let suggestions := orElse suggestions (.list [])
      return fixed (Message.unknownType tag.display (← textsOf suggestions)) "UNKNOWN_FIELD_TYPE"
        [("type", tag), ("suggestions", suggestions)]
        [("type_tag", tag), ("suggestions", suggestions)]
  | .frozen, [message, root] =>
      return ⟨message, .text "BUILDER_FROZEN", .object [("spec_root", root)], [("spec_root", root)]⟩
  | .compilation, [stage, root, cause] =>
      let target := [("stage", stage), ("output_root", root)]
      return fixed (Message.compilation stage.display root.display cause.display)
        "COMPILATION_FAILED" target (target ++ [("cause", cause)])
  | .finalization, [failures] =>
      let pairs ← (← failures.items).mapM failureOf
      return fixed
        (Message.finalization (pairs.map fun (root, cause) => (root.display, cause.display)))
        "FINALIZATION_FAILED" [("spec_roots", .list (pairs.map Prod.fst))] [("failures", failures)]
  | .document, [message, errors] =>
      let errors := orElse errors (.list [])
      return ⟨message, .text "INVALID_DECLARATION_FILE", .object [("errors", errors)],
        [("errors", errors)]⟩
  | .incompatible, [changes] =>
      if !(← changes.items).isEmpty then throw .missingMember
      return fixed (Message.incompatible []) "INCOMPATIBLE_CHANGE" [("paths", .list [])]
        [("changes", changes)]
  | _, _ => throw .wrongKind

/-- The notice of a kind that is made from values given by place and values given by name. -/
def make (kind : NoticeKind) (placed : List Data) (named : List (String × Data)) :
    Except Fault Notice := do
  ofParts kind (← fill kind.parts placed named)

/-- The notice in words. -/
def text (notice : Notice) : String := notice.message.display

/-- A notice as plain data: what all notices have, and its parts. -/
def toData (notice : Notice) : Data :=
  .object ([("message", notice.message), ("code", notice.code), ("details", notice.details)] ++
    notice.parts)

end Notice

end SpecGraph
