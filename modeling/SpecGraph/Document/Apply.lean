import SpecGraph.Document.Check
import SpecGraph.World.Declare

/-!
# Declaring a document

A document without problems is declared in a builder: first its schemas, then its collections, then its
dispatches, each in the order of the document. A declaration that fails ends this, and what was declared
before it stays.
-/

namespace SpecGraph

namespace Document

/-- Makes a field optional, if a value counts as true. -/
def relaxIf (optional : Data) (field : FieldRef) : Run Unit :=
  if optional.isTruthy then Run.relax field else pure ()

mutual

/-- Declares a field in a schema. -/
def declareField (schema : SchemaRef) : FieldDecl → Run Unit
  | .plain name type struct optional => do
      let field ←
        match type with
        | .null => Run.addReference schema name struct
        | _ => Run.addPrimitive schema name type
      relaxIf optional field
  | .inline name type optional fields => do
      let field ←
        match type with
        | .null => do
            let nested ← Run.declareNested schema name
            declareFields nested fields
            Run.addField schema name nested.address
        | _ => Run.addPrimitive schema name type
      relaxIf optional field

/-- Declares fields in a schema, one after the other. -/
def declareFields (schema : SchemaRef) : List FieldDecl → Run Unit
  | [] => pure ()
  | field :: rest => do
      declareField schema field
      declareFields schema rest

end

/-- Declares a schema of a document. -/
def declareSchema (number : Nat) (schema : SchemaDecl) : Run Unit := do
  let ref ← Run.declareSchema number schema.name schema.compact
  declareFields ref schema.fields

/-- Declares a collection of a document. -/
def declareCollection (number : Nat) (collection : CollectionDecl) : Run Unit := do
  let ref ← Run.declareCollection number collection.name
  if !collection.key.isEmpty then Run.setKey ref collection.key
  declareFields ref collection.fields

/-- Declares a dispatch of a document. -/
def declareDispatch (number : Nat) (dispatch : DispatchDecl) : Run Unit := do
  match dispatch.request with
  | .null =>
      let (space, path) ← Run.openDispatch number dispatch.name
      let ref ← Run.addSchema space (Schema.empty path (.bool false) false)
      declareFields ref (dispatch.fields.getD [])
      Run.addDispatch space ⟨path, ref.address⟩
  | request => discard (Run.declareDispatch number dispatch.name request)

/-- Declares a document in a builder. -/
def apply (number : Nat) (document : Document) : Run Unit := do
  let problems ← Run.ofExcept document.problems
  if !problems.isEmpty then throw (.document (.invalid problems))
  document.schemas.forM (declareSchema number)
  document.collections.forM (declareCollection number)
  document.dispatches.forM (declareDispatch number)

end Document

end SpecGraph
