import SpecGraph.Document.Basic
import SpecGraph.Error.Reference
import SpecGraph.Proofs.Graph.Pieces

/-!
# The graph that a document describes

Every declaration of a document is a piece for one namespace. A declaration with fields gives its own schema, and then
the schemas nested in it, each before those inside it, as they are met in the document. The document describes the
graph of all its pieces, in which the default namespace comes first. What is given here for a value that is no name
does not matter, since a document is not declared then.
-/

namespace SpecGraph

/-- The name that a value denotes. -/
def Data.toName (value : Data) : Name :=
  match Reference.parse value with
  | .ok name => name
  | .error _ => default

namespace FieldDecl

/-- The name of the schema nested in a field. -/
def inside (name : Name) (field : Data) : Name := ⟨name.space, name.path ++ "/" ++ field.text?.getD ""⟩

/-- The field that is added to the schema of a name. -/
def toField (schema : Name) : FieldDecl → Field
  | plain name type struct optional =>
      ⟨name, type.text?.getD struct.toName.format, !optional.isTruthy⟩
  | inline name _ optional _ => ⟨name, (inside schema name).format, !optional.isTruthy⟩

mutual

/-- The schemas nested in a field of the schema of a name. -/
def nested (schema : Name) : FieldDecl → List Schema
  | plain .. => []
  | inline name _ _ fields =>
      ⟨(inside schema name).path, .bool false, fields.map (toField (inside schema name)), false⟩ ::
        allNested (inside schema name) fields

/-- The schemas nested in fields of the schema of a name. -/
def allNested (schema : Name) : List FieldDecl → List Schema
  | [] => []
  | field :: rest => field.nested schema ++ allNested schema rest

end

/-- The schema of a name with its fields, and the schemas nested in it. -/
def schemas (name : Name) (compact : Data) (keyed : Bool) (fields : List FieldDecl) : List Schema :=
  ⟨name.path, compact, fields.map (toField name), keyed⟩ :: allNested name fields

end FieldDecl

/-- A schema is declared with those nested in it. -/
def SchemaDecl.piece (schema : SchemaDecl) : Namespace :=
  let name := schema.name.toName
  ⟨name.space, FieldDecl.schemas name schema.compact false schema.fields, [], [], []⟩

/-- A collection is declared with its schema. -/
def CollectionDecl.piece (collection : CollectionDecl) : Namespace :=
  let name := collection.name.toName
  ⟨name.space, FieldDecl.schemas name (.bool false) true collection.fields, [⟨name.path, collection.key⟩], [], []⟩

/-- A dispatch is declared with the schema of its requests, if it gives their fields. -/
def DispatchDecl.piece (dispatch : DispatchDecl) : Namespace :=
  let name := dispatch.name.toName
  match dispatch.fields with
  | some fields => ⟨name.space, FieldDecl.schemas name (.bool false) false fields, [], [⟨name.path, name.format⟩], []⟩
  | none => ⟨name.space, [], [], [⟨name.path, dispatch.request.toName.format⟩], []⟩

namespace Document

/-- The declarations of a document, in the order in which they are declared. -/
def pieces (document : Document) : List Namespace :=
  document.schemas.map SchemaDecl.piece ++ document.collections.map CollectionDecl.piece ++
    document.dispatches.map DispatchDecl.piece

/-- The names of the declarations of a kind in a document. -/
def names (document : Document) : DeclarationKind → List Name := Graph.namesOf document.pieces

/-- The graph that a document describes. -/
def flatten (document : Document) : Graph :=
  Graph.merge (Namespace.empty Name.defaultSpace :: document.pieces)

/-- Declaring the pieces of a document one after the other gives the graph that it describes. -/
theorem foldl_put_pieces (document : Document) : document.pieces.foldl Graph.put Graph.initial = document.flatten :=
  Graph.foldl_put_merge [Namespace.empty Name.defaultSpace] document.pieces

end Document

end SpecGraph
