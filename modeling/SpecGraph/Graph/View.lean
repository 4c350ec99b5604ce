import SpecGraph.Data.Display
import SpecGraph.Graph.Basic
import SpecGraph.Manifest.Entry

/-!
# Views of the declaration graph

A graph as plain data, for people and for fingerprints; as records, for the stages of a build; and as
short descriptions.
-/

namespace SpecGraph

/-- A field as plain data. -/
def Field.toData (field : Field) : Data :=
  .object [("name", field.name), ("type", .text field.type), ("required", .bool field.required)]

/-- A field as a stage sees it. -/
def Field.toSpec (field : Field) : FieldSpec :=
  ⟨field.name, .text field.type, .bool field.required⟩

/-- A schema as plain data, given the name of its namespace. -/
def Schema.toData (schema : Schema) (space : String) : Data :=
  .object [("name", .text schema.path), ("fqn", .text (Name.format ⟨space, schema.path⟩)),
    ("compact", schema.compact), ("fields", .list (schema.fields.map Field.toData))]

/-- A schema as a stage sees it. -/
def Schema.toSpec (schema : Schema) : SchemaSpec :=
  ⟨.text schema.path, schema.compact, schema.fields.map Field.toSpec⟩

/-- A schema in short, given the name of its namespace. -/
def Schema.description (schema : Schema) (space : String) : String :=
  (if schema.keyed then "CollectionSchema(" else "Schema(") ++
    Text.quoted (Name.format ⟨space, schema.path⟩) ++ ", fields=" ++
    (Data.list schema.fieldNames).inner ++ ")"

/-- A collection as plain data, given the name of its namespace. -/
def Collection.toData (collection : Collection) (space : String) : Data :=
  let address := Name.format ⟨space, collection.path⟩
  .object [("name", .text collection.path), ("fqn", .text address), ("schema", .text address),
    ("key", .list collection.key)]

/-- A collection as a stage sees it, given the name of its namespace. -/
def Collection.toSpec (collection : Collection) (space : String) : CollectionSpec :=
  ⟨.text collection.path, .text (Name.format ⟨space, collection.path⟩), collection.key⟩

/-- A dispatch as plain data, given the name of its namespace. -/
def Dispatch.toData (dispatch : Dispatch) (space : String) : Data :=
  .object [("name", .text dispatch.path), ("fqn", .text (Name.format ⟨space, dispatch.path⟩)),
    ("request_type", .text dispatch.requestType)]

/-- A dispatch as a stage sees it. -/
def Dispatch.toSpec (dispatch : Dispatch) : DispatchSpec :=
  ⟨.text dispatch.path, .text dispatch.requestType⟩

/-- A namespace as plain data. -/
def Namespace.toData (space : Namespace) : Data :=
  .object [("name", .text space.name),
    ("schemas", .list (space.schemas.map fun schema => schema.toData space.name)),
    ("collections", .list (space.collections.map fun collection => collection.toData space.name)),
    ("dispatches", .list (space.dispatches.map fun dispatch => dispatch.toData space.name))]

/-- A namespace in short. -/
def Namespace.description (space : Namespace) : String :=
  "Namespace(" ++ Text.quoted space.name ++ ", schemas=" ++ Text.natText space.schemas.length ++
    ", collections=" ++ Text.natText space.collections.length ++ ", dispatches=" ++
    Text.natText space.dispatches.length ++ ")"

namespace Graph

/-- The namespaces of a graph as plain data. -/
def toData (graph : Graph) : Data := .list (graph.spaces.map Namespace.toData)

/-- The schemas by namespace. -/
def schemaSpecs (graph : Graph) : Grouped SchemaSpec :=
  graph.spaces.map fun space => (.text space.name, space.schemas.map Schema.toSpec)

/-- The collections by namespace. -/
def collectionSpecs (graph : Graph) : Grouped CollectionSpec :=
  graph.spaces.map fun space =>
    (.text space.name, space.collections.map fun collection => collection.toSpec space.name)

/-- The dispatches by namespace. -/
def dispatchSpecs (graph : Graph) : Grouped DispatchSpec :=
  graph.spaces.map fun space => (.text space.name, space.dispatches.map Dispatch.toSpec)

end Graph

end SpecGraph
