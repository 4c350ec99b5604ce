import SpecGraph.Data.Display
import SpecGraph.Name

/-!
# What the stages are given

The stages of a build read plain records without a way back into the builder: the schemas, collections
and dispatches of each namespace, in the order of their declaration. What is declared in a builder has
texts for names, types and references, but a stage takes records with any values and checks them itself.
An entry of a manifest is a record with its namespace and address.
-/

namespace SpecGraph

/-- A field as a stage sees it. -/
structure FieldSpec where
  /-- The name of the field. -/
  name : Data
  /-- A primitive tag or the address of a schema. -/
  type : Data
  /-- The flag that the field has to be given. -/
  required : Data
deriving Inhabited

/-- A schema as a stage sees it. -/
structure SchemaSpec where
  /-- The path of the schema in its namespace. -/
  name : Data
  /-- The flag that asks for a denser encoding. -/
  compact : Data
  /-- The fields in the order of their declaration. -/
  fields : List FieldSpec
deriving Inhabited

/-- A collection as a stage sees it. -/
structure CollectionSpec where
  /-- The path of the collection in its namespace. -/
  name : Data
  /-- The address of its schema. -/
  schema : Data
  /-- The names of its key fields. -/
  key : List Data
deriving Inhabited

/-- A dispatch as a stage sees it. -/
structure DispatchSpec where
  /-- The path of the dispatch in its namespace. -/
  name : Data
  /-- The address of the schema of its requests. -/
  requestType : Data
deriving Inhabited

/-- Records by namespace, in the order of the namespaces. -/
abbrev Grouped (α : Type) := List (Data × List α)

/-- A record with its namespace. -/
structure Entry (α : Type) where
  /-- The name of the namespace. -/
  space : Data
  /-- The record. -/
  spec : α
deriving Inhabited

/-- The records of all namespaces, one after the other. -/
def Grouped.entries {α : Type} (groups : Grouped α) : List (Entry α) :=
  groups.flatMap fun (space, specs) => specs.map fun spec => ⟨space, spec⟩

/-- A field as the members of a mapping. -/
def FieldSpec.members (field : FieldSpec) : List (String × Data) :=
  [("name", field.name), ("type", field.type), ("required", field.required)]

/-- A schema as plain data: its name, flag and fields. -/
def SchemaSpec.toData (spec : SchemaSpec) : Data :=
  .list [spec.name, spec.compact,
    .list (spec.fields.map fun field => .object field.members)]

/-- A collection as plain data: its name, schema and key. -/
def CollectionSpec.toData (spec : CollectionSpec) : Data :=
  .list [spec.name, spec.schema, .list spec.key]

/-- A dispatch as plain data: its name and request type. -/
def DispatchSpec.toData (spec : DispatchSpec) : Data :=
  .list [spec.name, spec.requestType]

/-- Grouped records as plain data, given the form of a record. -/
def Grouped.toData {α : Type} (groups : Grouped α) (form : α → Data) : Data :=
  .list (groups.map fun (space, specs) => .list [space, .list (specs.map form)])

/-- The address of a path in a namespace. -/
def addressOf (space name : Data) : String := Name.format ⟨space.display, name.display⟩

/-- The members that tell what and where an entry is. -/
def placeMembers (space name : Data) : List (String × Data) :=
  [("name", name), ("namespace", space), ("fqn", .text (addressOf space name))]

/-- A schema entry with given texts of its fields. -/
def schemaMembers (entry : Entry SchemaSpec) (fields : List Data) : List (String × Data) :=
  placeMembers entry.space entry.spec.name ++
    [("compact", entry.spec.compact), ("fields", .list fields)]

/-- The members of a collection entry. -/
def collectionMembers (entry : Entry CollectionSpec) : List (String × Data) :=
  placeMembers entry.space entry.spec.name ++
    [("schema", entry.spec.schema), ("key", .list entry.spec.key)]

/-- The members of a dispatch entry. -/
def dispatchMembers (entry : Entry DispatchSpec) : List (String × Data) :=
  placeMembers entry.space entry.spec.name ++ [("request_type", entry.spec.requestType)]

/-- A schema entry without versions. -/
def Entry.schemaData (entry : Entry SchemaSpec) : Data :=
  .object (schemaMembers entry (entry.spec.fields.map fun field => .object field.members))

/-- A collection entry without an id. -/
def Entry.collectionData (entry : Entry CollectionSpec) : Data := .object (collectionMembers entry)

/-- A dispatch entry without an id. -/
def Entry.dispatchData (entry : Entry DispatchSpec) : Data := .object (dispatchMembers entry)

end SpecGraph
