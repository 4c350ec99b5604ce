import SpecGraph.Data.Access
import SpecGraph.Error.Basic
import SpecGraph.Name

/-!
# The declaration graph

A graph is a list of namespaces, each with its schemas, collections and dispatches in the order of
their declaration. A schema is an ordered list of fields; a collection is a keyed store of one schema of
the same path, which is marked as belonging to it; a dispatch is an endpoint with the address of the
schema of its requests.

A declaration belongs to the namespace that it was made in. It can be added to another namespace all the
same: there it takes its name, as a guest, but it stays with its owner, where it is found and changed.
-/

namespace SpecGraph

/-- A field of a schema. -/
structure Field where
  /-- The name of the field. -/
  name : Data
  /-- A primitive tag or the address of a schema. -/
  type : String
  /-- The field has to be given. -/
  required : Bool
deriving Inhabited

/-- An ordered list of fields. -/
structure Schema where
  /-- The path of the schema in its namespace. -/
  path : String
  /-- The flag that asks for a denser encoding. -/
  compact : Data
  /-- The fields in the order of their declaration. -/
  fields : List Field
  /-- The schema belongs to a collection. -/
  keyed : Bool
deriving Inhabited

/-- A keyed store of the schema with the same path. -/
structure Collection where
  /-- The path of the collection in its namespace. -/
  path : String
  /-- The names of the key fields in their order. -/
  key : List Data
deriving Inhabited

/-- An endpoint. -/
structure Dispatch where
  /-- The path of the dispatch in its namespace. -/
  path : String
  /-- The address of the schema of its requests. -/
  requestType : String
deriving Inhabited

/-- Where a namespace belongs. -/
inductive Owner where
  /-- It belongs to the builder of a number. -/
  | builder (number : Nat)
  /-- It belongs to no builder, and has a number of its own. -/
  | nobody (number : Nat)
deriving DecidableEq, Inhabited

/-- A namespace of a builder, or one that belongs to nobody. -/
structure SpaceRef where
  /-- Where the namespace belongs. -/
  owner : Owner
  /-- The name of the namespace. -/
  name : String
deriving DecidableEq, Inhabited

/-- A schema, a collection or a dispatch, told by the namespace that owns it. -/
structure Declaration where
  /-- Its kind. -/
  kind : DeclarationKind
  /-- The namespace that it was made in. -/
  owner : SpaceRef
  /-- Its path. -/
  path : String
deriving DecidableEq, Inhabited

/-- A scope of names. -/
structure Namespace where
  /-- The name of the namespace. -/
  name : String
  /-- The schemas in the order of their declaration. -/
  schemas : List Schema
  /-- The collections in the order of their declaration. -/
  collections : List Collection
  /-- The dispatches in the order of their declaration. -/
  dispatches : List Dispatch
  /-- What was added although another namespace owns it. It only takes names here: what is told of a
  namespace and what is built from it are its own declarations. -/
  guests : List Declaration
deriving Inhabited

/-- The namespaces in the order of their first use. -/
structure Graph where
  /-- The namespaces. -/
  spaces : List Namespace
deriving Inhabited

/-- The first element that satisfies a test replaced by its image. -/
def replaceFirst {α : Type} (test : α → Bool) (change : α → α) : List α → List α
  | [] => []
  | element :: rest =>
      if test element then change element :: rest else element :: replaceFirst test change rest

namespace Field

/-- A field that may be left out. -/
def relaxed (field : Field) : Field := { field with required := false }

end Field

namespace Schema

/-- A schema without fields. -/
def empty (path : String) (compact : Data) (keyed : Bool) : Schema := ⟨path, compact, [], keyed⟩

/-- The position of the field of a name. -/
def position? (schema : Schema) (name : Data) : Option Nat :=
  schema.fields.findIdx? fun field => field.name.same name

/-- A field of the schema has a name. -/
def hasField (schema : Schema) (name : Data) : Bool := (schema.position? name).isSome

/-- The names of the fields in their order. -/
def fieldNames (schema : Schema) : List Data := schema.fields.map Field.name

/-- The schema with one more field. -/
def append (schema : Schema) (field : Field) : Schema :=
  { schema with fields := schema.fields ++ [field] }

/-- The schema in which the field at a position may be left out. -/
def relax (schema : Schema) (position : Nat) : Schema :=
  { schema with fields := schema.fields.modify position Field.relaxed }

end Schema

namespace Namespace

/-- A namespace without declarations. -/
def empty (name : String) : Namespace := ⟨name, [], [], [], []⟩

/-- The schema of a path. -/
def schema? (space : Namespace) (path : String) : Option Schema :=
  space.schemas.find? fun schema => schema.path == path

/-- The collection of a path. -/
def collection? (space : Namespace) (path : String) : Option Collection :=
  space.collections.find? fun collection => collection.path == path

/-- The dispatch of a path. -/
def dispatch? (space : Namespace) (path : String) : Option Dispatch :=
  space.dispatches.find? fun dispatch => dispatch.path == path

/-- A declaration of a kind and a path is registered in the namespace that owns it. -/
def declares (space : Namespace) (kind : DeclarationKind) (path : String) : Bool :=
  match kind with
  | .schema => (space.schema? path).isSome
  | .collection => (space.collection? path).isSome
  | .dispatch => (space.dispatch? path).isSome
  | .field => false

/-- A path is taken for a kind, by a declaration of the namespace or by a guest. -/
def isTaken (space : Namespace) (kind : DeclarationKind) (path : String) : Bool :=
  space.declares kind path || space.guests.any fun guest => guest.kind == kind && guest.path == path

/-- A declaration was made in the namespace. A collection is made together with its schema, even if only the
schema could be registered. -/
def owns (space : Namespace) (kind : DeclarationKind) (path : String) : Bool :=
  space.declares kind path || (kind == .collection && (space.schema? path).any Schema.keyed)

/-- The address of a path in the namespace. -/
def address (space : Namespace) (path : String) : String := Name.format ⟨space.name, path⟩

/-- The namespace with a schema of a path changed. -/
def modifySchema (space : Namespace) (path : String) (change : Schema → Schema) : Namespace :=
  { space with schemas := replaceFirst (fun schema => schema.path == path) change space.schemas }

/-- The namespace with a collection of a path changed. -/
def modifyCollection (space : Namespace) (path : String) (change : Collection → Collection) :
    Namespace :=
  { space with
    collections :=
      replaceFirst (fun collection => collection.path == path) change space.collections }

end Namespace

/-- The full name of a declaration, which is that in the namespace that owns it. -/
def Declaration.address (declaration : Declaration) : String :=
  Name.format ⟨declaration.owner.name, declaration.path⟩

namespace Graph

/-- The graph with the default namespace alone. -/
def initial : Graph := ⟨[Namespace.empty Name.defaultSpace]⟩

/-- The namespace of a name. -/
def space? (graph : Graph) (name : String) : Option Namespace :=
  graph.spaces.find? fun space => space.name == name

/-- The schema of an address. -/
def schema? (graph : Graph) (name : Name) : Option Schema :=
  (graph.space? name.space).bind fun space => space.schema? name.path

/-- The graph with a namespace of a name at its end. -/
def addSpace (graph : Graph) (name : String) : Graph := ⟨graph.spaces ++ [Namespace.empty name]⟩

/-- The graph with the namespace of a name changed. -/
def modifySpace (graph : Graph) (name : String) (change : Namespace → Namespace) : Graph :=
  ⟨replaceFirst (fun space => space.name == name) change graph.spaces⟩

/-- The number of schemas, collections or dispatches in all namespaces. -/
def count {α : Type} (graph : Graph) (part : Namespace → List α) : Nat :=
  (graph.spaces.flatMap part).length

end Graph

end SpecGraph
