import SpecGraph.Error.Reference
import SpecGraph.World.Basic

/-!
# Declaring

Every declaration is registered at once, before its body is built: a body that fails leaves what it did,
and the declaration too. Names are unique for each kind in a namespace, guests included, and field names
in a schema.
Nothing can be declared in a frozen builder. A name is resolved before anything is registered, and its
namespace is made on its first use.
-/

namespace SpecGraph

/-- A schema of a namespace. -/
structure SchemaRef where
  /-- The namespace. -/
  space : SpaceRef
  /-- The path of the schema. -/
  path : String
deriving DecidableEq, Inhabited

/-- A field of a schema. -/
structure FieldRef where
  /-- The schema. -/
  schema : SchemaRef
  /-- The number of fields before the field. -/
  position : Nat
deriving DecidableEq, Inhabited

/-- The full name of a schema. -/
def SchemaRef.address (ref : SchemaRef) : String := Name.format ⟨ref.space.name, ref.path⟩

namespace Run

/-- A namespace. -/
def space (ref : SpaceRef) : Run Namespace := do
  let found ←
    match ref.owner with
    | .builder number => do
        let builder ← builder number
        pure (builder.graph.space? ref.name)
    | .nobody number => do
        let world ← get
        pure world.loose[number]?
  match found with
  | some space => return space
  | none => throw (.fault (.missingKey (.text ref.name)))

/-- Changes a namespace. -/
def modifySpace (ref : SpaceRef) (change : Namespace → Namespace) : Run Unit :=
  match ref.owner with
  | .builder number =>
      modifyBuilder number fun builder =>
        { builder with graph := builder.graph.modifySpace ref.name change }
  | .nobody number =>
      modify fun world => { world with loose := world.loose.modify number change }

/-- Fails if the builder of a namespace is frozen. -/
def ensureOpen (ref : SpaceRef) : Run Unit := do
  match ref.owner with
  | .builder number =>
      let builder ← builder number
      if builder.frozen then
        throw (.frozen (.declareInto ref.name) builder.specRoot.text)
  | .nobody _ => pure ()

/-- A schema. -/
def schema (ref : SchemaRef) : Run Schema := do
  match (← space ref.space).schema? ref.path with
  | some schema => return schema
  | none => throw .noSchema

/-- Changes a schema. -/
def modifySchema (ref : SchemaRef) (change : Schema → Schema) : Run Unit :=
  modifySpace ref.space fun space => space.modifySchema ref.path change

/-- Makes sure that a builder has a namespace of a name. -/
def ensureSpace (number : Nat) (name : String) : Run SpaceRef := do
  let builder ← builder number
  if (builder.graph.space? name).isNone then
    ensureBuilderOpen number
    modifyBuilder number fun builder => { builder with graph := builder.graph.addSpace name }
    record .debug Logger.registry ("Created namespace " ++ Message.inQuotes name)
  return ⟨.builder number, name⟩

/-- The namespace and the path that a reference denotes in a builder. -/
def resolve (number : Nat) (reference : Data) : Run (SpaceRef × String) := do
  let name ← ofExcept (Reference.parse reference)
  return (← ensureSpace number name.space, name.path)

/-- The schema of a builder that a reference denotes, if there is one. -/
def schema? (number : Nat) (reference : Data) : Run (Option SchemaRef) := do
  let name ← ofExcept (Reference.parse reference)
  let builder ← builder number
  return (builder.graph.schema? name).map fun _ => ⟨⟨.builder number, name.space⟩, name.path⟩

/-- Registers a schema without fields. -/
def addSchema (ref : SpaceRef) (schema : Schema) : Run SchemaRef := do
  ensureOpen ref
  let space ← space ref
  let address := space.address schema.path
  if space.isTaken .schema schema.path then throw (.duplicate .schema (.text address) none)
  modifySpace ref fun space => { space with schemas := space.schemas ++ [schema] }
  record .debug Logger.types ("Registered schema " ++ address)
  return ⟨ref, schema.path⟩

/-- Registers a collection. -/
def addCollection (ref : SpaceRef) (collection : Collection) : Run Unit := do
  ensureOpen ref
  let space ← space ref
  let address := space.address collection.path
  if space.isTaken .collection collection.path then
    throw (.duplicate .collection (.text address) none)
  modifySpace ref fun space => { space with collections := space.collections ++ [collection] }
  record .debug Logger.types ("Registered collection " ++ address)

/-- Registers a dispatch. -/
def addDispatch (ref : SpaceRef) (dispatch : Dispatch) : Run Unit := do
  ensureOpen ref
  let space ← space ref
  let address := space.address dispatch.path
  if space.isTaken .dispatch dispatch.path then
    throw (.duplicate .dispatch (.text address) none)
  modifySpace ref fun space => { space with dispatches := space.dispatches ++ [dispatch] }
  record .debug Logger.types ("Registered dispatch " ++ address ++ " -> " ++ dispatch.requestType)

/-- Registers what was declared before once more, in the namespace that owns it or in another one, where it
becomes a guest. -/
def addAgain (ref : SpaceRef) (declaration : Declaration) : Run Unit := do
  ensureOpen ref
  let owner ← space declaration.owner
  if !owner.owns declaration.kind declaration.path then throw (.fault .missingMember)
  let host ← space ref
  if host.isTaken declaration.kind declaration.path then
    throw (.duplicate declaration.kind (.text declaration.address) none)
  modifySpace ref fun space => { space with guests := space.guests ++ [declaration] }
  record .debug Logger.types ("Registered " ++ declaration.kind.name ++ " " ++ declaration.address ++
    match declaration.kind with
    | .dispatch => " -> " ++ ((owner.dispatch? declaration.path).map Dispatch.requestType).getD ""
    | _ => "")

/-- Registers a collection together with its schema. -/
def addKeyedSchema (ref : SpaceRef) (path : String) : Run SchemaRef := do
  let schema ← addSchema ref (Schema.empty path (.bool false) true)
  addCollection ref ⟨path, []⟩
  return schema

/-- Declares a schema in a builder. -/
def declareSchema (number : Nat) (reference compact : Data) : Run SchemaRef := do
  ensureBuilderOpen number
  let (space, path) ← resolve number reference
  addSchema space (Schema.empty path compact false)

/-- Declares a collection in a builder. -/
def declareCollection (number : Nat) (reference : Data) : Run SchemaRef := do
  ensureBuilderOpen number
  let (space, path) ← resolve number reference
  addKeyedSchema space path

/-- Opens the declaration of a dispatch in a builder. -/
def openDispatch (number : Nat) (reference : Data) : Run (SpaceRef × String) := do
  ensureBuilderOpen number
  resolve number reference

/-- Declares a dispatch in a builder for the requests of a schema of a name. A target that is no text
counts as the body of a schema of the dispatch, which is declared before the body fails. -/
def declareDispatch (number : Nat) (reference target : Data) : Run (SpaceRef × String) := do
  let (space, path) ← openDispatch number reference
  if target.text?.isNone then
    discard (addSchema space (Schema.empty path (.bool false) false))
    throw (.fault .wrongKind)
  let requestType ← ofExcept (Reference.normalize target)
  addDispatch space ⟨path, requestType⟩
  return (space, path)

/-- Fails if no field of a name can be added to a schema. -/
def checkFieldName (ref : SchemaRef) (name : Data) : Run Unit := do
  ensureOpen ref.space
  let schema ← schema ref
  if schema.hasField name then
    throw (.duplicate .field name (some ("schema " ++ Message.inQuotes ref.address)))

/-- Adds a field to a schema. -/
def addField (ref : SchemaRef) (name : Data) (type : String) : Run FieldRef := do
  checkFieldName ref name
  let position := (← schema ref).fields.length
  modifySchema ref fun schema => schema.append ⟨name, type, true⟩
  return ⟨ref, position⟩

/-- Adds a field of a primitive type given by its tag. -/
def addPrimitive (ref : SchemaRef) (name type : Data) : Run FieldRef := do
  match type with
  | .text _ => addField ref name (← ofExcept (Reference.fieldType type)).tag
  | _ => throw (.fault .missingMember)

/-- Declares the schema of a field below the path of the schema of the field. -/
def declareNested (ref : SchemaRef) (name : Data) : Run SchemaRef := do
  checkFieldName ref name
  match name with
  | .text text => addSchema ref.space (Schema.empty (ref.path ++ "/" ++ text) (.bool false) false)
  | _ => throw (.fault .wrongKind)

/-- Adds a field that holds the schema of a name. A target that is no text counts as the body of a nested
schema, which is declared before the body fails. -/
def addReference (ref : SchemaRef) (name target : Data) : Run FieldRef := do
  checkFieldName ref name
  if target.text?.isNone then
    discard (declareNested ref name)
    throw (.fault .wrongKind)
  let type ← ofExcept (Reference.normalize target)
  addField ref name type

/-- Makes a field optional. -/
def relax (field : FieldRef) : Run Unit :=
  modifySchema field.schema fun schema => schema.relax field.position

/-- Sets the key of the collection of a schema. -/
def setKey (ref : SchemaRef) (names : List Data) : Run Unit := do
  if !(← schema ref).keyed then throw (.fault .missingMember)
  ensureOpen ref.space
  modifySpace ref.space fun space =>
    space.modifyCollection ref.path fun collection => { collection with key := names }

/-- Sets the flag of a schema that asks for a denser encoding. -/
def setCompact (ref : SchemaRef) (value : Data) : Run Unit :=
  modifySchema ref fun schema => { schema with compact := value }

end Run

end SpecGraph
