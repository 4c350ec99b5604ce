import SpecGraph.Digest
import SpecGraph.Graph.View
import SpecGraph.Manifest.Pipeline
import SpecGraph.Settings.Load

/-!
# Builders and the world they live in

A builder holds a graph under construction together with the roots and pipelines of its build. It is
frozen from the moment it is first finalized. The world knows all builders by their numbers, in the order
they were made, and keeps the list of those that are still to be finalized together; it has the
namespaces that belong to no builder, the file tree with its log, and the calls of stages so far.
-/

namespace SpecGraph

/-- A graph under construction. -/
structure Builder where
  /-- The root of all that is written. -/
  specRoot : Path
  /-- The folder of the manifest of schemas. -/
  schemaRoot : Path
  /-- The folder of the manifest of collections. -/
  storageRoot : Path
  /-- The folder of the manifest of dispatches. -/
  dispatchRoot : Path
  /-- The pipelines of the stages. -/
  pipelines : Pipelines
  /-- What was declared. -/
  graph : Graph
  /-- The builder was finalized, whether or not it succeeded. -/
  frozen : Bool
deriving Inhabited

/-- A call of a stage. -/
structure StageCall where
  /-- The number of the builder. -/
  builder : Nat
  /-- The pipeline that was called. -/
  pipeline : Pipeline
  /-- What it was asked. -/
  request : StageRequest
deriving Inhabited

/-- Everything that operations read and change. -/
structure World where
  /-- The builders by number. -/
  builders : List Builder
  /-- The numbers of the builders that wait to be finalized together, in the order they were made. -/
  waiting : List Nat
  /-- The numbers of the builders that can be named by their places, in the order they were made. -/
  scope : List Nat
  /-- The namespaces that belong to no builder by number; a name denotes the last one made of it. -/
  loose : List Namespace
  /-- The file tree and the log. -/
  workspace : Workspace
  /-- The calls of stages so far. -/
  calls : List StageCall
  /-- The number of calls that were looked at. -/
  seen : Nat
  /-- The number of texts that were read. -/
  readings : Nat
deriving Inhabited

/-- An operation on the world that may fail; what it did before it failed remains. -/
abbrev Run (α : Type) := ExceptT Error (StateM World) α

namespace Builder

/-- A new builder under a root. -/
def create (root : Path) (settings : Settings) (pipelines : Option Pipelines) : Builder :=
  { specRoot := root
    schemaRoot := settings.schemaRoot root
    storageRoot := settings.storageRoot root
    dispatchRoot := settings.dispatchRoot root
    pipelines := pipelines.getD (Pipelines.manifests settings.allowBreaking)
    graph := Graph.initial
    frozen := false }

/-- What a stage is asked to do for a builder. -/
def request (builder : Builder) : Stage → StageRequest
  | .schema => .schema builder.graph.schemaSpecs builder.schemaRoot
  | .storage => .storage builder.graph.collectionSpecs builder.schemaRoot builder.storageRoot
  | .dispatch => .dispatch builder.graph.dispatchSpecs builder.schemaRoot builder.dispatchRoot

/-- A builder as plain data. -/
def toData (builder : Builder) : Data :=
  .object [("spec_root", .text builder.specRoot.text), ("namespaces", builder.graph.toData)]

/-- A builder in short. -/
def description (builder : Builder) : String :=
  "Builder(" ++ Text.quoted builder.specRoot.text ++ ", namespaces=" ++
    (Data.texts (builder.graph.spaces.map Namespace.name)).inner ++
    (if builder.frozen then ", finalized)" else ", open)")

/-- What tells two graphs apart: their namespaces, but not the roots. -/
def fingerprint (builder : Builder) : Except Fault String :=
  (Data.object [("namespaces", builder.graph.toData)]).fingerprint

end Builder

namespace World

/-- A world without builders, and with a file tree. -/
def start (files : Files) : World := ⟨[], [], [], [], ⟨files, []⟩, [], 0, 0⟩

/-- The builders that wait to be finalized, by number. -/
def pending (world : World) : List Nat :=
  world.waiting.filter fun number => (world.builders[number]?).any fun builder => !builder.frozen

/-- The number of the namespace without a builder that a name denotes. -/
def looseNumber? (world : World) (name : String) : Option Nat :=
  let made := (List.range world.loose.length).filter fun number =>
    (world.loose[number]?).any fun space => space.name == name
  made.getLast?

/-- The namespaces without a builder that names denote, in the order of the first use of the names. -/
def looseSpaces (world : World) : List Namespace :=
  (world.loose.map Namespace.name).eraseDups.filterMap fun name =>
    (world.looseNumber? name).bind fun number => world.loose[number]?

end World

namespace Run

/-- A result that may be an error. -/
def ofExcept {α : Type} (result : Except Error α) : Run α :=
  match result with
  | .ok value => pure value
  | .error error => throw error

/-- A result that may be at fault. -/
def ofFault {α : Type} (result : Except Fault α) : Run α :=
  match result with
  | .ok value => pure value
  | .error fault => throw (.fault fault)

/-- A job on the workspace of the world. -/
def ofJob {α : Type} (job : Job α) : Run α := do
  let world ← get
  let (result, workspace) := job.run.run world.workspace
  set { world with workspace }
  ofExcept result

/-- Adds a record to the log. -/
def record (level : Level) (logger message : String) : Run Unit := ofJob (Job.record level logger message)

/-- The number of the next reading of a text. -/
def nextReading : Run Nat := do
  let world ← get
  set { world with readings := world.readings + 1 }
  return world.readings

/-- The builder of a number. -/
def builder (number : Nat) : Run Builder := do
  match (← get).builders[number]? with
  | some builder => return builder
  | none => throw .noBuilder

/-- Changes the builder of a number. -/
def modifyBuilder (number : Nat) (change : Builder → Builder) : Run Unit :=
  modify fun world => { world with builders := world.builders.modify number change }

/-- Makes a builder and answers its number. -/
def addBuilder (builder : Builder) : Run Nat := do
  let number := (← get).builders.length
  modify fun world =>
    { world with
      builders := world.builders ++ [builder]
      waiting := world.waiting ++ [number]
      scope := world.scope ++ [number] }
  return number

/-- Carries out an operation that can name only one builder and the ones that it makes, and the namespaces
without a builder that it makes. -/
def within {α : Type} (number : Nat) (operation : Run α) : Run α := do
  let outer ← get
  let (result, inner) := operation.run.run { outer with scope := [number], loose := [] }
  set { inner with scope := outer.scope, loose := outer.loose }
  ofExcept result

/-- Fails if a builder is frozen. -/
def ensureBuilderOpen (number : Nat) : Run Unit := do
  let builder ← builder number
  if builder.frozen then throw (.frozen .declare builder.specRoot.text)

end Run

end SpecGraph
