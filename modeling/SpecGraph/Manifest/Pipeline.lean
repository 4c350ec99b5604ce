import SpecGraph.Manifest.Compile

/-!
# Stages of a build

A stage is asked to write what was declared under its roots. It can do so by writing a manifest, or take
note of what it was asked and write nothing, or refuse. A pipeline that is made elsewhere does to the file
tree what it likes, and fails as it likes.
-/

namespace SpecGraph

/-- What a stage is asked to do: the records of every namespace and the roots it works between. -/
inductive StageRequest where
  | schema (groups : Grouped SchemaSpec) (schemaRoot : Path)
  | storage (groups : Grouped CollectionSpec) (schemaRoot storageRoot : Path)
  | dispatch (groups : Grouped DispatchSpec) (schemaRoot dispatchRoot : Path)
deriving Inhabited

/-- How a stage is carried out. -/
inductive Pipeline where
  /-- Writes a manifest, allowing breaking changes or not. -/
  | manifest (allowBreaking : Bool)
  /-- Takes note of the request. -/
  | record
  /-- Refuses with a message. -/
  | refuse (message : String)
  /-- Does what is told for every request and every file tree. -/
  | other (carryOut : StageRequest → Files → Except Error Unit × Files)
deriving Inhabited

/-- The pipelines of the three stages. -/
structure Pipelines where
  /-- The pipeline of the schema stage. -/
  schema : Pipeline
  /-- The pipeline of the storage stage. -/
  storage : Pipeline
  /-- The pipeline of the dispatch stage. -/
  dispatch : Pipeline
deriving Inhabited

namespace StageRequest

/-- The stage that is asked. -/
def stage : StageRequest → Stage
  | schema .. => .schema
  | storage .. => .storage
  | dispatch .. => .dispatch

/-- The root that the stage writes under. -/
def target : StageRequest → Path
  | schema _ root => root
  | storage _ _ root => root
  | dispatch _ _ root => root

/-- A request as plain data: its stage, records and roots. -/
def toData : StageRequest → Data
  | schema groups root =>
      .list [.text Stage.schema.name, groups.toData SchemaSpec.toData, .texts [root.text]]
  | storage groups schemaRoot root =>
      .list [.text Stage.storage.name, groups.toData CollectionSpec.toData,
        .texts [schemaRoot.text, root.text]]
  | dispatch groups schemaRoot root =>
      .list [.text Stage.dispatch.name, groups.toData DispatchSpec.toData,
        .texts [schemaRoot.text, root.text]]

/-- Writes the manifest that is asked for. -/
def writeManifest (allowBreaking : Bool) : StageRequest → Job Unit
  | schema groups root => Manifest.compileSchemas allowBreaking groups root
  | storage groups schemaRoot root => Manifest.compileCollections allowBreaking groups schemaRoot root
  | dispatch groups schemaRoot root => Manifest.compileDispatches allowBreaking groups schemaRoot root

end StageRequest

/-- Carries out a request. -/
def Pipeline.run (pipeline : Pipeline) (request : StageRequest) : Job Unit :=
  match pipeline with
  | manifest allowBreaking => request.writeManifest allowBreaking
  | record => pure ()
  | refuse message => throw (.compiler message)
  | other carryOut => Job.ofAction (carryOut request)

/-- A pipeline takes note of its requests. -/
def Pipeline.isRecord : Pipeline → Bool
  | record => true
  | _ => false

/-- Pipelines that write manifests. -/
def Pipelines.manifests (allowBreaking : Bool) : Pipelines :=
  ⟨.manifest allowBreaking, .manifest allowBreaking, .manifest allowBreaking⟩

instance Pipeline.decidableEqManifest (pipeline : Pipeline) (allowBreaking : Bool) :
    Decidable (pipeline = .manifest allowBreaking) :=
  match pipeline with
  | manifest allowed => decidable_of_iff (allowed = allowBreaking) ⟨congrArg manifest, manifest.inj⟩
  | record | refuse _ | other _ => isFalse nofun

instance Pipelines.decidableEqManifests (pipelines : Pipelines) (allowBreaking : Bool) :
    Decidable (pipelines = manifests allowBreaking) :=
  decidable_of_iff (pipelines.schema = .manifest allowBreaking ∧ pipelines.storage = .manifest allowBreaking ∧
      pipelines.dispatch = .manifest allowBreaking)
    ⟨fun ⟨schema, storage, dispatch⟩ => congr (congr (congrArg mk schema) storage) dispatch,
      fun same => by rw [same]; exact ⟨rfl, rfl, rfl⟩⟩

/-- The pipeline of a stage. -/
def Pipelines.ofStage (pipelines : Pipelines) : Stage → Pipeline
  | .schema => pipelines.schema
  | .storage => pipelines.storage
  | .dispatch => pipelines.dispatch

end SpecGraph
