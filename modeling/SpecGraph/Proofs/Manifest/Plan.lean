import SpecGraph.Manifest.Pipeline
import SpecGraph.Proofs.Workspace

/-!
# The plan of a stage

Before a stage writes anything it makes a plan: from the manifests that are there and from what was
declared it finds the version and the entries of the new manifest, or the reason why there is none. The
plan depends on the file tree alone and leaves it as it is. What a stage does is to make its plan and to
store the manifest of the plan, and nothing if there is no plan.
-/

namespace SpecGraph

namespace Manifest

/-- A manifest of some version whose entries are a member. -/
def compose (member : String) (version : Int) (entries : List Data) : Data :=
  .object [("version", .int version), (member, .list entries)]

theorem faulty_eq_ok {α : Type} {result : Except Fault α} {value : α} :
    Job.faulty result = .ok value ↔ result = .ok value := by
  cases result <;> simp [Job.faulty]

/-- Fails if there are breaking changes that are not allowed. -/
def permitted (allowBreaking : Bool) (changes : List Change) : Except Error Unit :=
  if !allowBreaking && !(breaking changes).isEmpty then .error (.incompatible (breaking changes))
  else .ok ()

/-- Fails if the type of a field is neither primitive nor one of the addresses. -/
def resolvedField (addresses : List String) (entry : Entry SchemaSpec) (field : FieldSpec) :
    Except Error Unit := do
  if !(field.type.text?).any FieldTag.isTag then
    if !(← Job.faulty (isAmong addresses field.type)) then
      throw (.reference (.field field.name (schemaAddress entry) field.type))

/-- Fails if the type of a field of a schema is neither primitive nor one of the addresses. -/
def resolvedFields (addresses : List String) (entry : Entry SchemaSpec) : Except Error Unit :=
  entry.spec.fields.forM (resolvedField addresses entry)

/-- The version and the entries of the next manifest of schemas. -/
def planSchemas (allowBreaking : Bool) (entries : List (Entry SchemaSpec)) (previous : Option Data) :
    Except Error (Int × List Data) := do
  entries.forM (resolvedFields (entries.map schemaAddress))
  let changes ← Job.faulty
    (diffSchemas (orEmpty previous) (.object [("schema", .list (entries.map Entry.schemaData))]))
  permitted allowBreaking changes
  let version ← Job.faulty (nextVersion previous changes)
  let oldSchemas ← Job.faulty (index (orEmpty previous) "schema")
  let versioned ← Job.faulty (entries.mapM (versionedSchema version changes oldSchemas))
  return (version, versioned)

/-- The schemas of a manifest that has to be there, by address. -/
def schemasIn (path : Path) : Option Data → Except Error (Table Data)
  | none => .error (.reference (.noManifest path.text))
  | some manifest => Job.faulty (index manifest "schema")

/-- Fails if the schema or the key of a collection is not among the schemas. -/
def resolvedCollection (schemas : Table Data) (entry : Entry CollectionSpec) : Except Error Unit := do
  let address := addressOf entry.space entry.spec.name
  if !entry.spec.schema.isKey then throw (.fault .wrongKind)
  match schemas.get? entry.spec.schema with
  | none => throw (.reference (.collection address entry.spec.schema))
  | some schema =>
      if entry.spec.key.isEmpty then throw (.key (.empty address))
      let fields ← Job.faulty (do (← schema.member "fields").items)
      let names ← Job.faulty (Table.keyedBy fields fun field => field.member "name")
      if !(entry.spec.key.all Data.isKey) then throw (.fault .wrongKind)
      let missing := entry.spec.key.filter fun name => !names.has name
      if !missing.isEmpty then throw (.key (.undeclared address entry.spec.schema missing))

/-- Fails if the request type of a dispatch is not among the schemas. -/
def resolvedDispatch (schemas : Table Data) (entry : Entry DispatchSpec) : Except Error Unit := do
  if !entry.spec.requestType.isKey then throw (.fault .wrongKind)
  if !schemas.has entry.spec.requestType then
    throw (.reference
      (.dispatch (addressOf entry.space entry.spec.name) entry.spec.requestType))

/-- A kind of declarations that get ids. -/
structure Numbered (α : Type) where
  /-- The section of the manifest that has the entries. -/
  section_ : String
  /-- The path of a declaration in its namespace. -/
  name : α → Data
  /-- The members of an entry without its id. -/
  members : Entry α → List (String × Data)
  /-- Fails if an entry refers to something that is not among the schemas. -/
  check : Table Data → Entry α → Except Error Unit
  /-- The differences between two manifests. -/
  diff : Data → Data → Except Fault (List Change)

/-- Collections get ids. -/
def collections : Numbered CollectionSpec :=
  ⟨"collections", CollectionSpec.name, collectionMembers, resolvedCollection, diffCollections⟩

/-- Dispatches get ids. -/
def dispatches : Numbered DispatchSpec :=
  ⟨"dispatches", DispatchSpec.name, dispatchMembers, resolvedDispatch, diffDispatches⟩

namespace Numbered

variable {α : Type} (kind : Numbered α)

/-- The address of an entry. -/
def addressOf (entry : Entry α) : String := SpecGraph.addressOf entry.space (kind.name entry.spec)

/-- The entries with their ids. -/
def withIds (ids : Table Data) (entries : List (Entry α)) : List Data :=
  entries.map fun entry =>
    .object (kind.members entry ++ [("id", (ids.get? (.text (kind.addressOf entry))).getD .null)])

/-- The version and the entries of the next manifest, given the schemas. -/
def plan (allowBreaking : Bool) (schemas : Table Data) (entries : List (Entry α))
    (previous : Option Data) : Except Error (Int × List Data) := do
  entries.forM (kind.check schemas)
  let changes ← Job.faulty (kind.diff (orEmpty previous)
    (.object [(kind.section_, .list (entries.map fun entry => .object (kind.members entry)))]))
  permitted allowBreaking changes
  let version ← Job.faulty (nextVersion previous changes)
  let ids ← Job.faulty (sectionIds previous kind.section_ (entries.map kind.addressOf))
  return (version, kind.withIds ids entries)

end Numbered

theorem tells_allowOrRefuse (allowBreaking : Bool) (label : String) (target : Path)
    (changes : List Change) :
    (allowOrRefuse allowBreaking label target changes).Tells fun _ =>
      permitted allowBreaking changes := by
  cases allowBreaking with
  | true =>
      have each (change : Change) := Job.tells_record .warning Logger.manifest ("Allowing breaking " ++
        label ++ " change in " ++ target.text ++ ": " ++ change.text)
      have logged := Job.tells_forM (breaking changes) each
      have nothing : ((breaking changes).forM fun _ => (.ok () : Except Error PUnit)) = .ok () := by
        induction breaking changes with
        | nil => rfl
        | cons change rest ih => exact ih
      rw [nothing] at logged
      exact logged
  | false =>
      intro workspace
      cases broken : (breaking changes).isEmpty <;> cases none : changes.isEmpty <;>
        simp only [allowOrRefuse, refuseBreaking, permitted, broken, none] <;> rfl

theorem tells_checkFields (addresses : List String) (entry : Entry SchemaSpec) :
    (checkFields addresses entry).Tells fun _ => resolvedFields addresses entry := by
  refine Job.tells_forM _ fun field => ?_
  intro workspace
  unfold resolvedField
  cases field.type.text?.any FieldTag.isTag with
  | true => rfl
  | false =>
      cases isAmong addresses field.type with
      | error fault => rfl
      | ok found => cases found <;> rfl

theorem tells_loadSchemas (root : Path) :
    (loadSchemas root).Tells fun files =>
      loaded files (root.child schemaFile) >>= schemasIn (root.child schemaFile) := by
  refine Job.tells_bind (tells_load _) fun previous => ?_
  cases previous with
  | none => exact Job.tells_throw _
  | some manifest => exact Job.tells_ofFault _

theorem tells_checkCollection (schemas : Table Data) (entry : Entry CollectionSpec) :
    (checkCollection schemas entry).Tells fun _ => resolvedCollection schemas entry := by
  unfold checkCollection resolvedCollection
  cases entry.spec.schema.isKey with
  | false => exact fun _ => rfl
  | true =>
      cases schemas.get? entry.spec.schema with
      | none => exact fun _ => rfl
      | some schema =>
          cases entry.spec.key.isEmpty with
          | true => exact fun _ => rfl
          | false =>
              refine Job.tells_bind (Job.tells_ofFault _) fun fields => ?_
              refine Job.tells_bind (Job.tells_ofFault _) fun names => ?_
              cases entry.spec.key.all Data.isKey with
              | false => exact fun _ => rfl
              | true =>
                  dsimp only
                  cases (entry.spec.key.filter fun name => !names.has name).isEmpty <;>
                    exact fun _ => rfl

theorem tells_checkDispatch (schemas : Table Data) (entry : Entry DispatchSpec) :
    (checkDispatch schemas entry).Tells fun _ => resolvedDispatch schemas entry := by
  intro workspace
  unfold checkDispatch resolvedDispatch
  cases entry.spec.requestType.isKey <;> cases schemas.has entry.spec.requestType <;> rfl

end Manifest

namespace StageRequest

/-- The file that the manifest of a request is written to. -/
def file : StageRequest → Path
  | schema _ root => root.child Manifest.schemaFile
  | storage _ _ root => root.child Manifest.storageFile
  | dispatch _ _ root => root.child Manifest.dispatchFile

/-- The member of a manifest that has the entries of a request. -/
def member : StageRequest → String
  | schema .. => "schema"
  | storage .. => "collections"
  | dispatch .. => "dispatches"

/-- The version and the entries of the next manifest. -/
def plan (allowBreaking : Bool) : StageRequest → Files → Except Error (Int × List Data)
  | schema groups root, files =>
      Manifest.loaded files (root.child Manifest.schemaFile) >>=
        Manifest.planSchemas allowBreaking groups.entries
  | storage groups schemaRoot root, files => do
      let schemas ← Manifest.loaded files (schemaRoot.child Manifest.schemaFile) >>=
        Manifest.schemasIn (schemaRoot.child Manifest.schemaFile)
      let previous ← Manifest.loaded files (root.child Manifest.storageFile)
      Manifest.collections.plan allowBreaking schemas groups.entries previous
  | dispatch groups schemaRoot root, files => do
      let schemas ← Manifest.loaded files (schemaRoot.child Manifest.schemaFile) >>=
        Manifest.schemasIn (schemaRoot.child Manifest.schemaFile)
      let previous ← Manifest.loaded files (root.child Manifest.dispatchFile)
      Manifest.dispatches.plan allowBreaking schemas groups.entries previous

/-- What is done with a plan: its manifest is stored. -/
def storing (request : StageRequest) (goal : Int × List Data) : Files → Except Error Unit × Files :=
  (Manifest.store request.file (Manifest.compose request.member goal.1 goal.2)).action

/-- After storing a manifest nothing is done but to tell about it. -/
theorem actsAs_storing (request : StageRequest) (goal : Int × List Data) (level : Level)
    (logger message : String) :
    (do
      Manifest.store request.file (Manifest.compose request.member goal.1 goal.2)
      Job.record level logger message).ActsAs (request.storing goal) := by
  intro workspace
  rw [storing, Job.actsAs_bind (Manifest.actsAs_store _ _)
    (fun _ => Job.tells_record level logger message) workspace]
  dsimp only
  rcases (Manifest.store request.file _).action workspace.files with ⟨outcome, files⟩
  cases outcome <;> rfl

/-- A stage makes its plan and stores the manifest of the plan. -/
theorem actsAs_writeManifest (allowBreaking : Bool) (request : StageRequest) :
    (request.writeManifest allowBreaking).ActsAs fun files =>
      Job.carryOut (request.plan allowBreaking files) request.storing files := by
  cases request with
  | schema groups root =>
      refine Job.carriesOut_bind (Manifest.tells_load _) fun previous => ?_
      refine Job.carriesOut_bind (Job.tells_forM _ (Manifest.tells_checkFields _)) fun _ => ?_
      refine Job.carriesOut_bind (Job.tells_ofFault _) fun changes => ?_
      refine Job.carriesOut_bind (Manifest.tells_allowOrRefuse _ _ _ _) fun _ => ?_
      refine Job.carriesOut_bind (Job.tells_ofFault _) fun version => ?_
      refine Job.carriesOut_bind (Job.tells_ofFault _) fun oldSchemas => ?_
      refine Job.carriesOut_bind (Job.tells_ofFault _) fun versioned => ?_
      exact actsAs_storing (.schema groups root) (version, versioned) _ _ _
  | storage groups schemaRoot root =>
      refine Job.carriesOut_bind (Manifest.tells_loadSchemas _) fun schemas => ?_
      refine Job.carriesOut_bind (Manifest.tells_load _) fun previous => ?_
      refine Job.carriesOut_bind (Job.tells_forM _ (Manifest.tells_checkCollection _)) fun _ => ?_
      refine Job.carriesOut_bind (Job.tells_ofFault _) fun changes => ?_
      refine Job.carriesOut_bind (Manifest.tells_allowOrRefuse _ _ _ _) fun _ => ?_
      refine Job.carriesOut_bind (Job.tells_ofFault _) fun version => ?_
      refine Job.carriesOut_bind (Job.tells_ofFault _) fun ids => ?_
      exact actsAs_storing (.storage groups schemaRoot root) (version, _) _ _ _
  | dispatch groups schemaRoot root =>
      refine Job.carriesOut_bind (Manifest.tells_loadSchemas _) fun schemas => ?_
      refine Job.carriesOut_bind (Manifest.tells_load _) fun previous => ?_
      refine Job.carriesOut_bind (Job.tells_forM _ (Manifest.tells_checkDispatch _)) fun _ => ?_
      refine Job.carriesOut_bind (Job.tells_ofFault _) fun changes => ?_
      refine Job.carriesOut_bind (Manifest.tells_allowOrRefuse _ _ _ _) fun _ => ?_
      refine Job.carriesOut_bind (Job.tells_ofFault _) fun version => ?_
      refine Job.carriesOut_bind (Job.tells_ofFault _) fun ids => ?_
      exact actsAs_storing (.dispatch groups schemaRoot root) (version, _) _ _ _

/-- What a stage that writes manifests does: it makes its plan and stores the manifest of the plan. -/
theorem action_writeManifest (allowBreaking : Bool) (request : StageRequest) (files : Files) :
    (request.writeManifest allowBreaking).action files =
      Job.carryOut (request.plan allowBreaking files) request.storing files :=
  request.actsAs_writeManifest allowBreaking ⟨files, []⟩

/-- A stage leaves the texts of all other files. -/
theorem textAt?_action_of_ne (allowBreaking : Bool) (request : StageRequest) (files : Files)
    {place : Location} (other : place ≠ request.file.place) :
    ((request.writeManifest allowBreaking).action files).2.textAt? place = files.textAt? place := by
  rw [action_writeManifest]
  cases request.plan allowBreaking files with
  | error error => rfl
  | ok goal => exact (Manifest.stored_action _ _ files).textAt?_of_ne other

/-- A stage keeps folders and files. -/
theorem grows_action (allowBreaking : Bool) (request : StageRequest) (files : Files) :
    files.Grows ((request.writeManifest allowBreaking).action files).2 := by
  rw [action_writeManifest]
  cases request.plan allowBreaking files with
  | error error => exact Files.Grows.refl files
  | ok goal => exact (Manifest.stored_action _ _ files).grows

/-- The manifests of two stages are never in one place. -/
theorem place_file_ne (first second : StageRequest) (other : first.stage ≠ second.stage) :
    first.file.place ≠ second.file.place := by
  have schemaName : Manifest.schemaFile ≠ ".." := by decide
  have storageName : Manifest.storageFile ≠ ".." := by decide
  have dispatchName : Manifest.dispatchFile ≠ ".." := by decide
  intro same
  have last := congrArg List.getLast? same
  revert last
  cases first <;> cases second <;>
    simp only [file, Path.place_child schemaName, Path.place_child storageName,
      Path.place_child dispatchName, List.getLast?_concat] <;>
    first | exact (other rfl).elim | decide

end StageRequest

end SpecGraph
