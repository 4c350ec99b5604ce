import SpecGraph.Proofs.Graph.Problems
import SpecGraph.Proofs.World.Failure
import SpecGraph.Proofs.World.Left
import SpecGraph.Proofs.World.Report

/-!
# What the reports on a builder foretell

A builder is finalized with success exactly if its graph has no problems and the comparison with the manifests has
no breaking change. The problems are found in the graph and the changes in the manifests before the build, but the
stages for collections and dispatches look at the manifest that the schema stage has just written. This manifest
says the schemas of the graph with their texts joined, so the graph must have no names that this would change. Also
the manifests that are found must have been left by builders, and every stage must be able to write its manifest.
-/

namespace SpecGraph

open Manifest (Says Reaches AreResolved IsKept loaded schemasIn orEmpty breaking)
open Manifest.Numbered (collectionReading dispatchReading)

/-- Joining the texts of a schema changes neither its full name nor the names of its fields. -/
def SchemaForm.IsSettled (schema : SchemaForm) : Prop :=
  Text.joined schema.address = schema.address ∧ ∀ field ∈ schema.fields, Text.joined field.name = field.name

instance (schema : SchemaForm) : Decidable schema.IsSettled := inferInstanceAs (Decidable (_ ∧ _))

theorem SchemaForm.IsSettled.names_joined {schema : SchemaForm} (settled : schema.IsSettled) :
    schema.joined.fields.map FieldForm.name = schema.fields.map FieldForm.name := by
  change (schema.fields.map FieldForm.joined).map FieldForm.name = _
  rw [List.map_map]
  exact List.map_congr_left fun field fieldMem => settled.2 field fieldMem

section Joined

variable {schemas : List SchemaForm} (settled : ∀ schema ∈ schemas, schema.IsSettled)
include settled

/-- Settled schemas have the same full names when their texts are joined. -/
theorem addresses_joined : (schemas.map SchemaForm.joined).map SchemaForm.address = schemas.map SchemaForm.address := by
  rw [List.map_map]
  exact List.map_congr_left fun schema schemaMem => (settled schema schemaMem).1

theorem CollectionForm.resolvedIn_joined_iff (collection : CollectionForm) :
    collection.ResolvedIn (schemas.map SchemaForm.joined) ↔ collection.ResolvedIn schemas := by
  have each (schema : SchemaForm) (schemaMem : schema ∈ schemas) :
      (schema.joined.address = collection.schema ∧ collection.key ≠ [] ∧
        ∀ name ∈ collection.key, name ∈ schema.joined.fields.map FieldForm.name) ↔
      (schema.address = collection.schema ∧ collection.key ≠ [] ∧
        ∀ name ∈ collection.key, name ∈ schema.fields.map FieldForm.name) := by
    rw [(settled schema schemaMem).names_joined, show schema.joined.address = _ from (settled schema schemaMem).1]
  constructor
  · rintro ⟨_, there, refers⟩
    rcases List.mem_map.mp there with ⟨schema, schemaMem, rfl⟩
    exact ⟨schema, schemaMem, (each schema schemaMem).mp refers⟩
  · rintro ⟨schema, schemaMem, refers⟩
    exact ⟨_, List.mem_map_of_mem schemaMem, (each schema schemaMem).mpr refers⟩

theorem DispatchForm.resolvedIn_joined_iff (dispatch : DispatchForm) :
    dispatch.ResolvedIn (schemas.map SchemaForm.joined) ↔ dispatch.ResolvedIn schemas := by
  have same := congrArg (dispatch.requestType ∈ ·) (addresses_joined settled)
  rw [eq_iff_iff, List.mem_map, List.mem_map] at same
  exact same

end Joined

/-- No schema of a graph has a name that would be changed by joining its text. -/
def Graph.IsSettled (graph : Graph) : Prop := ∀ schema ∈ graph.schemaSources.map SchemaSource.form, schema.IsSettled

instance (graph : Graph) : Decidable graph.IsSettled :=
  inferInstanceAs (Decidable (∀ schema ∈ graph.schemaSources.map SchemaSource.form, schema.IsSettled))

namespace StageRequest

/-- A stage whose file can be opened and whose manifest has a text succeeds exactly if it has a plan. -/
theorem succeeds_iff {request : StageRequest} {allowBreaking : Bool} {files : Files}
    (opens : Manifest.opened? files request.file ≠ none) (notEmptied : ¬request.Empties allowBreaking files) :
    ((request.writeManifest allowBreaking).action files).1 = .ok () ↔
      ∃ goal, request.plan allowBreaking files = .ok goal := by
  rw [action_writeManifest]
  cases planned : request.plan allowBreaking files with
  | error error => simp [Job.carryOut]
  | ok goal =>
      refine iff_of_true ?_ ⟨goal, rfl⟩
      have stored := Manifest.stored_action request.file (Manifest.compose request.member goal.1 goal.2) files
      change ((Manifest.store request.file _).action files).1 = _
      generalize (Manifest.store request.file _).action files = result at stored ⊢
      rcases result with ⟨outcome, later⟩
      cases stored with
      | closed isClosed => exact (opens isClosed).elim
      | emptied isOpened noText => exact (notEmptied ⟨_, _, _, _, planned, isOpened, noText⟩).elim
      | written => rfl

section Numbered

variable {α σ Form : Type} {kind : Manifest.Numbered α} {request : StageRequest} {reading : kind.Reading σ Form}
  {schemaPath : Path} {sources : List σ}

/-- Whether a stage has a plan for declarations with ids is told by the schemas of the written manifest and by the
comparison with the manifest that is found. -/
theorem AsksFor.exists_plan_iff (asks : request.AsksFor reading schemaPath sources) (isIndexed : reading.IsIndexed)
    {found : Option String} {olds : List (Form × Int)}
    (isSaid : Says (NumberedRecord reading.of?) kind.section_ found olds) :
    ∃ previous changes, (∀ {files}, Reaches files request.file found → loaded files request.file = .ok previous) ∧
      kind.diff (orEmpty previous) (.object [(kind.section_,
        .list ((sources.map reading.entry).map fun entry => .object (kind.members entry)))]) = .ok changes ∧
      ∀ {files text schemas}, Reaches files request.file found → Reaches files schemaPath (some text) →
        Says SchemaRecord "schema" (some text) schemas → (schemas.map SchemaForm.address).Nodup →
        ((∃ goal, request.plan false files = .ok goal) ↔
          (∀ source ∈ sources, reading.ResolvedIn schemas (reading.form source)) ∧ breaking changes = []) := by
  rcases Manifest.exists_manifest isSaid with ⟨previous, earlier, isLoaded⟩
  have plans (entries : List (Data × SchemaForm)) (shows : ∀ entry ∈ entries, SchemaForm.of? entry.1 = some entry.2)
      (distinct : (entries.map fun entry => entry.2.address).Nodup) :=
    Manifest.Numbered.Reading.exists_plan_iff isIndexed shows distinct earlier asks.distinct
  rcases plans [] (by simp) List.nodup_nil with ⟨changes, compared, _⟩
  refine ⟨previous, changes, isLoaded, compared, ?_⟩
  rintro files text schemas reaches schemasReached ⟨manifest, unbroken, isRead, recorded⟩ distinct
  rcases Manifest.schemasIn_of_recorded recorded distinct with ⟨entries, rfl, shows, isTable⟩
  rcases recorded.records with ⟨_, there, _⟩
  have schemasLoaded := Manifest.loaded_of_found schemasReached.finds schemasReached.short unbroken isRead there
  rcases plans entries shows (by rwa [List.map_map] at distinct) with ⟨same, comparedSame, planned⟩
  cases compared.symm.trans comparedSame
  rw [asks.plan, schemasLoaded, isLoaded reaches, Manifest.ok_bind, isTable]
  exact planned

end Numbered

end StageRequest

namespace Builder

/-- A build succeeds exactly if every stage does on the file tree that the earlier ones left. -/
theorem runAll_calls_eq_ok_iff (builder : Builder) (number : Nat) (files : Files) :
    (StageCall.runAll (builder.calls number) files).1 = .ok () ↔
      ∀ stage, builder.Succeeds number files stage := by
  unfold calls
  rw [StageCall.runAll_cons_eq_ok_iff, StageCall.runAll_cons_eq_ok_iff, StageCall.runAll_cons_eq_ok_iff]
  constructor
  · rintro ⟨first, second, third, _⟩ stage
    cases stage with
    | schema => exact first
    | storage => exact second
    | dispatch => exact third
  · exact fun each => ⟨each .schema, each .storage, each .dispatch, rfl⟩

section Manifests

variable {builder : Builder} (manifests : builder.pipelines = Pipelines.manifests false) {number : Nat} {files : Files}
include manifests

theorem grows_filesBefore (stage : Stage) : files.Grows (builder.filesBefore number files stage) :=
  grows_replay manifests number files stage.earlier

/-- A stage finds what was there before the build, since the earlier stages write other manifests. -/
theorem finds_filesBefore {stage other : Stage} (notEarlier : stage ∉ other.earlier) {found : Option String}
    (finds : Manifest.Finds files (builder.request stage).file found) :
    Manifest.Finds (builder.filesBefore number files other) (builder.request stage).file found :=
  finds.grows (grows_filesBefore manifests other) (manifestText?_replay manifests number files notEarlier)

variable (plain : builder.graph.IsPlain)
include plain

/-- After the schema stage the later stages find the schemas of the graph with their texts joined. -/
theorem exists_schemas_written {found : Option String} {olds : List VersionedSchema}
    (isSaid : Says VersionedRecord "schema" found olds)
    (finds : Manifest.Finds files (builder.request .schema).file found)
    (succeeds : builder.Succeeds number files .schema) {stage : Stage}
    (isLater : Stage.schema ∈ stage.earlier) :
    ∃ text, Reaches (builder.filesBefore number files stage) (builder.request .schema).file (some text) ∧
      Says SchemaRecord "schema" (some text)
        ((builder.graph.schemaSources.map SchemaSource.form).map SchemaForm.joined) := by
  change ((builder.call number .schema).action files).1 = .ok () at succeeds
  rw [action_call manifests] at succeeds
  rcases acted : ((builder.request .schema).writeManifest false).action files with ⟨outcome, later⟩
  rw [acted] at succeeds
  obtain rfl : outcome = .ok () := succeeds
  rcases StageRequest.exists_said_schemas plain.entries_schemaSpecs finds isSaid acted with
    ⟨text, news, there, short, said, forms⟩
  have written : Reaches later (builder.request .schema).file (some text) := by
    refine ⟨there, short, fun isFolder => ?_⟩
    cases isFolder.symm.trans there
  refine ⟨text, ?_, ?_⟩
  · cases stage with
    | schema => cases isLater
    | storage =>
        change Reaches ((builder.call number .schema).action files).2 _ _
        rw [action_call manifests, acted]
        exact written
    | dispatch =>
        change Reaches ((builder.call number .storage).action ((builder.call number .schema).action files).2).2 _ _
        rw [action_call manifests number .schema, acted]
        have grows := StageRequest.grows_action false (builder.request .storage) later
        rw [← action_call manifests number] at grows
        exact written.grows grows (manifestText?_action manifests number (by decide) later)
  · have isWritten := said.map VersionedRecord.schemaRecord
    rw [← forms, List.map_map]
    rw [List.map_map] at isWritten
    have same : VersionedSchema.form ∘ VersionedSchema.joined = SchemaForm.joined ∘ VersionedSchema.form :=
      funext VersionedSchema.form_joined
    rwa [same] at isWritten

omit plain in
/-- A stage that can write its manifest succeeds exactly if it has a plan when it is its turn. -/
theorem succeeds_iff {stage : Stage} (canWrite : builder.CanWriteAt number files stage) :
    builder.Succeeds number files stage ↔
      ∃ goal, (builder.request stage).plan false (builder.filesBefore number files stage) = .ok goal := by
  rw [Succeeds, action_call manifests]
  exact StageRequest.succeeds_iff canWrite.opens canWrite.hasText

omit plain in
/-- What a stage will find can be read before the build and when it is its turn. -/
theorem reaches_filesBefore {stage : Stage} (canWrite : builder.CanWriteAt number files stage) {found : Option String}
    (finds : Manifest.Finds files (builder.request stage).file found) :
    Reaches files (builder.request stage).file found ∧
      Reaches (builder.filesBefore number files stage) (builder.request stage).file found := by
  have notEarlier : stage ∉ stage.earlier := by cases stage <;> decide
  exact ⟨finds.reaches (grows_filesBefore manifests stage) canWrite.opens,
    (finds_filesBefore manifests notEarlier finds).reaches (Files.Grows.refl _) canWrite.opens⟩

/-- The schema stage succeeds exactly if the types of all fields are resolved and its manifest is kept. -/
theorem succeeds_schema_iff (canWrite : builder.CanWriteAt number files .schema) {found : Option String}
    {olds : List VersionedSchema} (isSaid : Says VersionedRecord "schema" found olds)
    (finds : Manifest.Finds files (builder.request .schema).file found) :
    builder.Succeeds number files .schema ↔
      AreResolved (builder.graph.schemaSources.map SchemaSource.form) ∧
      IsKept Manifest.diffSchemas builder.newSchemas files (builder.request .schema).file := by
  rcases Manifest.exists_manifest (isSaid.map VersionedRecord.schemaRecord) with ⟨previous, earlier, reads⟩
  have distinct := plain.schemaAddresses_nodup
  rcases Manifest.exists_plan_schemas_iff earlier (by rwa [List.map_map]) plain.fieldsDistinct with
    ⟨changes, compared, planned⟩
  have isLoaded := reads (reaches_filesBefore manifests canWrite finds).1
  rw [← plain.entries_schemaSpecs] at compared planned
  have kept : IsKept Manifest.diffSchemas builder.newSchemas files (builder.request .schema).file ↔
      breaking changes = [] := Manifest.isKept_iff isLoaded compared
  rw [kept, ← planned]
  refine (succeeds_iff manifests canWrite).trans ?_
  change (∃ goal, (loaded files (builder.request .schema).file >>= _) = _) ↔ _
  rw [isLoaded]
  rfl

/-- After the schema stage, a stage for declarations with ids succeeds exactly if these are resolved among the schemas
of the graph and its manifest is kept. -/
theorem succeeds_numbered_iff {α σ Form : Type} {kind : Manifest.Numbered α} {reading : kind.Reading σ Form}
    {stage : Stage} {sources : List σ}
    (asks : (builder.request stage).AsksFor reading (builder.request .schema).file sources)
    (isIndexed : reading.IsIndexed) (isLater : Stage.schema ∈ stage.earlier) (settled : builder.graph.IsSettled)
    (sameResolved : ∀ {schemas}, (∀ schema ∈ schemas, SchemaForm.IsSettled schema) → ∀ form,
      reading.ResolvedIn (schemas.map SchemaForm.joined) form ↔ reading.ResolvedIn schemas form)
    {schemasFound found : Option String} {schemas : List VersionedSchema} {olds : List (Form × Int)}
    (schemasSaid : Says VersionedRecord "schema" schemasFound schemas)
    (findsSchemas : Manifest.Finds files (builder.request .schema).file schemasFound)
    (isSaid : Says (NumberedRecord reading.of?) kind.section_ found olds)
    (finds : Manifest.Finds files (builder.request stage).file found)
    (canWrite : builder.CanWriteAt number files stage) (ofSchema : builder.Succeeds number files .schema) :
    builder.Succeeds number files stage ↔
      (∀ source ∈ sources,
        reading.ResolvedIn (builder.graph.schemaSources.map SchemaSource.form) (reading.form source)) ∧
      IsKept kind.diff (.object [(kind.section_,
        .list ((sources.map reading.entry).map fun entry => .object (kind.members entry)))]) files
        (builder.request stage).file := by
  rcases asks.exists_plan_iff isIndexed isSaid with ⟨previous, changes, reads, compared, planned⟩
  rcases reaches_filesBefore manifests canWrite finds with ⟨before, inTurn⟩
  rcases exists_schemas_written manifests plain schemasSaid findsSchemas ofSchema isLater with ⟨text, written, said⟩
  have distinct : (((builder.graph.schemaSources.map SchemaSource.form).map SchemaForm.joined).map
      SchemaForm.address).Nodup := by
    rw [addresses_joined settled, List.map_map]
    exact plain.schemaAddresses_nodup
  rw [succeeds_iff manifests canWrite, planned inTurn written said distinct,
    Manifest.isKept_iff (reads before) compared]
  simp only [sameResolved settled]

/-- A build succeeds exactly if the graph has no problems and no change from the manifests is breaking. -/
theorem runAll_calls_eq_ok_iff_reports (canWrite : builder.CanWrite number files) {such : Builder → Prop}
    (arePlain : ∀ other, such other → other.graph.IsPlain) (whole : builder.graph.IsWhole)
    (settled : builder.graph.IsSettled) (left : builder.FindsLeft such files) :
    (StageCall.runAll (builder.calls number) files).1 = .ok () ↔
      builder.graph.problems = .ok [] ∧ ∃ changes, builder.changesIn files = .ok changes ∧ breaking changes = [] := by
  rcases left .schema with ⟨_, schemasLeft, findsSchemas⟩
  rcases left .storage with ⟨_, collectionsLeft, findsCollections⟩
  rcases left .dispatch with ⟨_, dispatchesLeft, findsDispatches⟩
  rcases schemasLeft.exists_schemas arePlain with ⟨_, schemasSaid⟩
  rcases collectionsLeft.exists_numbered arePlain asksFor_collections
    Manifest.Numbered.Reading.isIndexed_collection with ⟨_, collectionsSaid⟩
  rcases dispatchesLeft.exists_numbered arePlain asksFor_dispatches
    Manifest.Numbered.Reading.isIndexed_dispatch with ⟨_, dispatchesSaid⟩
  have ofSchema (canWrite : builder.CanWriteAt number files .schema) :=
    succeeds_schema_iff manifests plain canWrite schemasSaid findsSchemas
  have ofStorage (canWrite : builder.CanWriteAt number files .storage) :=
    succeeds_numbered_iff manifests plain (asksFor_collections builder plain)
      Manifest.Numbered.Reading.isIndexed_collection (by decide) settled
      CollectionForm.resolvedIn_joined_iff schemasSaid findsSchemas collectionsSaid findsCollections canWrite
  have ofDispatch (canWrite : builder.CanWriteAt number files .dispatch) :=
    succeeds_numbered_iff manifests plain (asksFor_dispatches builder plain)
      Manifest.Numbered.Reading.isIndexed_dispatch (by decide) settled
      DispatchForm.resolvedIn_joined_iff schemasSaid findsSchemas dispatchesSaid findsDispatches canWrite
  have sameCollections : builder.graph.collectionSources.map collectionReading.entry =
      builder.graph.collectionSpecs.entries := plain.entries_collectionSpecs.symm
  have sameDispatches : builder.graph.dispatchSources.map dispatchReading.entry =
      builder.graph.dispatchSpecs.entries := Graph.entries_dispatchSpecs.symm
  rw [sameCollections] at ofStorage
  rw [sameDispatches] at ofDispatch
  rw [runAll_calls_eq_ok_iff, plain.problems_eq_nil_iff whole, exists_changesIn_iff]
  constructor
  · intro each
    have canWriteAt (stage : Stage) := canWrite stage fun earlier _ => each earlier
    rcases (ofSchema (canWriteAt _)).mp (each .schema) with ⟨schemasResolved, schemasKept⟩
    rcases (ofStorage (canWriteAt _) (each .schema)).mp (each .storage) with ⟨collectionsResolved, collectionsKept⟩
    rcases (ofDispatch (canWriteAt _) (each .schema)).mp (each .dispatch) with ⟨dispatchesResolved, dispatchesKept⟩
    exact ⟨⟨schemasResolved, collectionsResolved, dispatchesResolved⟩, schemasKept, collectionsKept, dispatchesKept⟩
  · rintro ⟨⟨schemasResolved, collectionsResolved, dispatchesResolved⟩, schemasKept, collectionsKept, dispatchesKept⟩
    have first := (ofSchema (canWrite .schema (List.forall_mem_nil _))).mpr ⟨schemasResolved, schemasKept⟩
    have second := (ofStorage (canWrite .storage (List.forall_mem_singleton.mpr first)) first).mpr
      ⟨collectionsResolved, collectionsKept⟩
    have third := (ofDispatch (canWrite .dispatch (List.forall_mem_cons.mpr
      ⟨first, List.forall_mem_singleton.mpr second⟩)) first).mpr ⟨dispatchesResolved, dispatchesKept⟩
    intro stage
    cases stage with
    | schema => exact first
    | storage => exact second
    | dispatch => exact third

end Manifests

end Builder

end SpecGraph
