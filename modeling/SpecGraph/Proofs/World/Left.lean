import SpecGraph.Proofs.Manifest.Found
import SpecGraph.Proofs.World.Builds
import SpecGraph.Proofs.World.Failure

/-!
# Manifests that builders left

A stage that succeeds leaves a text that says what was declared, if what it found said anything at all. So a
manifest that was left by the stage of a builder says something, if that stage found nothing, or a manifest that
was left in the same way. Whether or not a build succeeds, the next one finds such manifests again.
-/

namespace SpecGraph

open Manifest (Finds Says loaded schemasIn IsTextOf addressIn? layout)
open Manifest.Numbered (collectionReading dispatchReading)

namespace StageRequest

variable {files later : Files} {found : Option String}

/-- A schema stage that succeeds leaves a text that says what was declared. -/
theorem exists_said_schemas {groups : Grouped SchemaSpec} {root : Path} {sources : List SchemaSource}
    (entries : groups.entries = sources.map SchemaSource.entry) {olds : List VersionedSchema}
    (finds : Finds files (root.child Manifest.schemaFile) found) (isSaid : Says VersionedRecord "schema" found olds)
    (succeeds : ((schema groups root).writeManifest false).action files = (.ok (), later)) :
    ∃ text, ∃ news : List VersionedSchema, later.find? (root.child Manifest.schemaFile) = some (.file text) ∧
      later.isTooLong (root.child Manifest.schemaFile) = false ∧
      Says VersionedRecord "schema" (some text) (news.map VersionedSchema.joined) ∧
      news.map VersionedSchema.form = sources.map SchemaSource.form := by
  rcases exists_written succeeds with ⟨version, items, text, opened, planned, isText, isWritten⟩
  rcases bind_eq_ok.mp planned with ⟨previous, isLoaded, planned⟩
  rw [entries] at planned
  rcases Manifest.exists_compiledSchemas (finds.earlier isSaid isLoaded) planned isText with
    ⟨manifest, changes, news, isTextOf, revised⟩
  exact ⟨_, news, Files.find?_of_write? isWritten, Files.isTooLong_of_write? isWritten, ⟨manifest, isTextOf⟩,
    revised.forms⟩

section Numbered

variable {α σ Form : Type} {kind : Manifest.Numbered α}

/-- A stage is asked to write some declarations with ids. -/
structure AsksFor (request : StageRequest) (reading : kind.Reading σ Form) (schemaPath : Path)
    (sources : List σ) : Prop where
  /-- The entries are in the section of the declarations. -/
  member : request.member = kind.section_
  /-- The stage makes a plan for the declarations. -/
  plan : ∀ allowBreaking files, request.plan allowBreaking files = do
    let schemas ← loaded files schemaPath >>= schemasIn schemaPath
    let previous ← loaded files request.file
    kind.plan allowBreaking schemas (sources.map reading.entry) previous
  /-- The full names of the declarations are told apart. -/
  distinct : (sources.map fun source => reading.address (reading.form source)).Nodup

variable {request : StageRequest} {reading : kind.Reading σ Form} {schemaPath : Path} {sources : List σ}

/-- A stage for declarations with ids that succeeds leaves a text that says what was declared. -/
theorem AsksFor.exists_said (asks : request.AsksFor reading schemaPath sources) (isIndexed : reading.IsIndexed)
    {olds : List (Form × Int)} (finds : Finds files request.file found)
    (isSaid : Says (NumberedRecord reading.of?) kind.section_ found olds)
    (succeeds : (request.writeManifest false).action files = (.ok (), later)) :
    ∃ text news, later.find? request.file = some (.file text) ∧
      Says (NumberedRecord reading.of?) kind.section_ (some text) news := by
  rcases exists_written succeeds with ⟨version, items, text, opened, planned, isText, isWritten⟩
  rw [asks.plan] at planned
  rcases bind_eq_ok.mp planned with ⟨schemas, _, planned⟩
  rcases bind_eq_ok.mp planned with ⟨previous, isLoaded, planned⟩
  rcases Manifest.Numbered.Reading.exists_plan_eq isIndexed (finds.earlier isSaid isLoaded) with
    ⟨other, others, _, counts, countsOnce, samePlan⟩
  rw [samePlan] at planned
  rw [asks.member] at isText
  have addresses : Manifest.Earlier (NumberedRecord addressIn?) kind.section_ Text.mostShown other
      (others.map fun old => (reading.address old.1, old.2)) := counts.map reading.addressRecord
  rcases reading.exists_compiled addresses (by rwa [List.map_map]) asks.distinct planned isText with
    ⟨manifest, _, _, _, _, _, isTextOf, _⟩
  exact ⟨_, _, Files.find?_of_write? isWritten, manifest, isTextOf⟩

end Numbered

end StageRequest

namespace Builder

variable (builder : Builder) (plain : builder.graph.IsPlain)
include plain

/-- The storage stage of a builder is asked to write its collections. -/
theorem asksFor_collections : (builder.request .storage).AsksFor collectionReading (builder.roots.file .schema)
    builder.graph.collectionSources where
  member := rfl
  plan allowBreaking files := by
    have entries : builder.graph.collectionSources.map collectionReading.entry =
        builder.graph.collectionSpecs.entries := plain.entries_collectionSpecs.symm
    rw [entries]
    rfl
  distinct := plain.collectionAddresses_nodup

/-- The dispatch stage of a builder is asked to write its dispatches. -/
theorem asksFor_dispatches : (builder.request .dispatch).AsksFor dispatchReading (builder.roots.file .schema)
    builder.graph.dispatchSources where
  member := rfl
  plan allowBreaking files := by
    have entries : builder.graph.dispatchSources.map dispatchReading.entry =
        builder.graph.dispatchSpecs.entries := Graph.entries_dispatchSpecs.symm
    rw [entries]
    rfl
  distinct := plain.dispatchAddresses_nodup

end Builder

namespace Manifest

/-- A manifest is absent, or it was left by the stage of a builder of some kind that found it absent or left in
this way. -/
inductive LeftBy (such : Builder → Prop) (stage : Stage) : Option String → Prop
  /-- The manifest is absent. -/
  | absent : LeftBy such stage none
  /-- The stage of a builder left a text. -/
  | written {builder : Builder} {files later : Files} {found : Option String} {text : String}
      (isSuch : such builder) (earlier : LeftBy such stage found)
      (finds : Finds files (builder.request stage).file found)
      (succeeds : ((builder.request stage).writeManifest false).action files = (.ok (), later))
      (leaves : later.find? (builder.request stage).file = some (.file text)) : LeftBy such stage (some text)

variable {such : Builder → Prop} (plain : ∀ builder, such builder → builder.graph.IsPlain) {found : Option String}
include plain

/-- A manifest of schemas that was left by builders says some schemas. -/
theorem LeftBy.exists_schemas (left : LeftBy such .schema found) :
    ∃ schemas, Says VersionedRecord "schema" found schemas := by
  induction left with
  | absent => exact ⟨[], rfl⟩
  | @written builder files later found text isSuch earlier finds succeeds leaves ih =>
      rcases ih with ⟨olds, isSaid⟩
      rcases StageRequest.exists_said_schemas (plain builder isSuch).entries_schemaSpecs finds isSaid succeeds with
        ⟨other, news, isOther, _, saidOther, _⟩
      have same := leaves.symm.trans isOther
      cases same
      exact ⟨_, saidOther⟩

/-- A manifest of declarations with ids that was left by builders says some of these. -/
theorem LeftBy.exists_numbered {α σ Form : Type} {kind : Numbered α} {reading : kind.Reading σ Form} {stage : Stage}
    {sourcesOf : Graph → List σ} (asks : ∀ builder : Builder, builder.graph.IsPlain →
      (builder.request stage).AsksFor reading (builder.roots.file .schema) (sourcesOf builder.graph))
    (isIndexed : reading.IsIndexed) (left : LeftBy such stage found) :
    ∃ forms, Says (NumberedRecord reading.of?) kind.section_ found forms := by
  induction left with
  | absent => exact ⟨[], rfl⟩
  | @written builder files later found text isSuch earlier finds succeeds leaves ih =>
      rcases ih with ⟨olds, isSaid⟩
      rcases (asks builder (plain builder isSuch)).exists_said isIndexed finds isSaid succeeds with
        ⟨other, news, isOther, saidOther⟩
      have same := leaves.symm.trans isOther
      cases same
      exact ⟨_, saidOther⟩

end Manifest

namespace Builder

/-- A stage can open its file when it is its turn, and the manifest of its plan has a text. -/
structure CanWriteAt (builder : Builder) (number : Nat) (files : Files) (stage : Stage) : Prop where
  /-- The file can be opened. -/
  opens : Manifest.opened? (builder.filesBefore number files stage) (builder.request stage).file ≠ none
  /-- The manifest has a text. -/
  hasText : ¬(builder.request stage).Empties false (builder.filesBefore number files stage)

/-- A stage of a builder succeeds when it is its turn. -/
def Succeeds (builder : Builder) (number : Nat) (files : Files) (stage : Stage) : Prop :=
  ((builder.call number stage).action (builder.filesBefore number files stage)).1 = .ok ()

/-- Every stage that follows on stages that succeed can write its manifest. -/
def CanWrite (builder : Builder) (number : Nat) (files : Files) : Prop :=
  ∀ stage, (∀ earlier ∈ stage.earlier, builder.Succeeds number files earlier) → builder.CanWriteAt number files stage

/-- All manifests that a builder finds are absent, or were left by builders of some kind. -/
def FindsLeft (such : Builder → Prop) (builder : Builder) (files : Files) : Prop :=
  ∀ stage, ∃ found, Manifest.LeftBy such stage found ∧ Finds files (builder.request stage).file found

section FindsLeft

variable {such : Builder → Prop} {builder : Builder} (isSuch : such builder)
  (manifests : builder.pipelines = Pipelines.manifests false) {number : Nat} {files : Files}
include isSuch manifests

/-- A stage that does not open its file for a manifest without a text leaves manifests that were left by builders. -/
theorem FindsLeft.action (left : builder.FindsLeft such files) {stage : Stage}
    (hasText : ¬(builder.request stage).Empties false files) :
    builder.FindsLeft such ((builder.call number stage).action files).2 := by
  intro other
  rcases left other with ⟨found, leftBy, finds⟩
  rw [action_call manifests]
  have grows := StageRequest.grows_action false (builder.request stage) files
  by_cases same : other = stage
  · subst same
    rcases acted : ((builder.request other).writeManifest false).action files with ⟨outcome, later⟩
    rw [acted] at grows
    cases outcome with
    | ok =>
        rcases StageRequest.exists_written acted with ⟨_, _, text, _, _, _, isWritten⟩
        have there := Files.find?_of_write? isWritten
        exact ⟨_, .written isSuch leftBy finds acted there, there⟩
    | error cause =>
        rcases StageRequest.textAt?_of_failed acted with ⟨_, sameText⟩ | ⟨emptied, _⟩
        · exact ⟨found, leftBy, finds.grows grows sameText⟩
        · exact (hasText emptied).elim
  · have sameText := manifestText?_action manifests number same files
    rw [action_call manifests] at sameText
    exact ⟨found, leftBy, finds.grows grows sameText⟩

/-- Whether or not a build succeeds, it leaves manifests that were left by builders. -/
theorem FindsLeft.runAll (left : builder.FindsLeft such files) (canWrite : builder.CanWrite number files) :
    builder.FindsLeft such (StageCall.runAll (builder.calls number) files).2.2 := by
  have first : builder.FindsLeft such (builder.filesBefore number files .storage) :=
    left.action isSuch manifests (canWrite .schema (List.forall_mem_nil _)).hasText
  unfold calls
  rcases StageCall.runAll_cons_files (builder.call number .schema) [builder.call number .storage,
    builder.call number .dispatch] files with ended | ⟨ofSchema, goesOn⟩
  · rw [ended]
    exact first
  have second : builder.FindsLeft such (builder.filesBefore number files .dispatch) :=
    first.action isSuch manifests (canWrite .storage (List.forall_mem_singleton.mpr ofSchema)).hasText
  rw [goesOn]
  rcases StageCall.runAll_cons_files (builder.call number .storage) [builder.call number .dispatch]
    (builder.filesBefore number files .storage) with ended | ⟨ofStorage, goesOn⟩
  · exact ended ▸ second
  have third : builder.FindsLeft such
      ((builder.call number .dispatch).action (builder.filesBefore number files .dispatch)).2 :=
    second.action isSuch manifests (canWrite .dispatch
      (List.forall_mem_cons.mpr ⟨ofSchema, List.forall_mem_singleton.mpr ofStorage⟩)).hasText
  have last : (StageCall.runAll [builder.call number .dispatch] (builder.filesBefore number files .dispatch)).2.2 =
      ((builder.call number .dispatch).action (builder.filesBefore number files .dispatch)).2 := by
    rcases StageCall.runAll_cons_files (builder.call number .dispatch) []
      (builder.filesBefore number files .dispatch) with ended | ⟨_, goesOn⟩
    · exact ended
    · exact goesOn
  exact goesOn.trans last ▸ third

end FindsLeft

end Builder

end SpecGraph
