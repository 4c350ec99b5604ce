import SpecGraph.Proofs.Graph.Told
import SpecGraph.Proofs.Manifest.Again
import SpecGraph.Proofs.World.Decoded

/-!
# Building the same again

A builder that declares the same as one that was just built asks the same of its stages. As long as the manifests of
the earlier build stand in their folders, each stage finds its own manifest and that of the schemas, plans what was
planned before, and stores the text that is there already. So the build succeeds and no manifest changes, and the
comparison with the manifests finds no change.
-/

namespace SpecGraph

open Manifest (Stands loaded schemasIn compose layout)
open Manifest.Numbered (collectionReading dispatchReading)
open Json (SameText)

namespace Manifest

/-- A manifest whose text stands in a folder is loaded. -/
theorem Stands.loaded {files : Files} {path : Path} {text : String} (stands : Stands files path text)
    (unbroken : '\r' ∉ text.toList) {section_ : String} (keys : Json.AreKeys ["version", section_]) {version : Int}
    {items : List Data} (isRead : Json.read text = .ok (Json.reread layout (compose section_ version items))) :
    loaded files path = .ok (some (Json.reread layout (compose section_ version items))) :=
  loaded_of_found stands.found stands.short unbroken isRead (get?_version_reread keys version items)

/-- Manifests whose entries have the same texts have the same text. -/
theorem write_compose_of_sameText {member : String} {version : Int} {items others : List Data}
    (same : List.Forall₂ (SameText layout) items others) :
    Json.write layout (compose member version items) = Json.write layout (compose member version others) := by
  apply SameText.write_eq
  refine Json.sameText_object [("version", .int version, .int version), (member, .list items, .list others)] ?_
  simp [SameText.refl, Json.sameText_list same]

end Manifest

namespace StageRequest

variable {α σ Form : Type} {kind : Manifest.Numbered α} {request : StageRequest} {reading : kind.Reading σ Form}
  {schemaPath : Path} {sources : List σ}

namespace AsksFor

theorem addresses_nodup (asks : request.AsksFor reading schemaPath sources) :
    ((sources.map reading.form).map reading.address).Nodup := by
  rw [List.map_map]
  exact asks.distinct

variable (asks : request.AsksFor reading schemaPath sources) (repeated : reading.IsRepeated)
  (settled : ∀ source ∈ sources, reading.joined (reading.form source) = reading.form source)
  {allowBefore : Bool} {files : Files} {version : Int} {items : List Data}
  (planned : request.plan allowBefore files = .ok (version, items))
include asks repeated settled planned

/-- No change is found between the manifest of a plan for declarations with ids and these. -/
theorem diff_again :
    kind.diff (Json.reread layout (compose kind.section_ version items)) (.object [(kind.section_,
      .list ((sources.map reading.entry).map fun entry => .object (kind.members entry)))]) = .ok [] := by
  rw [asks.plan] at planned
  rcases bind_eq_ok.mp planned with ⟨schemas, _, planned⟩
  rcases bind_eq_ok.mp planned with ⟨previous, _, planned⟩
  rcases Manifest.Numbered.exists_ids planned with ⟨_, ids, _, _, rfl⟩
  exact Manifest.Numbered.diff_again repeated settled asks.addresses_nodup version ids

/-- A stage for declarations with ids that finds the manifest of its plan has the same plan again. -/
theorem plan_again {allowBreaking : Bool} {now : Files}
    (plain : ∀ text, files.find? request.file = some (.file text) → Text.IsPlain text.toList)
    (sameSchemas : loaded now schemaPath = loaded files schemaPath)
    (isLoaded : loaded now request.file =
      .ok (some (Json.reread layout (compose kind.section_ version items)))) :
    request.plan allowBreaking now = .ok (version, items) := by
  rw [asks.plan] at planned ⊢
  rcases bind_eq_ok.mp planned with ⟨schemas, areSchemas, planned⟩
  rcases bind_eq_ok.mp planned with ⟨previous, wasLoaded, planned⟩
  have wasRead : ∀ manifest ∈ previous, Json.IsValue (Json.mostLevels - 3 + 3) manifest := by
    rintro manifest rfl
    exact Manifest.isValue_loaded plain wasLoaded
  rw [sameSchemas, areSchemas, isLoaded]
  exact Manifest.Numbered.plan_again repeated settled asks.addresses_nodup wasRead planned

end AsksFor

end StageRequest

namespace Graph

/-- The schemas of a graph stand beside the entries of their manifest. -/
structure PairsWith (graph : Graph) (items : List Data) (pairs : List (Data × SchemaSource)) : Prop where
  /-- The entries are those of the manifest. -/
  areItems : pairs.map Prod.fst = items
  /-- The schemas are those of the graph. -/
  areSources : pairs.map Prod.snd = graph.schemaSources
  /-- The schemas have settled texts. -/
  joined : ∀ pair ∈ pairs, pair.2.form.joined = pair.2.form
  /-- No two schemas have one full name. -/
  distinct : (pairs.map fun pair => pair.2.form.address).Nodup
  /-- No two fields of a schema have one name. -/
  fieldsDistinct : ∀ pair ∈ pairs, (pair.2.fields.map FieldForm.name).Nodup
  /-- An entry has what was declared and the versions. -/
  versioned : ∀ pair ∈ pairs, Manifest.IsVersionedSchema 985 pair.1 pair.2.entry

theorem IsPlain.exists_paired {graph : Graph} {items : List Data} (plain : graph.IsPlain)
    (settled : graph.toData.allTexts Text.isSettled = true)
    (planned : List.Forall₂ (Manifest.IsVersionedSchema 985) items graph.schemaSpecs.entries) :
    ∃ pairs, graph.PairsWith items pairs := by
  rw [plain.entries_schemaSpecs, List.forall₂_map_right_iff] at planned
  rcases exists_pairs planned with ⟨pairs, areItems, areSources, versioned⟩
  have inSources : ∀ pair ∈ pairs, pair.2 ∈ graph.schemaSources := fun pair pairMem =>
    areSources ▸ List.mem_map_of_mem pairMem
  have distinct := plain.schemaAddresses_nodup
  rw [← areSources, List.map_map] at distinct
  exact ⟨pairs, areItems, areSources, fun pair pairMem => joined_schemaSources settled plain pair.2 (inSources pair pairMem),
    distinct, fun pair pairMem => plain.fieldsDistinct pair.2 (inSources pair pairMem), versioned⟩

end Graph

namespace Builder

/-- Builders with the same roots and the same data ask the same of their stages. -/
theorem request_of_toData {first second : Builder} (roots : second.roots = first.roots)
    (same : second.graph.toData = first.graph.toData) (stage : Stage) :
    second.request stage = first.request stage := by
  have schemaRoot : second.schemaRoot = first.schemaRoot := congrArg Roots.schema roots
  cases stage with
  | schema => rw [request, request, Graph.schemaSpecs_of_toData same, schemaRoot]
  | storage =>
      have storageRoot : second.storageRoot = first.storageRoot := congrArg Roots.storage roots
      rw [request, request, Graph.collectionSpecs_of_toData same, schemaRoot, storageRoot]
  | dispatch =>
      have dispatchRoot : second.dispatchRoot = first.dispatchRoot := congrArg Roots.dispatch roots
      rw [request, request, Graph.dispatchSpecs_of_toData same, schemaRoot, dispatchRoot]

/-- Builders with the same roots and the same data find the same changes. -/
theorem changesIn_of_toData {first second : Builder} (roots : second.roots = first.roots)
    (same : second.graph.toData = first.graph.toData) (files : Files) :
    second.changesIn files = first.changesIn files := by
  have schemaRoot : second.schemaRoot = first.schemaRoot := congrArg Roots.schema roots
  have storageRoot : second.storageRoot = first.storageRoot := congrArg Roots.storage roots
  have dispatchRoot : second.dispatchRoot = first.dispatchRoot := congrArg Roots.dispatch roots
  rw [changesIn, changesIn, schemaRoot, storageRoot, dispatchRoot, Graph.schemaSpecs_of_toData same,
    Graph.collectionSpecs_of_toData same, Graph.dispatchSpecs_of_toData same]

/-- The plans of a build that succeeded, with the texts that it wrote for them. -/
structure Built (builder : Builder) (allowBreaking : Bool) (number : Nat) (files : Files) where
  /-- The version of each manifest. -/
  version : Stage → Int
  /-- The entries of each manifest. -/
  items : Stage → List Data
  /-- The text of each manifest without its last line feed. -/
  text : Stage → String
  /-- Each stage wrote its text for its plan. -/
  wrote : ∀ stage, builder.Wrote allowBreaking number files stage (version stage) (items stage) (text stage)

variable {builder : Builder} {allowBefore : Bool} {number : Nat} {files : Files}

/-- A build that succeeds has plans and texts, and its manifests stand afterwards. -/
theorem exists_built (manifests : builder.pipelines = Pipelines.manifests allowBefore)
    (succeeds : (StageCall.runAll (builder.calls number) files).1 = .ok ()) :
    Nonempty (builder.Built allowBefore number files) := by
  choose version items text wrote using builder.exists_wrote manifests succeeds
  exact ⟨⟨version, items, text, wrote⟩⟩

namespace Built

variable (built : builder.Built allowBefore number files)

/-- The manifests of a build stand in their folders. -/
def Stand (now : Files) : Prop := ∀ stage, Stands now (builder.request stage).file (built.text stage ++ "\n")

variable (manifests : builder.pipelines = Pipelines.manifests allowBefore) (plain : builder.graph.IsPlain)
  (texts : builder.FindsTexts files)
include manifests plain texts

/-- The manifest that a stage wrote is loaded wherever it stands. -/
theorem loaded_eq (stage : Stage) {now : Files}
    (stands : Stands now (builder.request stage).file (built.text stage ++ "\n")) :
    loaded now (builder.request stage).file =
      .ok (some (Json.reread layout (compose stage.section_ (built.version stage) (built.items stage)))) := by
  rcases Manifest.read_written ((built.wrote stage).carries manifests plain texts) (built.wrote stage).isText with
    ⟨unbroken, isRead⟩
  rw [member_request] at isRead
  exact stands.loaded unbroken stage.areKeys isRead

variable {now : Files} (stand : built.Stand now)

include stand in
/-- The schemas are loaded as they were when it was the turn of a later stage. -/
theorem loaded_schemas_eq {stage : Stage} (isLater : Stage.schema ∈ stage.earlier) :
    loaded now (builder.roots.file .schema) =
      loaded (builder.filesBefore number files stage) (builder.roots.file .schema) :=
  (built.loaded_eq manifests plain texts .schema (stand .schema)).trans
    (built.loaded_eq manifests plain texts .schema ((built.wrote .schema).before stage isLater)).symm

variable (settled : builder.graph.toData.allTexts Text.isSettled = true)
include settled

omit manifests in
/-- The schemas of a build with the entries that were planned for them. -/
theorem exists_paired : ∃ pairs, builder.graph.PairsWith (built.items .schema) pairs :=
  plain.exists_paired settled (StageRequest.isPlanned (built.wrote .schema).planned fun text found =>
    texts .schema text (Files.textAt?_of_find? found))

include stand

/-- Where the manifests stand, no change is found. -/
theorem changesIn_eq_nil : builder.changesIn now = .ok [] := by
  have ofSchemas : Manifest.diffSchemas (Json.reread layout (compose "schema" (built.version .schema)
      (built.items .schema))) (.object [("schema", .list (builder.graph.schemaSpecs.entries.map Entry.schemaData))]) =
      .ok [] := by
    rcases built.exists_paired plain texts settled with ⟨pairs, paired⟩
    have unchanged := Manifest.diffSchemas_again paired.joined paired.distinct paired.fieldsDistinct paired.versioned
      (built.version .schema)
    rw [paired.areItems] at unchanged
    rw [plain.entries_schemaSpecs, ← paired.areSources, List.map_map, List.map_map]
    exact unchanged
  have ofCollections := (builder.asksFor_collections plain).diff_again Manifest.Numbered.Reading.isRepeated_collection
    (Graph.joined_collectionSources settled plain) (built.wrote .storage).planned
  have ofDispatches := (builder.asksFor_dispatches plain).diff_again Manifest.Numbered.Reading.isRepeated_dispatch
    (Graph.joined_dispatchSources settled) (built.wrote .dispatch).planned
  have collectionEntries : builder.graph.collectionSources.map collectionReading.entry =
      builder.graph.collectionSpecs.entries := plain.entries_collectionSpecs.symm
  have dispatchEntries : builder.graph.dispatchSources.map dispatchReading.entry =
      builder.graph.dispatchSpecs.entries := Graph.entries_dispatchSpecs.symm
  rw [collectionEntries] at ofCollections
  rw [dispatchEntries] at ofDispatches
  have loadedAt (stage : Stage) := built.loaded_eq manifests plain texts stage (stand stage)
  have loadedSchemas : loaded now (builder.schemaRoot.child Manifest.schemaFile) = _ := loadedAt .schema
  have loadedCollections : loaded now (builder.storageRoot.child Manifest.storageFile) = _ := loadedAt .storage
  have loadedDispatches : loaded now (builder.dispatchRoot.child Manifest.dispatchFile) = _ := loadedAt .dispatch
  have whole (stage : Stage) : Manifest.orEmpty (some (Json.reread layout (compose stage.section_
      (built.version stage) (built.items stage)))) = Json.reread layout (compose stage.section_ (built.version stage)
      (built.items stage)) := by
    apply Manifest.orEmpty_reread
    cases stage <;> exact Json.areKeys_of_subset (by decide) (by decide)
  unfold changesIn
  rw [loadedSchemas, loadedCollections, loadedDispatches]
  simp only [Manifest.ok_bind, whole]
  refine bind_eq_ok.mpr ⟨[], Manifest.faulty_eq_ok.mpr ofSchemas, ?_⟩
  refine bind_eq_ok.mpr ⟨[], Manifest.faulty_eq_ok.mpr ofCollections, ?_⟩
  exact bind_eq_ok.mpr ⟨[], Manifest.faulty_eq_ok.mpr ofDispatches, rfl⟩

/-- Where the manifests stand, each stage has a plan whose manifest has the text that is there. -/
theorem exists_plan (allowBreaking : Bool) (stage : Stage) :
    ∃ again, (builder.request stage).plan allowBreaking now = .ok (built.version stage, again) ∧
      List.Forall₂ (SameText layout) again (built.items stage) := by
  have isLoaded := built.loaded_eq manifests plain texts stage (stand stage)
  have found := @FindsTexts.filesBefore _ _ manifests number _ texts stage
  have itself : List.Forall₂ (SameText layout) (built.items stage) (built.items stage) :=
    List.forall₂_same.mpr fun item _ => .refl item
  cases stage with
  | schema =>
      rcases built.exists_paired plain texts settled with ⟨pairs, paired⟩
      have areEntries : pairs.map (fun pair => pair.2.entry) = builder.graph.schemaSpecs.entries := by
        rw [plain.entries_schemaSpecs, ← paired.areSources, List.map_map]
        rfl
      rcases bind_eq_ok.mp (built.wrote .schema).planned with ⟨previous, _, planned⟩
      rw [← areEntries, ← paired.areItems] at planned
      rcases Manifest.planSchemas_again paired.joined paired.distinct paired.fieldsDistinct paired.versioned planned with
        ⟨again, plannedAgain, same⟩
      rw [paired.areItems, areEntries] at plannedAgain
      exact ⟨again, bind_eq_ok.mpr ⟨_, isLoaded, plannedAgain⟩, paired.areItems ▸ same⟩
  | storage =>
      exact ⟨_, (builder.asksFor_collections plain).plan_again Manifest.Numbered.Reading.isRepeated_collection
        (Graph.joined_collectionSources settled plain) (built.wrote .storage).planned found
        (built.loaded_schemas_eq manifests plain texts stand (by decide)) isLoaded, itself⟩
  | dispatch =>
      exact ⟨_, (builder.asksFor_dispatches plain).plan_again Manifest.Numbered.Reading.isRepeated_dispatch
        (Graph.joined_dispatchSources settled) (built.wrote .dispatch).planned found
        (built.loaded_schemas_eq manifests plain texts stand (by decide)) isLoaded, itself⟩

/-- Where the manifests stand, each stage succeeds and they stand as before. -/
theorem exists_action (allowBreaking : Bool) (stage : Stage) :
    ∃ later, ((builder.request stage).writeManifest allowBreaking).action now = (.ok (), later) ∧
      built.Stand later := by
  rcases built.exists_plan manifests plain texts stand settled allowBreaking stage with ⟨again, planned, same⟩
  have isText : Json.write layout (compose (builder.request stage).member (built.version stage) again) =
      .ok (built.text stage) := (Manifest.write_compose_of_sameText same).trans (built.wrote stage).isText
  rcases (builder.request stage).exists_child with ⟨folder, name, named, isFile⟩
  have there := stand stage
  rw [isFile] at there
  rcases there.exists_stored named isText with ⟨later, isStored, standsLater⟩
  rw [← isFile] at isStored standsLater
  have acted : ((builder.request stage).writeManifest allowBreaking).action now = (.ok (), later) := by
    rw [StageRequest.action_writeManifest, planned]
    exact isStored
  refine ⟨later, acted, fun other => ?_⟩
  by_cases isOther : other = stage
  · rwa [isOther]
  · have grows := StageRequest.grows_action allowBreaking (builder.request stage) now
    have apart := StageRequest.place_file_ne (builder.request other) (builder.request stage)
      (by cases other <;> cases stage <;> exact isOther)
    have sameText := (builder.request stage).textAt?_action_of_ne allowBreaking now apart
    rw [acted] at grows sameText
    exact (stand other).grows grows sameText

end Built

/-- Where the manifests of a build stand, a builder that declares the same under the same roots is built with success,
and they stand as before. -/
theorem Built.runAll_again (built : builder.Built allowBefore number files)
    (manifests : builder.pipelines = Pipelines.manifests allowBefore) (plain : builder.graph.IsPlain)
    (texts : builder.FindsTexts files) (settled : builder.graph.toData.allTexts Text.isSettled = true)
    {second : Builder} {allowBreaking : Bool} (secondManifests : second.pipelines = Pipelines.manifests allowBreaking)
    (requests : ∀ stage, second.request stage = builder.request stage) (again : Nat) {now : Files}
    (stand : built.Stand now) (stages : List Stage) :
    (StageCall.runAll (stages.map (second.call again)) now).1 = .ok () ∧
      built.Stand (StageCall.runAll (stages.map (second.call again)) now).2.2 := by
  induction stages generalizing now with
  | nil => exact ⟨rfl, stand⟩
  | cons stage rest ih =>
      rcases built.exists_action manifests plain texts stand settled allowBreaking stage with ⟨later, acted, standLater⟩
      rw [← requests stage, ← action_call secondManifests again] at acted
      rw [List.map_cons, StageCall.runAll, acted]
      exact ih standLater

end Builder

end SpecGraph
