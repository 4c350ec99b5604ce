import SpecGraph.Proofs.Graph.Flattened
import SpecGraph.Proofs.Manifest.Standing
import SpecGraph.Proofs.World.Verdict

/-!
# What the written manifests say

Each stage of a build that succeeds leaves a manifest that can be read, whatever was found. Without its numbers it is
what JSON makes of the declarations of the builder, one after the other.
-/

namespace SpecGraph

open Effect
open Json (Carries)
open Manifest (Stands)

/-- A manifest has its own name in the folder of its root. -/
theorem StageRequest.exists_child (request : StageRequest) :
    ∃ (folder : Path) (name : String), name ≠ ".." ∧ request.file = folder.child name := by
  cases request with
  | schema _ root => exact ⟨root, Manifest.schemaFile, by decide, rfl⟩
  | storage _ _ root => exact ⟨root, Manifest.storageFile, by decide, rfl⟩
  | dispatch _ _ root => exact ⟨root, Manifest.dispatchFile, by decide, rfl⟩

theorem Stage.areKeys (stage : Stage) : Json.AreKeys ["version", stage.section_] := by
  cases stage <;> exact Json.areKeys_of_subset (by decide) (by decide)

namespace Builder

variable {builder : Builder}

theorem member_request (stage : Stage) : (builder.request stage).member = stage.section_ := by
  cases stage <;> rfl

/-- The entries of a plan are the declarations of a builder with more numbers. -/
theorem carries_entries (plain : builder.graph.IsPlain) {stage : Stage} {items : List Data}
    (planned : (builder.request stage).IsPlanned 985 items) :
    List.Forall₂ (Carries Manifest.numberNames 988) items (builder.graph.toData.declarations stage.kind) := by
  cases stage with
  | schema =>
      change List.Forall₂ _ items builder.graph.schemaSpecs.entries at planned
      rw [Grouped.entries, Graph.schemaSpecs, List.flatMap_map] at planned
      simp only [List.map_map] at planned
      rw [Stage.kind, Graph.declarations_schemas]
      refine forall₂_flatMap_imp (fun space spaceMem schema schemaMem item versioned => ?_) planned
      exact ((plain.spaces space spaceMem).schemas schema schemaMem).carries space.name versioned
  | storage =>
      change List.Forall₂ _ items builder.graph.collectionSpecs.entries at planned
      rw [Grouped.entries, Graph.collectionSpecs, List.flatMap_map] at planned
      simp only [List.map_map] at planned
      rw [Stage.kind, Graph.declarations_collections]
      refine forall₂_flatMap_imp (fun space spaceMem collection collectionMem item numbered => ?_) planned
      exact Collection.carries ((plain.spaces space spaceMem).keys collection collectionMem) space.name numbered
  | dispatch =>
      change List.Forall₂ _ items builder.graph.dispatchSpecs.entries at planned
      rw [Grouped.entries, Graph.dispatchSpecs, List.flatMap_map] at planned
      simp only [List.map_map] at planned
      rw [Stage.kind, Graph.declarations_dispatches]
      exact forall₂_flatMap_imp (fun space _ dispatch _ item numbered => dispatch.carries space.name numbered) planned

end Builder

namespace Manifest

/-- A manifest whose entries are declarations with more numbers. -/
theorem carries_compose {member : String} (keys : Json.AreKeys [member, "version"]) (unnamed : member ∉ numberNames)
    {items declarations : List Data} (carries : List.Forall₂ (Carries numberNames 988) items declarations)
    (version : Int) :
    Carries numberNames 990 (compose member version items) (.object [(member, .list declarations)]) := by
  refine .object [(member, .list items, .list declarations)] [("version", .int version)] (.swap _ _ _) (.refl _) keys
    ?_ (List.forall_mem_singleton.mpr unnamed) ?_ ?_
  · exact List.forall_mem_singleton.mpr (carries_list carries)
  · exact show ∀ name ∈ ["version"], name ∈ numberNames by decide
  · exact List.forall_mem_singleton.mpr (Or.inl ⟨version, rfl⟩)

/-- A manifest that was written is read back. -/
theorem read_written {manifest declared : Data} {text : String} (carries : Carries numberNames 990 manifest declared)
    (isText : Json.write layout manifest = .ok text) :
    '\r' ∉ (text ++ "\n").toList ∧ Json.read (text ++ "\n") = .ok (Json.reread layout manifest) := by
  rcases Json.write_read (Json.isRegular_sortedLines 2) (carries.isTree (Json.hasText_of_write isText)) (by decide) with
    ⟨other, written, unbroken, read⟩
  cases isText.symm.trans written
  exact ⟨by simpa using unbroken, read "\n" (by simp [Json.IsGap, Json.isBlank])⟩

end Manifest

namespace Builder

/-- What a builder has declared for a stage, in a mapping as the stage writes it. -/
def declared (builder : Builder) (stage : Stage) : Data :=
  .object [(stage.section_, .list (builder.graph.toData.declarations stage.kind))]

variable {builder : Builder}

/-- The manifest of a plan is what was declared with more numbers. -/
theorem carries_manifest (plain : builder.graph.IsPlain) {stage : Stage} {version : Int} {items : List Data}
    (planned : (builder.request stage).IsPlanned 985 items) :
    Carries Manifest.numberNames 990 (Manifest.compose (builder.request stage).member version items)
      (builder.declared stage) := by
  have unnamed : stage.section_ ∉ Manifest.numberNames := by cases stage <;> decide
  rw [member_request]
  exact Manifest.carries_compose (stage.areKeys.perm (.swap _ _ _)) unnamed (builder.carries_entries plain planned) version

theorem allTexts_declared (settled : builder.graph.toData.allTexts Text.isSettled = true) (stage : Stage) :
    (builder.declared stage).allTexts Text.isSettled = true := by
  have named : Text.isSettled stage.section_ = true := by cases stage <;> decide +kernel
  rw [declared, Data.allTexts_object, List.forall_mem_singleton, Data.allTexts_list]
  exact ⟨named, Graph.allTexts_declarations (by decide +kernel) settled stage⟩

/-- A stage of a build that succeeds wrote a text for its plan. The manifest stands in its folder for the later stages
and after the build. -/
structure Wrote (builder : Builder) (allowBreaking : Bool) (number : Nat) (files : Files) (stage : Stage)
    (version : Int) (items : List Data) (text : String) : Prop where
  /-- The stage had the plan. -/
  planned : (builder.request stage).plan allowBreaking (builder.filesBefore number files stage) = .ok (version, items)
  /-- The manifest of the plan has the text. -/
  isText : Json.write Manifest.layout (Manifest.compose (builder.request stage).member version items) = .ok text
  /-- The manifest is there after the build. -/
  stands : Stands (StageCall.runAll (builder.calls number) files).2.2 (builder.request stage).file (text ++ "\n")
  /-- The manifest is there for the later stages. -/
  before : ∀ later : Stage, stage ∈ later.earlier →
    Stands (builder.filesBefore number files later) (builder.request stage).file (text ++ "\n")

/-- The manifests that a builder finds hold texts of files. -/
def FindsTexts (builder : Builder) (files : Files) : Prop :=
  ∀ stage text, builder.manifestText? files stage = some text → Text.IsPlain text.toList

variable {allowBreaking : Bool} (manifests : builder.pipelines = Pipelines.manifests allowBreaking) {number : Nat}
  {files : Files}
include manifests

/-- What a stage finds in the place of its manifest when it is its turn is a text of a file. -/
theorem FindsTexts.filesBefore (texts : builder.FindsTexts files) (stage : Stage) :
    ∀ text, (builder.filesBefore number files stage).find? (builder.request stage).file = some (.file text) →
      Text.IsPlain text.toList := by
  intro text isFound
  have notEarlier : stage ∉ stage.earlier := by cases stage <;> decide
  exact texts stage text ((manifestText?_replay manifests number files notEarlier).symm.trans
    (Files.textAt?_of_find? isFound))

/-- The manifest that a stage wrote is what was declared with more numbers, whatever it found. -/
theorem Wrote.carries {stage : Stage} {version : Int} {items : List Data} {text : String}
    (wrote : builder.Wrote allowBreaking number files stage version items text) (plain : builder.graph.IsPlain)
    (texts : builder.FindsTexts files) :
    Carries Manifest.numberNames 990 (Manifest.compose (builder.request stage).member version items)
      (builder.declared stage) :=
  carries_manifest plain (StageRequest.isPlanned wrote.planned (texts.filesBefore manifests stage))

/-- A manifest stands in its folder while other stages write theirs. -/
theorem stands_replay {stage : Stage} {text : String} (stands : Stands files (builder.request stage).file text)
    {stages : List Stage} (apart : stage ∉ stages) :
    Stands (StageCall.replay files (stages.map (builder.call number))) (builder.request stage).file text :=
  stands.grows (grows_replay manifests number files stages) (manifestText?_replay manifests number files apart)

/-- Each stage of a build that succeeds wrote a text. -/
theorem exists_wrote (succeeds : (StageCall.runAll (builder.calls number) files).1 = .ok ()) (stage : Stage) :
    ∃ version items text, builder.Wrote allowBreaking number files stage version items text := by
  have ofStage := (builder.runAll_calls_eq_ok_iff number files).mp succeeds stage
  rw [Succeeds, action_call manifests] at ofStage
  rcases acted : ((builder.request stage).writeManifest allowBreaking).action (builder.filesBefore number files stage)
    with ⟨outcome, after⟩
  rw [acted] at ofStage
  obtain rfl : outcome = .ok () := ofStage
  rcases StageRequest.exists_opened acted with ⟨version, items, text, opened, planned, isText, isOpened, isWritten⟩
  have stands : Stands after (builder.request stage).file (text ++ "\n") := by
    rcases (builder.request stage).exists_child with ⟨folder, name, _, isFile⟩
    rw [isFile] at isOpened isWritten ⊢
    exact Manifest.stands_of_write? isOpened isWritten
  have isCall : after = ((builder.call number stage).action (builder.filesBefore number files stage)).2 := by
    rw [action_call manifests, acted]
  refine ⟨version, items, text, planned, isText, ?_, fun later isLater => ?_⟩
  · have notLater : stage ∉ stage.later := by cases stage <;> decide
    have atEnd := @stands_replay _ _ manifests number _ _ _ stands _ notLater
    rw [StageCall.runAll_files_of_ok succeeds]
    rw [isCall] at atEnd
    cases stage <;> exact atEnd
  · rw [isCall] at stands
    cases later with
    | schema => cases isLater
    | storage =>
        obtain rfl : stage = .schema := List.mem_singleton.mp isLater
        exact stands
    | dispatch =>
        cases stage with
        | schema => exact stands_replay manifests stands (show Stage.schema ∉ [Stage.storage] by decide)
        | storage => exact stands
        | dispatch => exact absurd isLater (by decide)

end Builder

end SpecGraph
