import Mathlib.Data.Fintype.EquivFin
import SpecGraph.Proofs.World.Failure

/-!
# Where manifests are written

The folder of a manifest is that of the settings, joined to the root of the builder. It is below the root if the text
of the settings goes down only, or goes up no further than it went down before. An absolute path, or one that goes
further up, leads out of some roots. A build changes the texts of its three manifests only, so it stays below the root
exactly if the folders of the manifests that it changes do.
-/

namespace SpecGraph

namespace Path

/-- Parts that are followed some levels below a folder never lead above it. -/
def staysBelow : (levels : Nat) → List String → Bool
  | _, [] => true
  | levels, part :: rest =>
      if part = ".." then 0 < levels && staysBelow (levels - 1) rest else staysBelow (levels + 1) rest

/-- A relative path that never leads above the folder it starts from. -/
def descends (path : Path) : Bool := !path.isAbsolute && staysBelow 0 path.parts

/-- A place is below that of a path. -/
def Holds (path : Path) (place : Location) : Prop := path.place <+: place ∧ path.place ≠ place

theorem walk_append (start : Location) (front back : List String) :
    walk start (front ++ back) = walk (walk start front) back := List.foldl_append

theorem place_join (root path : Path) :
    (root.join path).place = if path.isAbsolute then path.place else walk root.place path.parts := by
  unfold join
  split
  · rfl
  · exact walk_append _ root.parts path.parts

theorem holds_concat_iff {root : Path} {folder : Location} {name : String} :
    root.Holds (folder ++ [name]) ↔ root.place <+: folder := by
  constructor
  · rintro ⟨below, apart⟩
    exact (List.prefix_concat_iff.mp below).resolve_left apart
  · intro below
    refine ⟨below.trans (List.prefix_append _ _), fun same => ?_⟩
    have shorter := below.length_le
    rw [same, List.length_append, List.length_singleton] at shorter
    omega

/-- What stays below a folder comes to a place below it. -/
theorem prefix_walk {start below : Location} {parts : List String} (stays : staysBelow below.length parts = true) :
    start <+: walk (start ++ below) parts := by
  induction parts generalizing below with
  | nil => exact List.prefix_append start below
  | cons part rest ih =>
      rw [walk_cons]
      rw [staysBelow] at stays
      split
      next isUp =>
        rw [if_pos isUp, Bool.and_eq_true, decide_eq_true_iff] at stays
        rw [List.dropLast_append_of_ne_nil (List.ne_nil_of_length_pos stays.1)]
        apply ih
        rw [List.length_dropLast]
        exact stays.2
      next isName =>
        rw [if_neg isName] at stays
        rw [List.append_assoc]
        apply ih
        rw [List.length_append]
        exact stays

theorem mem_of_mem_walk {start : Location} {parts : List String} {name : String} (there : name ∈ walk start parts) :
    name ∈ start ∨ name ∈ parts := by
  induction parts generalizing start with
  | nil => exact Or.inl there
  | cons part rest ih =>
      rw [walk_cons] at there
      rcases ih there with inStart | inRest
      · split at inStart
        · exact Or.inl (List.dropLast_subset start inStart)
        · rcases List.mem_append.mp inStart with before | isPart
          · exact Or.inl before
          · exact Or.inr (List.mem_cons.mpr (Or.inl (List.mem_singleton.mp isPart)))
      · exact Or.inr (List.mem_cons_of_mem part inRest)

/-- What does not stay below a folder leaves it if its name does not come back. -/
theorem not_prefix_walk {fresh : String} {below : Location} {parts : List String} (isFresh : fresh ∉ parts)
    (leaves : staysBelow below.length parts = false) : ¬[fresh] <+: walk ([fresh] ++ below) parts := by
  induction parts generalizing below with
  | nil => cases leaves
  | cons part rest ih =>
      rw [List.mem_cons, not_or] at isFresh
      rw [walk_cons]
      rw [staysBelow] at leaves
      split
      next isUp =>
        rw [if_pos isUp] at leaves
        cases below with
        | nil =>
            intro isPrefix
            rcases mem_of_mem_walk (isPrefix.subset List.mem_cons_self) with inStart | inRest
            · cases inStart
            · exact isFresh.2 inRest
        | cons name others =>
            rw [List.dropLast_append_of_ne_nil (List.cons_ne_nil name others)]
            apply ih isFresh.2
            rw [List.length_dropLast]
            exact leaves
      next isName =>
        rw [if_neg isName] at leaves
        rw [List.append_assoc]
        apply ih isFresh.2
        rw [List.length_append]
        exact leaves

/-- A path leads below every root that it is joined to exactly if it descends. -/
theorem descends_iff (path : Path) : path.descends = true ↔ ∀ root : Path, root.place <+: (root.join path).place := by
  rw [descends, Bool.and_eq_true, Bool.not_eq_true']
  constructor
  · rintro ⟨isRelative, stays⟩ root
    rw [place_join, isRelative, if_neg Bool.false_ne_true]
    have isPrefix : root.place <+: walk (root.place ++ []) path.parts := prefix_walk stays
    rwa [List.append_nil] at isPrefix
  · intro each
    rcases Infinite.exists_notMem_finset (".." :: path.parts).toFinset with ⟨fresh, isFresh⟩
    rw [List.mem_toFinset, List.mem_cons, not_or] at isFresh
    have isPrefix := each ⟨"/", [fresh]⟩
    have isRoot : place ⟨"/", [fresh]⟩ = [fresh] := if_neg isFresh.1
    rw [place_join, isRoot] at isPrefix
    cases isAbsolute : path.isAbsolute with
    | true =>
        rw [isAbsolute, if_pos rfl, place, isAbsolute, if_pos rfl] at isPrefix
        rcases mem_of_mem_walk (isPrefix.subset List.mem_cons_self) with inStart | inParts
        · cases inStart
        · exact (isFresh.2 inParts).elim
    | false =>
        rw [isAbsolute, if_neg Bool.false_ne_true] at isPrefix
        cases stays : staysBelow 0 path.parts with
        | true => exact ⟨rfl, rfl⟩
        | false =>
            have leaves : staysBelow ([] : Location).length path.parts = false := stays
            exact (not_prefix_walk isFresh.2 leaves isPrefix).elim

end Path

/-- The name of the manifest of a stage. -/
def Stage.manifestName : Stage → String
  | .schema => Manifest.schemaFile
  | .storage => Manifest.storageFile
  | .dispatch => Manifest.dispatchFile

theorem Stage.manifestName_ne (stage : Stage) : stage.manifestName ≠ ".." := by cases stage <;> decide

/-- The text of the settings for the folder of the manifest of a stage. -/
def Settings.folder (settings : Settings) : Stage → String
  | .schema => settings.schemaFolder
  | .storage => settings.storageFolder
  | .dispatch => settings.dispatchFolder

/-- The place of the folder of the manifest of a stage under a root. -/
def Settings.folderPlace (settings : Settings) (root : Path) (stage : Stage) : Location :=
  (root.join (Path.parse (settings.folder stage))).place

namespace Builder

variable {builder : Builder} {allowBreaking : Bool}

/-- A build changes the texts of the three manifests only. -/
theorem textAt?_runAll (manifests : builder.pipelines = Pipelines.manifests allowBreaking) (number : Nat)
    {place : Location} (apart : ∀ stage, place ≠ (builder.request stage).file.place) (stages : List Stage)
    (files : Files) :
    (StageCall.runAll (stages.map (builder.call number)) files).2.2.textAt? place = files.textAt? place := by
  induction stages generalizing files with
  | nil => rfl
  | cons stage rest ih =>
      have kept : ((builder.call number stage).action files).2.textAt? place = files.textAt? place := by
        rw [action_call manifests]
        exact StageRequest.textAt?_action_of_ne allowBreaking _ files (apart stage)
      rcases StageCall.runAll_cons_files (builder.call number stage) (rest.map (builder.call number)) files with
        ended | ⟨_, goesOn⟩
      · rw [List.map_cons, ended, kept]
      · rw [List.map_cons, goesOn, ih, kept]

end Builder

namespace World

/-- The text of the file at a place is another one than before, or there is one only before or only after. -/
def Changes (before after : World) (place : Location) : Prop :=
  after.workspace.files.textAt? place ≠ before.workspace.files.textAt? place

end World

section Finalize

variable {world : World} {number : Nat} {root : Path} {settings : Settings} {graph : Graph} {frozen : Bool}
  (found : world.builders[number]? = some { Builder.create root settings none with graph, frozen })
include found

/-- Where finalizing a builder changes a text, there is one of its manifests. -/
theorem exists_stage_of_changes {place : Location}
    (changes : world.Changes (Effect.perform (Run.finalize number) world).2 place) :
    ∃ stage, place = settings.folderPlace root stage ++ [stage.manifestName] := by
  let builder : Builder := { Builder.create root settings none with graph, frozen }
  by_contra none_
  rw [not_exists] at none_
  have apart (stage : Stage) : place ≠ (builder.request stage).file.place := by
    have isFile : (builder.request stage).file =
        (root.join (Path.parse (settings.folder stage))).child stage.manifestName := by
      cases stage <;> rfl
    rw [isFile, Path.place_child stage.manifestName_ne]
    exact none_ stage
  apply changes
  cases frozen with
  | true => rw [Run.perform_finalize_of_frozen found rfl]
  | false =>
      rcases Run.perform_finalize_of_open found rfl with ⟨log, performed⟩
      rw [performed]
      exact builder.textAt?_runAll rfl number apart [.schema, .storage, .dispatch] world.workspace.files

/-- Finalizing a builder changes texts at the places of its manifests only. So it stays below the root exactly if the
folders of the manifests that it changes do, and it does so for every root if the settings give relative paths that
never lead above the root. -/
theorem finalize_stays_iff :
    let after := (Effect.perform (Run.finalize number) world).2
    (∀ place, world.Changes after place → ∃ stage, place = settings.folderPlace root stage ++ [stage.manifestName]) ∧
      ((∀ place, world.Changes after place → root.Holds place) ↔
        ∀ stage, world.Changes after (settings.folderPlace root stage ++ [stage.manifestName]) →
          root.place <+: settings.folderPlace root stage) ∧
      ((∀ stage, (Path.parse (settings.folder stage)).descends = true) →
        ∀ place, world.Changes after place → root.Holds place) := by
  have told (place : Location) (changes : world.Changes (Effect.perform (Run.finalize number) world).2 place) :=
    exists_stage_of_changes found changes
  refine ⟨told, ⟨fun stays stage changes => ?_, fun below place changes => ?_⟩, fun descend place changes => ?_⟩
  · exact Path.holds_concat_iff.mp (stays _ changes)
  · rcases told place changes with ⟨stage, rfl⟩
    exact Path.holds_concat_iff.mpr (below stage changes)
  · rcases told place changes with ⟨stage, rfl⟩
    exact Path.holds_concat_iff.mpr ((Path.descends_iff _).mp (descend stage) root)

end Finalize

/-- A world with a builder under the root of a name. -/
def settled (settings : Settings) : World :=
  { World.start ⟨[], [Files.home]⟩ with builders := [Builder.create ⟨"", ["spec"]⟩ settings none] }

theorem finalize_stays_iff_default :
    let after := (Effect.perform (Run.finalize 0) (settled Settings.default)).2
    (settled Settings.default).Changes after ["home", "spec", "schema", "schema.json"] ∧
      ∀ place, (settled Settings.default).Changes after place → Path.Holds ⟨"", ["spec"]⟩ place := by
  have found : (settled Settings.default).builders[0]? =
      some { Builder.create ⟨"", ["spec"]⟩ Settings.default none with graph := Graph.initial, frozen := false } := rfl
  have changed : (Effect.perform (Run.finalize 0) (settled Settings.default)).2.workspace.files.textAt?
      ["home", "spec", "schema", "schema.json"] ≠ none := by decide +kernel
  refine ⟨changed, (finalize_stays_iff found).2.2 fun stage => ?_⟩
  cases stage <;> decide +kernel

/-- The folder of a manifest that leads up from the root is not below it. -/
theorem manifest_strays_upwards :
    let world := settled { Settings.default with schemaFolder := "../out" }
    let place := ["home", "out", "schema.json"]
    world.Changes (Effect.perform (Run.finalize 0) world).2 place ∧ ¬Path.Holds ⟨"", ["spec"]⟩ place := by
  intro world place
  have changed : (Effect.perform (Run.finalize 0) world).2.workspace.files.textAt? place ≠ none := by decide +kernel
  refine ⟨changed, fun holds => ?_⟩
  have notBelow : ¬Path.place ⟨"", ["spec"]⟩ <+: ["home", "out", "schema.json"] := by decide +kernel
  exact notBelow holds.1

end SpecGraph
