import SpecGraph.Proofs.Json.RoundTrip
import SpecGraph.Proofs.Manifest.History

/-!
# Series of compiles

A compile is a stage that succeeded in writing its manifest, whether or not it allows breaking changes. In a
series each compile finds the manifest that the one before it left, and the first one finds none; the rest of
the file tree may change in between.

What succeeds has a plan, and the manifest of the plan has a text. So its numbers can be shown, and nothing
has to be assumed about how many compiles there are.
-/

namespace SpecGraph

/-- The greatest number that can be shown. -/
def Text.mostShown : Nat := leastUnshown - 1

theorem Text.mostShown_lt : mostShown < leastUnshown := by
  have some_ : 0 < leastUnshown := by
    rw [leastUnshown_eq]
    generalize mostDigits = digits
    exact Nat.pow_pos (by decide)
  unfold mostShown
  omega

/-- A number with a text is not beyond the greatest one that can be shown. -/
theorem Json.HasText.le_mostShown {layout : Layout} {number : Int} (hasText : HasText layout (.int number))
    (positive : 0 ≤ number) : number ≤ Text.mostShown := by
  have showable := Text.isShowable_iff.mp hasText.isShowable
  have less := Text.mostShown_lt
  unfold Text.mostShown at less ⊢
  omega

namespace Manifest

/-- A plan for declarations with ids has the ids of their addresses. -/
theorem Numbered.exists_ids {α : Type} {kind : Numbered α} {allowBreaking : Bool} {schemas : Table Data}
    {entries : List (Entry α)} {previous : Option Data} {version : Int} {items : List Data}
    (planned : kind.plan allowBreaking schemas entries previous = .ok (version, items)) :
    ∃ changes ids, nextVersion previous changes = .ok version ∧
      sectionIds previous kind.section_ (entries.map kind.addressOf) = .ok ids ∧
      items = kind.withIds ids entries := by
  unfold plan at planned
  rcases bind_eq_ok.mp planned with ⟨_, _, planned⟩
  rcases bind_eq_ok.mp planned with ⟨changes, _, planned⟩
  rcases bind_eq_ok.mp planned with ⟨_, _, planned⟩
  rcases bind_eq_ok.mp planned with ⟨found, isVersion, planned⟩
  rcases bind_eq_ok.mp planned with ⟨ids, areIds, planned⟩
  cases planned
  exact ⟨changes, ids, faulty_eq_ok.mp isVersion, faulty_eq_ok.mp areIds, rfl⟩

/-- A plan for schemas has their versions, as the changes tell them. -/
theorem exists_versions {allowBreaking : Bool} {entries : List (Entry SchemaSpec)} {previous : Option Data}
    {version : Int} {items : List Data}
    (planned : planSchemas allowBreaking entries previous = .ok (version, items)) :
    ∃ changes oldSchemas,
      diffSchemas (orEmpty previous) (.object [("schema", .list (entries.map Entry.schemaData))]) =
        .ok changes ∧
      nextVersion previous changes = .ok version ∧ index (orEmpty previous) "schema" = .ok oldSchemas ∧
      entries.mapM (versionedSchema version changes oldSchemas) = .ok items := by
  unfold planSchemas at planned
  rcases bind_eq_ok.mp planned with ⟨_, _, planned⟩
  rcases bind_eq_ok.mp planned with ⟨changes, compared, planned⟩
  rcases bind_eq_ok.mp planned with ⟨_, _, planned⟩
  rcases bind_eq_ok.mp planned with ⟨found, isVersion, planned⟩
  rcases bind_eq_ok.mp planned with ⟨oldSchemas, areSchemas, planned⟩
  rcases bind_eq_ok.mp planned with ⟨versioned, areVersioned, planned⟩
  cases planned
  exact ⟨changes, oldSchemas, faulty_eq_ok.mp compared, faulty_eq_ok.mp isVersion,
    faulty_eq_ok.mp areSchemas, faulty_eq_ok.mp areVersioned⟩

end Manifest

/-- A stage that succeeds has a plan, and opens its file for the text of its manifest. -/
theorem StageRequest.exists_opened {request : StageRequest} {allowBreaking : Bool} {files later : Files}
    (succeeds : (request.writeManifest allowBreaking).action files = (.ok (), later)) :
    ∃ version items text opened, request.plan allowBreaking files = .ok (version, items) ∧
      Json.write Manifest.layout (Manifest.compose request.member version items) = .ok text ∧
      Manifest.opened? files request.file = some opened ∧
      Files.write? opened request.file (text ++ "\n") = some later := by
  rw [action_writeManifest] at succeeds
  cases planned : request.plan allowBreaking files with
  | error error =>
      rw [planned] at succeeds
      cases succeeds
  | ok goal =>
      rw [planned] at succeeds
      have stored := Manifest.stored_action request.file
        (Manifest.compose request.member goal.1 goal.2) files
      change (Manifest.store request.file _).action files = _ at succeeds
      rw [succeeds] at stored
      cases stored with
      | written isOpened isText isWritten => exact ⟨goal.1, goal.2, _, _, rfl, isText, isOpened, isWritten⟩

/-- A stage that succeeds has a plan, and leaves the text of its manifest. -/
theorem StageRequest.exists_written {request : StageRequest} {allowBreaking : Bool} {files later : Files}
    (succeeds : (request.writeManifest allowBreaking).action files = (.ok (), later)) :
    ∃ version items text opened, request.plan allowBreaking files = .ok (version, items) ∧
      Json.write Manifest.layout (Manifest.compose request.member version items) = .ok text ∧
      Files.write? opened request.file (text ++ "\n") = some later := by
  rcases exists_opened succeeds with ⟨version, items, text, opened, planned, isText, _, isWritten⟩
  exact ⟨version, items, text, opened, planned, isText, isWritten⟩

namespace Manifest

section Recorded

variable {Form : Type} {Record : Nat → Data → Form → Prop} {section_ text : String} {path : Path}
  {opened later : Files}

/-- A text is read as a manifest with the records of some forms, with numbers that can be shown. -/
structure IsTextOf (Record : Nat → Data → Form → Prop) (section_ text : String) (manifest : Data)
    (forms : List Form) : Prop where
  /-- The text is read as it stands. -/
  unbroken : '\r' ∉ text.toList
  /-- The text is that of the manifest. -/
  isRead : Json.read text = .ok manifest
  /-- The manifest has the records. -/
  recorded : Recorded Record section_ Text.mostShown manifest forms

/-- A manifest whose items are records is written with its records. -/
theorem isTextOf_reread (keys : Json.AreKeys ["version", section_]) {version : Nat} {items : List Data}
    {forms : List Form} (small : version ≤ Text.mostShown) (trees : ∀ item ∈ items, Json.IsTree 3 item)
    (records : List.Forall₂ (fun item form => Record Text.mostShown (Json.reread layout item) form) items forms)
    (isText : Json.write layout (compose section_ version items) = .ok text) :
    IsTextOf Record section_ (text ++ "\n") (Json.reread layout (compose section_ version items)) forms := by
  rcases exists_text_of_trees keys (small.trans_lt Text.mostShown_lt) trees with ⟨_, sameText, unbroken, isRead⟩
  cases isText.symm.trans sameText
  exact ⟨unbroken, isRead, recorded_reread keys small records⟩

/-- A manifest that is written is loaded. -/
theorem IsTextOf.loaded_of_write {manifest : Data} {forms : List Form}
    (isTextOf : IsTextOf Record section_ text manifest forms) (isWritten : opened.write? path text = some later) :
    loaded later path = .ok (some manifest) := by
  rcases isTextOf.recorded.records with ⟨_, there, _⟩
  exact loaded_of_found (Files.find?_of_write? isWritten) (Files.isTooLong_of_write? isWritten) isTextOf.unbroken
    isTextOf.isRead there

end Recorded

section Texts

variable {section_ : String} {version : Int} {items : List Data}
  (hasText : Json.HasText layout (compose section_ version items))
include hasText

/-- The version of a written manifest can be shown. -/
theorem hasText_version : Json.HasText layout (.int version) :=
  hasText.entry List.mem_cons_self

theorem hasText_item {item : Data} (itemMem : item ∈ items) : Json.HasText layout item :=
  (hasText.entry (List.mem_cons_of_mem _ List.mem_cons_self)).item itemMem

end Texts

end Manifest

theorem StageRequest.member_of_stage {first second : StageRequest} (same : first.stage = second.stage) :
    first.member = second.member := by
  cases first <;> cases second <;> first | rfl | cases same

/-- A stage that succeeded in writing its manifest. -/
structure Compile where
  /-- What the stage was asked to write. -/
  request : StageRequest
  /-- Breaking changes are allowed. -/
  allowBreaking : Bool
  /-- The file tree before it. -/
  before : Files
  /-- The file tree after it. -/
  after : Files
  /-- The stage succeeds. -/
  succeeds : (request.writeManifest allowBreaking).action before = (.ok (), after)

/-- Compiles of one stage into one manifest, the last one first. The first compile finds no manifest, and each
other one finds what the one before it left. -/
inductive Series (stage : Stage) (path : Path) : List Compile → Prop
  /-- The first compile. -/
  | first (compile : Compile) (isStage : compile.request.stage = stage) (isPath : compile.request.file = path)
      (absent : Manifest.loaded compile.before path = .ok none) : Series stage path [compile]
  /-- Another compile. -/
  | next (compile : Compile) {last : Compile} {rest : List Compile} (series : Series stage path (last :: rest))
      (isStage : compile.request.stage = stage) (isPath : compile.request.file = path)
      (same : Manifest.loaded compile.before path = Manifest.loaded last.after path) :
      Series stage path (compile :: last :: rest)

theorem Series.isAt {stage : Stage} {path : Path} {compile : Compile} {rest : List Compile}
    (series : Series stage path (compile :: rest)) :
    compile.request.stage = stage ∧ compile.request.file = path := by
  cases series with
  | first _ isStage isPath => exact ⟨isStage, isPath⟩
  | next _ _ isStage isPath => exact ⟨isStage, isPath⟩

/-- What holds where there is no manifest, and what every compile keeps, holds of the manifest of a series. -/
theorem Series.exists_left {stage : Stage} {path : Path} (Holds : Option Data → Prop) (absent : Holds none)
    {compile : Compile} {compiles : List Compile} (series : Series stage path (compile :: compiles))
    (step : ∀ next ∈ compile :: compiles, next.request.stage = stage → ∀ previous,
      Manifest.loaded next.before next.request.file = .ok previous → Holds previous →
        ∃ manifest, Manifest.loaded next.after next.request.file = .ok (some manifest) ∧ Holds (some manifest)) :
    ∃ manifest, Manifest.loaded compile.after path = .ok (some manifest) ∧ Holds (some manifest) := by
  generalize isAll : compile :: compiles = all at series step
  induction series generalizing compile compiles with
  | first single isStage isPath isAbsent =>
      cases isAll
      subst isPath
      exact step single List.mem_cons_self isStage none isAbsent absent
  | next following series isStage isPath same ih =>
      cases isAll
      rcases ih rfl fun next nextMem => step next (List.mem_cons_of_mem _ nextMem) with ⟨previous, isFound, holds⟩
      subst isPath
      exact step following List.mem_cons_self isStage (some previous) (same.trans isFound) holds

end SpecGraph
