import SpecGraph.Proofs.World.Finalize
import SpecGraph.Session.Basic

/-!
# What a failed build leaves

A build ends with the first stage that fails. The stages after it are not called, and those before it have
written their own manifests only, so the manifests of the later stages are as they were. The manifest of the
failed stage is as it was too, with one exception: a stage opens its file before it turns the manifest into
text. If the manifest has no text, then the file is left empty.
-/

namespace SpecGraph

/-- The stages after a stage. -/
def Stage.later : Stage → List Stage
  | .schema => [.storage, .dispatch]
  | .storage => [.dispatch]
  | .dispatch => []

/-- The stages before a stage. -/
def Stage.earlier : Stage → List Stage
  | .schema => []
  | .storage => [.schema]
  | .dispatch => [.schema, .storage]

namespace StageRequest

/-- A stage opens its file for a manifest that has no text. -/
def Empties (request : StageRequest) (allowBreaking : Bool) (files : Files) : Prop :=
  ∃ version entries opened fault, request.plan allowBreaking files = .ok (version, entries) ∧
    Manifest.opened? files request.file = some opened ∧
    Json.write Manifest.layout (Manifest.compose request.member version entries) = .error fault

/-- The manifest of a stage that fails is as it was, or empty if the stage opens its file for a manifest
that has no text. -/
theorem textAt?_of_failed {allowBreaking : Bool} {request : StageRequest} {files after : Files}
    {cause : Error} (failed : (request.writeManifest allowBreaking).action files =
      (.error cause, after)) :
    (¬request.Empties allowBreaking files ∧
      after.textAt? request.file.place = files.textAt? request.file.place) ∨
    (request.Empties allowBreaking files ∧ after.textAt? request.file.place = some "") := by
  rw [action_writeManifest] at failed
  rcases planned : request.plan allowBreaking files with error | ⟨version, entries⟩
  · rw [planned] at failed
    obtain rfl := congrArg Prod.snd failed
    refine Or.inl ⟨?_, rfl⟩
    rintro ⟨version, entries, _, _, isPlan, _⟩
    rw [planned] at isPlan
    cases isPlan
  · rw [planned] at failed
    have stored := Manifest.stored_action request.file
      (Manifest.compose request.member version entries) files
    change (Manifest.store request.file _).action files = _ at failed
    rw [failed] at stored
    cases stored with
    | closed isClosed deepens =>
        refine Or.inl ⟨?_, deepens.textAt? _⟩
        rintro ⟨_, _, opened, _, _, isOpened, _⟩
        rw [isClosed] at isOpened
        cases isOpened
    | @emptied fault _ isOpened noText =>
        refine Or.inr ⟨⟨version, entries, after, fault, planned, isOpened, noText⟩, ?_⟩
        rw [Manifest.textAt?_of_opened? isOpened, if_pos rfl]

end StageRequest

namespace Builder

/-- The text of the manifest of a stage. -/
def manifestText? (builder : Builder) (files : Files) (stage : Stage) : Option String :=
  files.textAt? (builder.request stage).file.place

/-- The file tree that a stage finds when a builder is finalized. -/
def filesBefore (builder : Builder) (number : Nat) (files : Files) (stage : Stage) : Files :=
  StageCall.replay files (stage.earlier.map (builder.call number))

/-- A build that fails ends with the call of a stage on the file tree that the earlier stages left. -/
theorem exists_failed_stage {builder : Builder} {number : Nat} {files after : Files}
    {made : List StageCall} {error : Error}
    (failed : StageCall.runAll (builder.calls number) files = (.error error, made, after)) :
    ∃ stage cause, error = (builder.call number stage).failure cause ∧
      (builder.call number stage).action (builder.filesBefore number files stage) =
        (.error cause, after) := by
  obtain ⟨earlier, call, rest, cause, split, fails, rfl⟩ := StageCall.runAll_failed failed
  rcases earlier with _ | ⟨first, _ | ⟨second, _ | ⟨third, others⟩⟩⟩
  all_goals simp only [calls, List.cons_append, List.nil_append, List.cons.injEq] at split
  · obtain ⟨rfl, _⟩ := split
    exact ⟨.schema, cause, rfl, fails⟩
  · obtain ⟨rfl, rfl, _⟩ := split
    exact ⟨.storage, cause, rfl, fails⟩
  · obtain ⟨rfl, rfl, rfl, _⟩ := split
    exact ⟨.dispatch, cause, rfl, fails⟩
  · have short := congrArg List.length split.2.2.2
    simp at short

section Manifests

variable {builder : Builder} {allowBreaking : Bool}
  (manifests : builder.pipelines = Pipelines.manifests allowBreaking)
include manifests

theorem action_call (number : Nat) (stage : Stage) (files : Files) :
    (builder.call number stage).action files =
      ((builder.request stage).writeManifest allowBreaking).action files := by
  unfold StageCall.action call
  rw [manifests]
  cases stage <;> rfl

/-- A stage leaves the manifests of the other stages. -/
theorem manifestText?_action (number : Nat) {stage other : Stage} (apart : other ≠ stage)
    (files : Files) :
    builder.manifestText? ((builder.call number stage).action files).2 other =
      builder.manifestText? files other := by
  have places := StageRequest.place_file_ne (builder.request other) (builder.request stage)
    (by cases other <;> cases stage <;> exact apart)
  rw [action_call manifests]
  exact StageRequest.textAt?_action_of_ne _ _ _ places

/-- Stages leave the manifests of all other stages. -/
theorem manifestText?_replay (number : Nat) (files : Files) {stages : List Stage} {other : Stage}
    (apart : other ∉ stages) :
    builder.manifestText? (StageCall.replay files (stages.map (builder.call number))) other =
      builder.manifestText? files other := by
  induction stages generalizing files with
  | nil => rfl
  | cons first rest ih =>
      rw [List.mem_cons, not_or] at apart
      change builder.manifestText? (StageCall.replay ((builder.call number first).action files).2 _)
        other = _
      rw [ih _ apart.2, manifestText?_action manifests number apart.1]

/-- Stages keep folders and files. -/
theorem grows_replay (number : Nat) (files : Files) (stages : List Stage) :
    files.Grows (StageCall.replay files (stages.map (builder.call number))) := by
  induction stages generalizing files with
  | nil => exact Files.Grows.refl files
  | cons first rest ih =>
      have grows := StageRequest.grows_action allowBreaking (builder.request first) files
      rw [← action_call manifests number first files] at grows
      exact grows.trans (ih _)

end Manifests

end Builder

/-- When a build fails, the manifests of the later stages are as they were. The manifest of the stage that
failed is as it was unless the stage had opened its file for a manifest that has no text. -/
theorem failed_finalize_keeps_manifests {world after : World} {number : Nat} {builder : Builder}
    {allowBreaking : Bool} {stage : Stage} {root : String} {cause : Error}
    (found : world.builders[number]? = some builder)
    (manifests : builder.pipelines = Pipelines.manifests allowBreaking)
    (failed : Effect.perform (Run.finalize number) world =
      (.error (.compilation stage root cause), after)) :
    (∀ other ∈ stage.later, builder.manifestText? after.workspace.files other =
      builder.manifestText? world.workspace.files other) ∧
    (builder.manifestText? after.workspace.files stage =
      builder.manifestText? world.workspace.files stage ↔
      ¬(builder.request stage).Empties allowBreaking
        (builder.filesBefore number world.workspace.files stage) ∨
      builder.manifestText? world.workspace.files stage = some "") := by
  have isOpen : builder.frozen = false := by
    by_contra frozen
    rw [Bool.not_eq_false] at frozen
    rw [Run.perform_finalize_of_frozen found frozen] at failed
    cases failed
  obtain ⟨log, finalized⟩ := Run.perform_finalize_of_open found isOpen
  rw [finalized] at failed
  obtain ⟨isError, rfl⟩ := Prod.mk.inj failed
  obtain ⟨failing, reason, isFailure, acted⟩ :=
    Builder.exists_failed_stage (Prod.ext isError (Prod.ext rfl rfl))
  have isStage : failing = stage := by
    have goesOn : reason.endsProcess = false := by rw [← StageCall.endsProcess_failure, ← isFailure]; rfl
    have same := isFailure
    rw [StageCall.failure_of_not_endsProcess goesOn, Builder.stage_call] at same
    injection same with same
    exact same.symm
  subst isStage
  rw [Builder.action_call manifests] at acted
  have before (other : Stage) (notEarlier : other ∉ failing.earlier) :
      builder.manifestText? (builder.filesBefore number world.workspace.files failing) other =
        builder.manifestText? world.workspace.files other :=
    Builder.manifestText?_replay manifests number _ notEarlier
  have own := before failing (by cases failing <;> decide)
  have left {other : Stage} (apart : other ≠ failing) :=
    Builder.manifestText?_action manifests number apart
      (builder.filesBefore number world.workspace.files failing)
  simp only [Builder.action_call manifests, acted] at left
  refine ⟨?_, ?_⟩
  · intro other isLater
    rw [← before other (by cases failing <;> cases other <;> revert isLater <;> decide)]
    exact left (by rintro rfl; cases other <;> revert isLater <;> decide)
  · rw [← own]
    rcases StageRequest.textAt?_of_failed acted with ⟨notEmptied, same⟩ | ⟨emptied, isEmpty⟩
    · exact iff_of_true same (Or.inl notEmptied)
    · constructor
      · intro same
        exact Or.inr (same.symm.trans isEmpty)
      · rintro (notEmptied | wasEmpty)
        · exact (notEmptied emptied).elim
        · exact isEmpty.trans wasEmpty.symm

namespace World

/-- The world in which a document was declared in the only builder. -/
def ofDocument (text : String) : World :=
  (Session.perform
    (Session.perform (start Files.empty) (.command (.create ⟨.text "spec", [], [], none⟩))).2
    (.command (.apply (.int 0) (.yaml text)))).2

/-- A stage fails when the builder of a number is finalized. -/
def failsIn (world : World) (number : Nat) (stage : Stage) : Bool :=
  match (Effect.perform (Run.finalize number) world).1 with
  | .error (.compilation failed _ _) => failed == stage
  | _ => false

theorem exists_of_failsIn (world : World) (number : Nat) (stage : Stage)
    (fails : world.failsIn number stage = true) :
    ∃ root cause, Effect.perform (Run.finalize number) world =
      (.error (.compilation stage root cause), (Effect.perform (Run.finalize number) world).2) := by
  unfold failsIn at fails
  split at fails
  · next failed root cause outcome =>
      obtain rfl := beq_iff_eq.mp fails
      exact ⟨root, cause, Prod.ext outcome rfl⟩
  · cases fails

/-- A field holds a schema that is not declared. -/
def withUnknownField : World :=
  ofDocument "schemas:\n- name: a\n  fields:\n  - name: f\n    struct: b\n"

/-- The flag of a schema is a date. -/
def withDatedFlag : World := ofDocument "schemas:\n- name: a\n  compact: 2020-01-01\n"

end World

theorem failed_finalize_keeps_manifests_unknownField :
    ∃ builder root cause after, World.withUnknownField.builders[0]? = some builder ∧
      builder.pipelines = Pipelines.manifests false ∧
      Effect.perform (Run.finalize 0) World.withUnknownField =
        (.error (.compilation .schema root cause), after) ∧
      (∀ other ∈ Stage.schema.later, builder.manifestText? after.workspace.files other =
        builder.manifestText? World.withUnknownField.workspace.files other) ∧
      (builder.manifestText? after.workspace.files .schema =
        builder.manifestText? World.withUnknownField.workspace.files .schema ↔
        ¬(builder.request .schema).Empties false
          (builder.filesBefore 0 World.withUnknownField.workspace.files .schema) ∨
        builder.manifestText? World.withUnknownField.workspace.files .schema = some "") := by
  obtain ⟨root, cause, failed⟩ := World.exists_of_failsIn World.withUnknownField 0 .schema
    (by decide +kernel)
  have pipelines : World.withUnknownField.builders[0]?.any (fun builder =>
      builder.pipelines = Pipelines.manifests false) = true := by decide +kernel
  obtain ⟨builder, found, same⟩ := (Option.any_eq_true _ _).mp pipelines
  have manifests := of_decide_eq_true same
  exact ⟨builder, root, cause, _, found, manifests, failed,
    failed_finalize_keeps_manifests found manifests failed⟩

/-- A flag that JSON has no text for leaves an empty manifest where none was before. -/
theorem datedFlag_empties_manifest :
    ∃ builder root cause after, World.withDatedFlag.builders[0]? = some builder ∧
      builder.pipelines = Pipelines.manifests false ∧
      Effect.perform (Run.finalize 0) World.withDatedFlag =
        (.error (.compilation .schema root cause), after) ∧
      builder.manifestText? World.withDatedFlag.workspace.files .schema = none ∧
      builder.manifestText? after.workspace.files .schema = some "" := by
  obtain ⟨root, cause, failed⟩ := World.exists_of_failsIn World.withDatedFlag 0 .schema
    (by decide +kernel)
  have texts : World.withDatedFlag.builders[0]?.any (fun builder =>
      builder.pipelines = Pipelines.manifests false ∧
      builder.manifestText? World.withDatedFlag.workspace.files .schema = none ∧
      builder.manifestText? (Effect.perform (Run.finalize 0) World.withDatedFlag).2.workspace.files
        .schema = some "") = true := by
    decide +kernel
  obtain ⟨builder, found, same⟩ := (Option.any_eq_true _ _).mp texts
  have same := of_decide_eq_true same
  exact ⟨builder, root, cause, _, found, same.1, failed, same.2.1, same.2.2⟩

end SpecGraph
