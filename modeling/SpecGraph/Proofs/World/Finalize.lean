import SpecGraph.Proofs.Manifest.Plan
import SpecGraph.World.Finalize

/-!
# What finalizing does to the world

A builder that is finalized is frozen, and its stages are called one after the other up to one that fails.
Each call is added to the calls of the world and acts on the file tree. Nothing else of the world changes
but the log. So the file tree is at any time what the calls made of it, one after the other.
-/

namespace SpecGraph

/-- What the pipeline of a stage does is told by the file tree. -/
theorem Pipeline.actsAs_run (pipeline : Pipeline) (request : StageRequest) :
    (pipeline.run request).ActsAs (pipeline.run request).action := by
  cases pipeline with
  | manifest allowBreaking => exact (request.actsAs_writeManifest allowBreaking).eq_action
  | record => exact fun _ => rfl
  | refuse message => exact fun _ => rfl
  | other carryOut => exact (Job.actsAs_ofAction (carryOut request)).eq_action

namespace StageCall

/-- What a call does to the file tree, and whether it fails. -/
def action (call : StageCall) : Files → Except Error Unit × Files :=
  (call.pipeline.run call.request).action

/-- The error of a build in which a call fails. -/
def failure (call : StageCall) (cause : Error) : Error :=
  if cause.endsProcess then cause else .compilation call.request.stage call.request.target.text cause

theorem failure_of_endsProcess {call : StageCall} {cause : Error} (ends : cause.endsProcess = true) :
    call.failure cause = cause := if_pos ends

theorem failure_of_not_endsProcess {call : StageCall} {cause : Error} (goesOn : cause.endsProcess = false) :
    call.failure cause = .compilation call.request.stage call.request.target.text cause :=
  if_neg (Bool.not_eq_true _ ▸ goesOn)

/-- What ends a build ends the process exactly if its cause does. -/
theorem endsProcess_failure (call : StageCall) (cause : Error) :
    (call.failure cause).endsProcess = cause.endsProcess := by
  cases ends : cause.endsProcess with
  | true => rw [failure_of_endsProcess ends, ends]
  | false => rw [failure_of_not_endsProcess ends]; rfl

/-- The outcome of calls up to one that fails, with the calls that were made and the file tree after
them. -/
def runAll : List StageCall → Files → Except Error Unit × List StageCall × Files
  | [], files => (.ok (), [], files)
  | call :: rest, files =>
      match call.action files with
      | (.ok (), after) => ((runAll rest after).1, call :: (runAll rest after).2.1, (runAll rest after).2.2)
      | (.error cause, after) => (.error (call.failure cause), [call], after)

/-- A call and those after it succeed exactly if it does and they do on the file tree that it leaves. -/
theorem runAll_cons_eq_ok_iff (call : StageCall) (rest : List StageCall) (files : Files) :
    (runAll (call :: rest) files).1 = .ok () ↔
      (call.action files).1 = .ok () ∧ (runAll rest (call.action files).2).1 = .ok () := by
  rw [runAll]
  rcases call.action files with ⟨outcome, after⟩
  cases outcome <;> simp

/-- A build ends with a call, or the call succeeds and the build goes on with the file tree that it leaves. -/
theorem runAll_cons_files (call : StageCall) (rest : List StageCall) (files : Files) :
    (runAll (call :: rest) files).2.2 = (call.action files).2 ∨
      (call.action files).1 = .ok () ∧
        (runAll (call :: rest) files).2.2 = (runAll rest (call.action files).2).2.2 := by
  rw [runAll]
  rcases call.action files with ⟨outcome, after⟩
  cases outcome with
  | ok => exact Or.inr ⟨rfl, rfl⟩
  | error => exact Or.inl rfl

/-- The file tree after calls. -/
def replay (files : Files) (calls : List StageCall) : Files :=
  calls.foldl (fun files call => (call.action files).2) files

theorem replay_append (files : Files) (earlier later : List StageCall) :
    replay files (earlier ++ later) = replay (replay files earlier) later :=
  List.foldl_append

/-- The file tree after running calls is the one after the calls that were made. -/
theorem replay_runAll (calls : List StageCall) (files : Files) :
    replay files (runAll calls files).2.1 = (runAll calls files).2.2 := by
  induction calls generalizing files with
  | nil => rfl
  | cons call rest ih =>
      rw [runAll]
      rcases acted : call.action files with ⟨outcome, after⟩
      cases outcome with
      | ok =>
          change replay (call.action files).2 (runAll rest after).2.1 = (runAll rest after).2.2
          rw [acted]
          exact ih after
      | error cause =>
          change (call.action files).2 = after
          rw [acted]

/-- If no call fails, all are made. -/
theorem runAll_files_of_ok {calls : List StageCall} {files : Files} (succeeds : (runAll calls files).1 = .ok ()) :
    (runAll calls files).2.2 = replay files calls := by
  induction calls generalizing files with
  | nil => rfl
  | cons call rest ih =>
      have others := ((runAll_cons_eq_ok_iff call rest files).mp succeeds).2
      rw [runAll] at succeeds ⊢
      change _ = replay (call.action files).2 rest
      rw [← ih others]
      rcases acted : call.action files with ⟨outcome, after⟩
      rw [acted] at succeeds
      cases outcome with
      | ok => rfl
      | error cause => cases succeeds

/-- The calls that were made are the first ones. -/
theorem runAll_prefix (calls : List StageCall) (files : Files) :
    (runAll calls files).2.1 <+: calls := by
  induction calls generalizing files with
  | nil => exact List.prefix_refl []
  | cons call rest ih =>
      rw [runAll]
      rcases call.action files with ⟨outcome, after⟩
      cases outcome with
      | ok => exact (List.prefix_cons_inj call).mpr (ih after)
      | error cause => exact (List.prefix_cons_inj call).mpr List.nil_prefix

/-- The call that fails comes after calls that do not, and the error names its stage. -/
theorem runAll_failed {calls made : List StageCall} {files after : Files} {error : Error}
    (failed : runAll calls files = (.error error, made, after)) :
    ∃ earlier call rest cause, calls = earlier ++ call :: rest ∧
      call.action (replay files earlier) = (.error cause, after) ∧ error = call.failure cause := by
  induction calls generalizing files made with
  | nil => cases failed
  | cons call rest ih =>
      rw [runAll] at failed
      rcases acted : call.action files with ⟨outcome, middle⟩
      rw [acted] at failed
      cases outcome with
      | ok =>
          have tail : runAll rest middle = (.error error, (runAll rest middle).2.1, after) :=
            Prod.ext (congrArg Prod.fst failed :)
              (Prod.ext rfl (congrArg (fun result => result.2.2) failed :))
          obtain ⟨earlier, other, others, cause, split, fails, isError⟩ := ih tail
          refine ⟨call :: earlier, other, others, cause, by rw [split]; rfl, ?_, isError⟩
          change other.action (replay (call.action files).2 earlier) = _
          rw [acted]
          exact fails
      | error cause =>
          cases failed
          exact ⟨[], call, rest, cause, rfl, acted, rfl⟩

end StageCall

namespace Builder

/-- The call of a stage of a builder. -/
def call (builder : Builder) (number : Nat) (stage : Stage) : StageCall :=
  ⟨number, builder.pipelines.ofStage stage, builder.request stage⟩

/-- The calls that finalizing a builder makes. -/
def calls (builder : Builder) (number : Nat) : List StageCall :=
  [builder.call number .schema, builder.call number .storage, builder.call number .dispatch]

@[simp]
theorem stage_call (builder : Builder) (number : Nat) (stage : Stage) :
    (builder.call number stage).request.stage = stage := by
  cases stage <;> rfl

end Builder

namespace World

/-- The world after some calls, with a file tree and a log. -/
def afterCalls (world : World) (made : List StageCall) (files : Files) (log : List LogRecord) : World :=
  { world with calls := world.calls ++ made, workspace := ⟨files, log⟩ }

/-- The world in which the builder of a number is frozen. -/
def freeze (world : World) (number : Nat) : World :=
  { world with builders := world.builders.modify number fun builder => { builder with frozen := true } }

end World

namespace Run

open Effect

theorem perform_ofJob {α : Type} (job : Job α) (world : World) :
    perform (ofJob job) world =
      ((perform job world.workspace).1, { world with workspace := (perform job world.workspace).2 }) := by
  unfold ofJob
  rw [perform_bind_of_ok (perform_get _)]
  unfold perform
  rcases job.run.run world.workspace with ⟨outcome, workspace⟩
  cases outcome <;> rfl

theorem perform_record (level : Level) (logger message : String) (world : World) :
    ∃ log, perform (record level logger message) world =
      (.ok (), world.afterCalls [] world.workspace.files log) := by
  refine ⟨world.workspace.log ++ [⟨level, logger, message⟩], ?_⟩
  rw [World.afterCalls, List.append_nil]
  exact perform_ofJob _ _

/-- A stage of a builder is called once, and acts on the file tree. -/
theorem perform_callStage (number : Nat) (builder : Builder) (stage : Stage) (world : World) :
    ∃ log, perform (callStage number builder stage) world =
      (match ((builder.call number stage).action world.workspace.files).1 with
        | .ok _ => .ok ()
        | .error cause => .error ((builder.call number stage).failure cause),
        world.afterCalls [builder.call number stage]
          ((builder.call number stage).action world.workspace.files).2 log) := by
  obtain ⟨log, logged⟩ := perform_record .info Logger.registry ("Running " ++ stage.name ++
    " pipeline into " ++ (builder.request stage).target.text) world
  have acts := (builder.call number stage).pipeline.actsAs_run (builder.call number stage).request
    ⟨world.workspace.files, log⟩
  unfold callStage
  rw [perform_bind_of_ok logged, perform_bind_of_ok (perform_modify _ _), perform_tryCatch,
    perform_ofJob]
  rcases ran : perform ((builder.pipelines.ofStage stage).run (builder.request stage))
    (world.afterCalls [] world.workspace.files log).workspace with ⟨outcome, workspace⟩
  have acted : (builder.call number stage).action world.workspace.files =
      (outcome, workspace.files) := by
    have performed : perform ((builder.call number stage).pipeline.run
        (builder.call number stage).request) ⟨world.workspace.files, log⟩ = (outcome, workspace) := ran
    rw [performed] at acts
    exact acts.symm
  have calls : (world.afterCalls [] world.workspace.files log).calls = world.calls :=
    List.append_nil _
  rw [acted]
  cases outcome with
  | ok value => exact ⟨workspace.log, by simp only [calls]; rfl⟩
  | error cause =>
      dsimp only
      cases ends : cause.endsProcess with
      | true =>
          refine ⟨workspace.log, ?_⟩
          simp only [calls]
          rw [StageCall.failure_of_endsProcess ends]
          rfl
      | false =>
          obtain ⟨after, told⟩ := perform_record .error Logger.registry (stage.name ++
            " pipeline failed for " ++ builder.specRoot.text ++ ": " ++ cause.message)
            (world.afterCalls [builder.call number stage] workspace.files workspace.log)
          refine ⟨after, ?_⟩
          simp only [calls]
          refine (perform_bind_of_ok told).trans ?_
          rw [perform_throw, StageCall.failure_of_not_endsProcess ends, Builder.stage_call]
          simp [World.afterCalls]
          rfl

theorem afterCalls_afterCalls (world : World) (first second : List StageCall) (files after : Files)
    (log later : List LogRecord) :
    (world.afterCalls first files log).afterCalls second after later =
      world.afterCalls (first ++ second) after later := by
  simp [World.afterCalls]

/-- Stages of a builder, called one after the other. -/
def callStages (number : Nat) (builder : Builder) : List Stage → Run Unit
  | [] => pure ()
  | stage :: rest => do
      callStage number builder stage
      callStages number builder rest

/-- Stages are called up to one that fails. -/
theorem perform_callStages (number : Nat) (builder : Builder) (stages : List Stage) (world : World) :
    ∃ log, perform (callStages number builder stages) world =
      ((StageCall.runAll (stages.map (builder.call number)) world.workspace.files).1,
        world.afterCalls (StageCall.runAll (stages.map (builder.call number)) world.workspace.files).2.1
          (StageCall.runAll (stages.map (builder.call number)) world.workspace.files).2.2 log) := by
  induction stages generalizing world with
  | nil => exact ⟨world.workspace.log, by simp [callStages, StageCall.runAll, perform_pure,
      World.afterCalls]⟩
  | cons stage rest ih =>
      obtain ⟨log, called⟩ := perform_callStage number builder stage world
      rw [List.map_cons, StageCall.runAll, callStages]
      rcases acted : (builder.call number stage).action world.workspace.files with ⟨outcome, files⟩
      rw [acted] at called
      cases outcome with
      | error cause => exact ⟨log, perform_bind_of_error called⟩
      | ok =>
          obtain ⟨last, others⟩ := ih (world.afterCalls [builder.call number stage] files log)
          rw [afterCalls_afterCalls] at others
          exact ⟨last, (perform_bind_of_ok called).trans others⟩

/-- A builder that is frozen is not finalized. -/
theorem perform_finalize_of_frozen {number : Nat} {builder : Builder} {world : World}
    (found : world.builders[number]? = some builder) (frozen : builder.frozen = true) :
    perform (finalize number) world =
      (.error (.frozen .finalize builder.specRoot.text), world) := by
  have here : perform (Run.builder number) world = (.ok builder, world) := by
    unfold Run.builder
    rw [perform_bind_of_ok (perform_get _), found]
    rfl
  unfold finalize
  rw [perform_bind_of_ok here, frozen]
  rfl

/-- Finalizing an open builder freezes it and calls its stages up to one that fails. -/
theorem perform_finalize_of_open {number : Nat} {builder : Builder} {world : World}
    (found : world.builders[number]? = some builder) (isOpen : builder.frozen = false) :
    ∃ log, perform (finalize number) world =
      ((StageCall.runAll (builder.calls number) world.workspace.files).1,
        (world.freeze number).afterCalls
          (StageCall.runAll (builder.calls number) world.workspace.files).2.1
          (StageCall.runAll (builder.calls number) world.workspace.files).2.2 log) := by
  have here : perform (Run.builder number) world = (.ok builder, world) := by
    unfold Run.builder
    rw [perform_bind_of_ok (perform_get _), found]
    rfl
  obtain ⟨log, announced⟩ := perform_record .info Logger.registry (announcement builder)
    (world.freeze number)
  obtain ⟨last, called⟩ := perform_callStages number builder [.schema, .storage, .dispatch]
    ((world.freeze number).afterCalls [] world.workspace.files log)
  rw [afterCalls_afterCalls] at called
  have stages : callStages number builder [.schema, .storage, .dispatch] = (do
      callStage number builder .schema
      callStage number builder .storage
      callStage number builder .dispatch) := by
    simp [callStages]
  rw [stages] at called
  refine ⟨last, ?_⟩
  unfold finalize
  rw [perform_bind_of_ok here, isOpen]
  refine (perform_bind_of_ok (perform_modify _ _)).trans ?_
  exact (perform_bind_of_ok announced).trans called

/-- A number without a builder is not finalized. -/
theorem perform_finalize_of_none {number : Nat} {world : World}
    (absent : world.builders[number]? = none) :
    perform (finalize number) world = (.error .noBuilder, world) := by
  have here : perform (Run.builder number) world = (.error .noBuilder, world) := by
    unfold Run.builder
    rw [perform_bind_of_ok (perform_get _), absent]
    rfl
  exact perform_bind_of_error here

end Run

end SpecGraph
