import SpecGraph.Proofs.Session.Moments
import SpecGraph.Proofs.World.Pending

/-!
# Which builders are pending in a program

At every point of a program it is known which builders are pending: those that were made since all were last forgotten,
but for the frozen ones and those whose block was left by an error. Only a pipeline that ends the process, and with it
the finalization of all waiting builders, takes those that were not reached out of the list.

Whatever a session does is such a program: commands, blocks and bodies are put together from the operations of
programs, and a session goes on after a step that fails. The moments of the session are points of the program, so what
is true at all points of all programs is true at the moments of all sessions.
-/

namespace SpecGraph

namespace Trace

variable {α β : Type} (trace : Trace α)

theorem points_subset_andThen (rest : α → Point → Trace β) : trace.points ⊆ (trace.andThen rest).points := by
  unfold andThen
  cases trace.outcome with
  | ok value => exact List.subset_append_left _ _
  | error error => exact List.Subset.refl _

theorem points_subset_orElse (handler : Error → Point → Trace α) : trace.points ⊆ (trace.orElse handler).points := by
  unfold orElse
  cases trace.outcome with
  | ok value => exact List.Subset.refl _
  | error error => exact List.subset_append_left _ _

end Trace

namespace Session

open Effect Run

section Programs

variable {α β : Type}

/-- An operation is a program, and the moments inside it are points of the program. -/
def IsProgram (inner : World → List World) (operation : Run α) : Prop :=
  ∃ program : World.Program (@KeepsFrame) α, program.run = operation ∧
    ∀ point : Point, inner point.world ⊆ (program.follow point).points.map Point.world

theorem IsProgram.mono {inner fewer : World → List World} {operation : Run α} (isProgram : IsProgram inner operation)
    (subset : ∀ world, fewer world ⊆ inner world) : IsProgram fewer operation := by
  rcases isProgram with ⟨program, same, inside⟩
  exact ⟨program, same, fun point => List.Subset.trans (subset point.world) (inside point)⟩

/-- A program without moments of its own. -/
theorem isProgram_run (program : World.Program (@KeepsFrame) α) : IsProgram (fun _ => []) program.run :=
  ⟨program, rfl, fun _ => List.nil_subset _⟩

theorem isProgram_of_keepsFrame {operation : Run α} (keeps : KeepsFrame operation) :
    IsProgram (fun _ => []) operation := isProgram_run (.other operation keeps)

/-- The moments after an operation are points of a way that goes on with them. -/
theorem momentsAfter_subset_andThen {inner : α → World → List World} {operation : Run α} {trace : Trace α}
    {rest : α → Point → Trace β} {world : World} (isOf : trace.IsOf operation world)
    (inside : ∀ value, inner value trace.last.world ⊆ (rest value trace.last).points.map Point.world) :
    momentsAfter operation world inner ⊆ (trace.andThen rest).points.map Point.world := by
  unfold Trace.IsOf at isOf
  rw [momentsAfter, isOf, Trace.andThen]
  cases trace.outcome with
  | ok value =>
      rw [List.map_append, List.map_cons]
      apply List.subset_append_of_subset_right
      exact List.cons_subset_cons _ (inside value)
  | error error => exact List.nil_subset _

/-- The moments of a chain are those of its first operation, and those after it. -/
theorem isProgram_append {before : World → List World} {inner : α → World → List World} {first : Run α}
    {next : α → Run β} (head : IsProgram before first) (rest : ∀ value, IsProgram (inner value) (next value)) :
    IsProgram (fun world => before world ++ momentsAfter first world inner) (first >>= next) := by
  rcases head with ⟨program, rfl, inside⟩
  choose others same insides using rest
  refine ⟨.next program others, congrArg (fun next => program.run >>= next) (funext same), fun point => ?_⟩
  apply List.append_subset.mpr
  constructor
  · exact List.Subset.trans (inside point) (List.map_subset _ (Trace.points_subset_andThen _ _))
  · exact momentsAfter_subset_andThen (program.isOf_follow point) fun value => insides value _

theorem isProgram_momentsAfter {inner : α → World → List World} {first : Run α} {next : α → Run β}
    (head : IsProgram (fun _ => []) first) (rest : ∀ value, IsProgram (inner value) (next value)) :
    IsProgram (fun world => momentsAfter first world inner) (first >>= next) := isProgram_append head rest

theorem IsProgram.bind {inner : World → List World} {first : Run α} {next : α → Run β} (head : IsProgram inner first)
    (rest : ∀ value, IsProgram (fun _ => []) (next value)) : IsProgram inner (first >>= next) :=
  (isProgram_append head rest).mono fun _ => List.subset_append_left _ _

theorem IsProgram.still {inner : World → List World} {first : Run α} {next : α → Run β} (head : IsProgram inner first)
    (rest : ∀ value, Still (next value)) : IsProgram inner (first >>= next) :=
  head.bind fun value => isProgram_of_keepsFrame (keepsFrame_of_still (rest value))

/-- A program that goes on after an error. -/
theorem IsProgram.caught {inner : World → List World} {operation : Run α} (isProgram : IsProgram inner operation) :
    IsProgram inner (tryCatch (discard operation) fun _ => pure () : Run Unit) := by
  have goesOn : KeepsFrame (pure () : Run Unit) := keepsFrame_of_still (still_pure _)
  rw [discard_eq]
  rcases isProgram.still fun _ => still_pure () with ⟨program, same, inside⟩
  refine ⟨.attempt program fun _ => .other _ goesOn, ?_, fun point => ?_⟩
  · rw [World.Program.run, same]
    rfl
  · exact List.Subset.trans (inside point) (List.map_subset _ (Trace.points_subset_orElse _ _))

/-- What comes after a chain of two comes after the second one. -/
theorem momentsAfter_bind_subset {γ : Type} (first : Run α) (second : α → Run γ) (inner : γ → World → List World)
    (world : World) :
    momentsAfter (first >>= second) world inner ⊆
      momentsAfter first world fun value after => momentsAfter (second value) after inner := by
  unfold momentsAfter
  rw [perform_bind]
  rcases Effect.perform first world with ⟨outcome, after⟩
  cases outcome with
  | ok value => exact List.subset_cons_self _ _
  | error error => exact List.nil_subset _

/-- The settings of a builder. -/
def settingsOf (spec : BuilderSpec) : Run Settings := do
  Run.ofExcept (Settings.load (← get).workspace.files spec.environment spec.settings)

theorem createFrom_eq (spec : BuilderSpec) :
    createFrom spec = settingsOf spec >>= fun settings => createBuilder spec.root settings spec.pipelines := rfl

theorem keepsFrame_settingsOf (spec : BuilderSpec) : KeepsFrame (settingsOf spec) :=
  keepsFrame_of_still (still_bind still_get fun _ => still_ofExcept _)

theorem isProgram_createFrom (spec : BuilderSpec) : IsProgram (fun _ => []) (createFrom spec) := by
  rw [createFrom_eq]
  apply (isProgram_of_keepsFrame (keepsFrame_settingsOf spec)).bind
  intro settings
  exact isProgram_run (.create spec.root settings spec.pipelines)

/-- The moments of a block are those after its builder was made. -/
theorem isProgram_block {inner : World → List World} {body : Run Unit} (isBody : IsProgram inner body)
    (spec : BuilderSpec) :
    IsProgram (fun world => momentsAfter (createFrom spec) world fun _ => inner)
      (createFrom spec >>= fun number => closeBlock number body) := by
  rw [createFrom_eq, bind_assoc]
  refine (isProgram_momentsAfter (isProgram_of_keepsFrame (keepsFrame_settingsOf spec)) fun settings => ?_).mono
    (momentsAfter_bind_subset _ _ _)
  rcases isBody with ⟨program, rfl, inside⟩
  refine ⟨.block spec.root settings spec.pipelines fun _ => program, rfl, fun point => ?_⟩
  apply momentsAfter_subset_andThen (Trace.isOf_carryOut point _ _)
  intro number
  apply List.Subset.trans (inside _)
  apply List.map_subset
  exact List.Subset.trans (Trace.points_subset_orElse _ _) (Trace.points_subset_andThen _ _)

theorem isProgram_of_kept {operation : Run α}
    (keeps : ∀ {good : World → Prop}, World.KeptByRegistering .any good → Keeps good operation) :
    IsProgram (fun _ => []) operation := isProgram_of_keepsFrame (keepsFrame_of_kept keeps)

end Programs

theorem isProgram_silent {operation : Run Unit} (isProgram : IsProgram (fun _ => []) operation) :
    IsProgram (fun _ => []) (Command.silent operation) := isProgram.still fun _ => still_pure _

theorem isProgram_command (command : Command) : IsProgram (fun _ => []) command.run := by
  cases registers : command.registers with
  | true => exact isProgram_of_kept fun kept => keeps_registering kept command.obeys_any registers
  | false =>
      cases command with
      | create spec => exact (isProgram_createFrom spec).still still_rootsData
      | finalize index =>
          apply isProgram_silent
          apply (isProgram_of_keepsFrame (keepsFrame_of_still (still_numberOf index))).bind
          intro number
          exact isProgram_run (.finalize number)
      | finalizeAll => exact isProgram_silent (isProgram_run .finalizeAll)
      | reset => exact isProgram_silent (isProgram_run .reset)
      | _ => cases registers

section Bodies

theorem isProgram_simple (ref : SchemaRef) (around : List SchemaRef) {action : Action}
    (isSimple : action.isSimple = true) : IsProgram (fun _ => []) (act ref around action) :=
  isProgram_of_kept fun kept => keeps_simple kept ref around action.obeys_any isSimple

mutual

/-- An action is a program that passes through the moments inside it. -/
theorem isProgram_act (ref : SchemaRef) (around : List SchemaRef) : ∀ action : Action,
    IsProgram (momentsIn ref around action) (act ref around action)
  | .field .. | .member .. | .tagged .. | .reference .. | .schema .. | .key _ | .compact _ | .giveUp _ =>
      isProgram_simple ref around rfl
  | .inline name body optional =>
      isProgram_momentsAfter (isProgram_of_kept fun kept => kept.keeps_declareNested ref fun _ _ => trivial)
        fun nested => (isProgram_actAll nested (ref :: around) body).bind fun _ =>
          isProgram_of_kept fun kept =>
            keeps_bind (kept.addField ref trivial (Or.inr trivial)) fun _ => keeps_relaxIf kept optional _
  | .outward body => by
      cases around with
      | nil => exact isProgram_of_keepsFrame (keepsFrame_of_still (still_throw _))
      | cons outer rest => exact isProgram_actAll outer rest body
  | .step step => by
      rw [act, discard_eq]
      exact (isProgram_take step).still fun _ => still_pure _

theorem isProgram_actAll (ref : SchemaRef) (around : List SchemaRef) : ∀ body : List Action,
    IsProgram (momentsInBody ref around body) (actAll ref around body)
  | [] => isProgram_of_keepsFrame (keepsFrame_of_still (still_pure _))
  | action :: rest => isProgram_append (isProgram_act ref around action) fun _ => isProgram_actAll ref around rest

/-- A step is a program that passes through the moments inside it. -/
theorem isProgram_take : ∀ step : Step, IsProgram (momentsInStep step) (take step)
  | .command command => isProgram_command command
  | .block spec steps => by
      unfold take
      rw [← bind_assoc]
      exact (isProgram_block (isProgram_takeAll steps) spec).still fun _ => still_pure _
  | .schema index name compact body => by
      unfold take
      rw [← bind_assoc]
      refine isProgram_momentsAfter ?_ fun ref => (isProgram_actAll ref [] body).still fun _ => still_schemaData ref
      exact isProgram_of_kept fun kept => keeps_bind (still_numberOf index).keeps fun _ =>
        kept.keeps_declareSchema _ _ trivial
  | .collection index name body => by
      unfold take
      rw [← bind_assoc]
      refine isProgram_momentsAfter ?_ fun ref => (isProgram_actAll ref [] body).still fun _ =>
        still_bind (still_collectionData ref) fun _ => still_bind (still_schemaData ref) fun _ => still_pure _
      exact isProgram_of_kept fun kept => keeps_bind (still_numberOf index).keeps fun _ =>
        kept.keeps_declareCollection _ _
  | .dispatch index name body => by
      unfold take
      rw [← bind_assoc]
      refine isProgram_momentsAfter ?_ fun opened => ?_
      · exact isProgram_of_kept fun kept => keeps_bind (still_numberOf index).keeps fun _ =>
          kept.keeps_openDispatch _ _
      · refine isProgram_momentsAfter (isProgram_of_kept fun kept => kept.addSchema _ trivial trivial) fun ref => ?_
        apply (isProgram_actAll ref [] body).bind
        intro _
        exact isProgram_of_kept fun kept => keeps_bind (kept.addDispatch _ _ trivial) fun _ =>
          (still_dispatchData _ _).keeps
  | .edit schema body => by
      have finds := isProgram_of_keepsFrame (keepsFrame_of_still (still_findSchema schema))
      refine isProgram_momentsAfter finds fun ref => ?_
      exact (isProgram_actAll ref [] body).still fun _ => still_schemaData ref

theorem isProgram_takeAll : ∀ steps : List Step, IsProgram (momentsInBlock steps) (takeAll steps)
  | [] => isProgram_of_keepsFrame (keepsFrame_of_still (still_pure _))
  | step :: rest => isProgram_append (isProgram_take step) fun _ => isProgram_takeAll rest

end

end Bodies

end Session

end SpecGraph
