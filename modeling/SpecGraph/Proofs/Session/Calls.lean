import SpecGraph.Proofs.Session.Moments
import SpecGraph.Proofs.World.Calls
import SpecGraph.Proofs.World.Program

/-!
# The calls of a session

A session passes from each of its moments to the next one by finalizing builders as they are at the moment, and by
declarations after that. This is shown by induction on bodies and steps, whether or not they fail. So a builder is
finalized at most once in a session, whatever asks for it: a command, the end of a block, or a command inside the
body of a declaration. It is the same with the points of a program, where an error may be caught anywhere.
-/

namespace SpecGraph

namespace Session

open Effect Run

section Passing

variable {α β : Type}

/-- Every moment is passed to from the one before it, and the last world from the last moment. -/
def Passes : World → List World → World → Prop
  | world, [], last => world.PassedFrom last
  | world, moment :: rest, last => world.PassedFrom moment ∧ Passes moment rest last

theorem Passes.append {world between last : World} {first second : List World} (head : Passes world first between)
    (rest : Passes between second last) : Passes world (first ++ between :: second) last := by
  induction first generalizing world with
  | nil => exact ⟨head, rest⟩
  | cons moment others ih => exact ⟨head.1, ih head.2⟩

/-- Builders may be finalized at the last moment if this is the last world. -/
theorem Passes.finalize {world last after : World} {moments : List World} (passes : Passes world moments last)
    (isLast : (world :: moments).getLast? = some last) (built : World.BuiltFrom last after) :
    Passes world moments after := by
  induction moments generalizing world with
  | nil =>
      obtain rfl : world = last := Option.some.inj isLast
      exact ⟨after, built, .refl after⟩
  | cons moment rest ih =>
      rw [List.getLast?_cons_cons] at isLast
      exact ⟨passes.1, ih passes.2 isLast⟩

/-- An operation only declares. -/
def OnlyDeclares (operation : Run α) : Prop := ∀ before : World, Keeps before.DeclaredFrom operation

theorem onlyDeclares_of_still {operation : Run α} (still : Still operation) : OnlyDeclares operation :=
  fun _ => still.keeps

/-- An operation that keeps all that declaring keeps only declares. -/
theorem onlyDeclares_of_kept {operation : Run α}
    (keeps : ∀ {good : World → Prop}, World.KeptByDeclaring .any good → Keeps good operation) :
    OnlyDeclares operation :=
  fun before => keeps (World.keptByDeclaring_declaredFrom before)

theorem onlyDeclares_bind {first : Run α} {next : α → Run β} (head : OnlyDeclares first)
    (rest : ∀ value, OnlyDeclares (next value)) : OnlyDeclares (first >>= next) :=
  fun before => keeps_bind (head before) fun value => rest value before

theorem OnlyDeclares.passedFrom {operation : Run α} (declares : OnlyDeclares operation) (world : World) :
    world.PassedFrom (Effect.perform operation world).2 :=
  ⟨world, .refl world, declares world world (.refl world)⟩

/-- Declarations may come after the last moment. -/
theorem OnlyDeclares.keeps {operation : Run α} (declares : OnlyDeclares operation) (world : World)
    (moments : List World) : Keeps (Passes world moments) operation := by
  induction moments generalizing world with
  | nil =>
      intro last passes
      rcases passes with ⟨between, built, declared⟩
      exact ⟨between, built, declares between last declared⟩
  | cons moment rest ih => exact fun last passes => ⟨passes.1, ih moment last passes.2⟩

/-- An operation passes through the moments inside it. -/
def PassesThrough (inner : World → List World) (operation : Run α) : Prop :=
  ∀ world, Passes world (inner world) (Effect.perform operation world).2

theorem OnlyDeclares.passesThrough {operation : Run α} (declares : OnlyDeclares operation) :
    PassesThrough (fun _ => []) operation := declares.passedFrom

theorem PassesThrough.bind {inner : World → List World} {first : Run α} {next : α → Run β}
    (head : PassesThrough inner first) (rest : ∀ value, OnlyDeclares (next value)) :
    PassesThrough inner (first >>= next) :=
  fun world => good_bind (head world) fun value => (rest value).keeps world (inner world)

theorem passesThrough_momentsAfter {inner : α → World → List World} {first : Run α} {next : α → Run β}
    (head : OnlyDeclares first) (rest : ∀ value, PassesThrough (inner value) (next value)) :
    PassesThrough (fun world => momentsAfter first world inner) (first >>= next) := by
  intro world
  have passed := head.passedFrom world
  dsimp only
  rw [perform_bind, momentsAfter]
  rcases performed : Effect.perform first world with ⟨outcome, after⟩
  rw [performed] at passed
  cases outcome with
  | ok value => exact ⟨passed, rest value after⟩
  | error error => exact passed

/-- The moments of a chain are those of its first operation, and those after it. -/
theorem passesThrough_append {before : World → List World} {inner : α → World → List World} {first : Run α}
    {next : α → Run β} (head : PassesThrough before first) (rest : ∀ value, PassesThrough (inner value) (next value)) :
    PassesThrough (fun world => before world ++ momentsAfter first world inner) (first >>= next) := by
  intro world
  have passes := head world
  dsimp only
  rw [perform_bind, momentsAfter]
  rcases performed : Effect.perform first world with ⟨outcome, after⟩
  rw [performed] at passes
  cases outcome with
  | ok value => exact passes.append (rest value after)
  | error error =>
      rw [List.append_nil]
      exact passes

end Passing

section Bodies

/-- The world after steps that do not fail is the last moment inside them. -/
theorem getLast_momentsInBlock {steps : List Step} {world last : World}
    (performed : Effect.perform (takeAll steps) world = (.ok (), last)) :
    (world :: momentsInBlock steps world).getLast? = some last := by
  induction steps generalizing world with
  | nil =>
      cases performed
      rfl
  | cons step rest ih =>
      rcases exists_of_perform_bind performed with ⟨value, between, taken, others⟩
      rw [momentsInBlock, momentsAfter, taken]
      dsimp only
      rw [← List.cons_append, List.getLast?_append, ih others]
      rfl

/-- A block finalizes its builder as it is at the last moment inside the block, or not at all. -/
theorem PassesThrough.closeBlock {steps : List Step} (passes : PassesThrough (momentsInBlock steps) (takeAll steps))
    (number : Nat) : PassesThrough (momentsInBlock steps) (Run.closeBlock number (takeAll steps)) := by
  intro world
  have passed := passes world
  unfold Run.closeBlock
  rw [perform_bind, perform_tryCatch]
  rcases performed : Effect.perform (takeAll steps) world with ⟨outcome, last⟩
  rw [performed] at passed
  cases outcome with
  | ok => exact passed.finalize (getLast_momentsInBlock performed) (builtFrom_finalize number last)
  | error error =>
      have abandons : OnlyDeclares (do abandon number; throw error : Run Unit) :=
        onlyDeclares_bind (onlyDeclares_of_kept fun kept => kept.keeps_abandon number) fun _ =>
          onlyDeclares_of_still (still_throw _)
      exact abandons.keeps world _ last passed

theorem passesThrough_command (command : Command) : PassesThrough (fun _ => []) command.run := by
  cases finalizes : command.finalizes with
  | false =>
      have declares := onlyDeclares_of_kept fun kept => keeps_declaring kept command.obeys_any finalizes
      exact declares.passesThrough
  | true =>
      intro world
      refine ⟨(Effect.perform command.run world).2, ?_, .refl _⟩
      cases command with
      | finalize index =>
          rw [Command.run, Command.silent, state_bind_of_still world fun _ => still_pure _]
          exact (still_numberOf index).good_bind (.refl world) fun number _ => builtFrom_finalize number world
      | finalizeAll =>
          rw [Command.run, Command.silent, state_bind_of_still world fun _ => still_pure _]
          exact builtFrom_finalizeAll world
      | _ => cases finalizes

theorem onlyDeclares_simple (ref : SchemaRef) (around : List SchemaRef) {action : Action}
    (isSimple : action.isSimple = true) : OnlyDeclares (act ref around action) :=
  onlyDeclares_of_kept fun kept => keeps_simple kept.toKeptByRegistering ref around action.obeys_any isSimple

mutual

/-- An action passes through the moments inside it. -/
theorem passesThrough_act (ref : SchemaRef) (around : List SchemaRef) : ∀ action : Action,
    PassesThrough (momentsIn ref around action) (act ref around action)
  | .field .. | .member .. | .tagged .. | .reference .. | .schema .. | .key _ | .compact _ | .giveUp _ =>
      (onlyDeclares_simple ref around rfl).passesThrough
  | .inline name body optional =>
      passesThrough_momentsAfter
        (onlyDeclares_of_kept fun kept => kept.keeps_declareNested ref fun _ _ => trivial) fun nested =>
          (passesThrough_actAll nested (ref :: around) body).bind fun _ =>
            onlyDeclares_bind (onlyDeclares_of_kept fun kept => kept.addField ref trivial (Or.inr trivial)) fun _ =>
              onlyDeclares_of_kept fun kept => keeps_relaxIf kept.toKeptByRegistering optional _
  | .outward body => by
      cases around with
      | nil => exact (onlyDeclares_of_still (still_throw _)).passesThrough
      | cons outer rest => exact passesThrough_actAll outer rest body
  | .step step => by
      rw [act, discard_eq]
      exact (passesThrough_take step).bind fun _ => onlyDeclares_of_still (still_pure _)

theorem passesThrough_actAll (ref : SchemaRef) (around : List SchemaRef) : ∀ body : List Action,
    PassesThrough (momentsInBody ref around body) (actAll ref around body)
  | [] => (onlyDeclares_of_still (still_pure _)).passesThrough
  | action :: rest =>
      passesThrough_append (passesThrough_act ref around action) fun _ => passesThrough_actAll ref around rest

/-- A step passes through the moments inside it. -/
theorem passesThrough_take : ∀ step : Step, PassesThrough (momentsInStep step) (take step)
  | .command command => passesThrough_command command
  | .block spec steps =>
      passesThrough_momentsAfter (onlyDeclares_of_kept fun kept => keeps_createFrom kept spec) fun number =>
          ((passesThrough_takeAll steps).closeBlock number).bind fun _ => onlyDeclares_of_still (still_pure _)
  | .schema index name compact body => by
      unfold take
      rw [← bind_assoc]
      refine passesThrough_momentsAfter ?_ fun ref => (passesThrough_actAll ref [] body).bind fun _ =>
        onlyDeclares_of_still (still_schemaData ref)
      exact onlyDeclares_bind (onlyDeclares_of_still (still_numberOf index)) fun _ =>
        onlyDeclares_of_kept fun kept => kept.keeps_declareSchema _ _ trivial
  | .collection index name body => by
      unfold take
      rw [← bind_assoc]
      refine passesThrough_momentsAfter ?_ fun ref => (passesThrough_actAll ref [] body).bind fun _ => ?_
      · exact onlyDeclares_bind (onlyDeclares_of_still (still_numberOf index)) fun _ =>
          onlyDeclares_of_kept fun kept => kept.keeps_declareCollection _ _
      · exact onlyDeclares_of_still (still_bind (still_collectionData ref) fun _ =>
          still_bind (still_schemaData ref) fun _ => still_pure _)
  | .dispatch index name body => by
      unfold take
      rw [← bind_assoc]
      refine passesThrough_momentsAfter ?_ fun opened => ?_
      · exact onlyDeclares_bind (onlyDeclares_of_still (still_numberOf index)) fun _ =>
          onlyDeclares_of_kept fun kept => kept.keeps_openDispatch _ _
      · refine passesThrough_momentsAfter (onlyDeclares_of_kept fun kept => kept.addSchema _ trivial trivial)
          fun ref => (passesThrough_actAll ref [] body).bind fun _ => ?_
        exact onlyDeclares_bind (onlyDeclares_of_kept fun kept => kept.addDispatch _ _ trivial) fun _ =>
          onlyDeclares_of_still (still_dispatchData _ _)
  | .edit schema body =>
      passesThrough_momentsAfter (onlyDeclares_of_still (still_findSchema schema)) fun ref =>
        (passesThrough_actAll ref [] body).bind fun _ => onlyDeclares_of_still (still_schemaData ref)

theorem passesThrough_takeAll : ∀ steps : List Step, PassesThrough (momentsInBlock steps) (takeAll steps)
  | [] => (onlyDeclares_of_still (still_pure _)).passesThrough
  | step :: rest => passesThrough_append (passesThrough_take step) fun _ => passesThrough_takeAll rest

end

theorem passes_moments (steps : List Step) (world : World) : ∃ last, Passes world (moments world steps) last := by
  induction steps generalizing world with
  | nil => exact ⟨world, .refl world⟩
  | cons step rest ih =>
      rcases ih (perform world step).2 with ⟨last, passes⟩
      exact ⟨last, Passes.append (passesThrough_take step world) passes⟩

end Bodies

section Programs

variable {α β : Type}

/-- A way passes through its points, from a world to its end. -/
def PassesBy (world : World) (trace : Trace α) : Prop :=
  Passes world (trace.points.map Point.world) trace.last.world

theorem PassesBy.andThen {world : World} {trace : Trace α} {rest : α → Point → Trace β} (head : PassesBy world trace)
    (tail : ∀ value, PassesBy trace.last.world (rest value trace.last)) : PassesBy world (trace.andThen rest) := by
  unfold Trace.andThen
  cases trace.outcome with
  | ok value =>
      unfold PassesBy
      rw [List.map_append, List.map_cons]
      exact head.append (tail value)
  | error error => exact head

theorem PassesBy.orElse {world : World} {trace : Trace α} {handler : Error → Point → Trace α}
    (head : PassesBy world trace) (tail : ∀ error, PassesBy trace.last.world (handler error trace.last)) :
    PassesBy world (trace.orElse handler) := by
  unfold Trace.orElse
  cases trace.outcome with
  | ok value => exact head
  | error error =>
      unfold PassesBy
      rw [List.map_append, List.map_cons]
      exact head.append (tail error)

theorem passesBy_leave (number : Nat) (error : Error) (point : Point) :
    PassesBy point.world (Point.leave number error point) := by
  have declares : OnlyDeclares (abandon number) := onlyDeclares_of_kept fun kept => kept.keeps_abandon number
  exact declares.passedFrom point.world

/-- A program passes through its points. -/
theorem passesBy_follow (program : World.Program (@KeepsFrame) α) (point : Point) :
    PassesBy point.world (program.follow point) := by
  induction program generalizing point with
  | other operation keeps => exact ⟨_, .refl _, World.declaredFrom_of_frame (keeps point.world.frame point.world rfl)⟩
  | create root settings pipelines =>
      exact (onlyDeclares_of_kept fun kept => kept.keeps_createBuilder root settings pipelines).passedFrom point.world
  | block root settings pipelines body ih =>
      have makes := onlyDeclares_of_kept fun kept => kept.keeps_createBuilder root settings pipelines
      have made : PassesBy point.world (point.make root settings pipelines) := makes.passedFrom point.world
      refine made.andThen fun number => PassesBy.andThen ?_ fun _ => ?_
      · exact (ih number _).orElse fun error => passesBy_leave number error _
      · exact ⟨_, builtFrom_finalize number _, .refl _⟩
  | finalize number => exact ⟨_, builtFrom_finalize number _, .refl _⟩
  | finalizeAll => exact ⟨_, builtFrom_finalizeAll _, .refl _⟩
  | reset => exact (onlyDeclares_of_kept fun kept => kept.keeps_reset).passedFrom point.world
  | next first rest ihFirst ihRest => exact (ihFirst point).andThen fun value => ihRest value _
  | attempt body handler ihBody ihHandler => exact (ihBody point).orElse fun error => ihHandler error _

end Programs

section Once

/-- A builder has no calls and is open if it is there. -/
def IsUnbuilt (number : Nat) (moment : World) : Prop :=
  moment.callsFor number = [] ∧ ∀ builder, moment.builders[number]? = some builder → builder.frozen = false

/-- A builder was built at one of some moments, before which it had no calls. -/
def WasBuilt (number : Nat) (earlier : List World) (moment : World) : Prop :=
  ∃ before ∈ earlier, before.callsFor number = [] ∧ ∃ builder made, World.IsBuilt number builder made before moment

/-- A builder that was not built when a moment is passed to was not built before, or is not built then. -/
theorem built_of_passedFrom {number : Nat} {earlier : List World} {moment next : World}
    (fate : IsUnbuilt number moment ∨ WasBuilt number earlier moment) (passed : moment.PassedFrom next) :
    IsUnbuilt number next ∨ WasBuilt number (earlier ++ [moment]) next := by
  rcases fate with ⟨none, isOpen⟩ | ⟨before, beforeMem, none, builder, made, built⟩
  · rcases passed.spared_or_built number with spared | ⟨builder, made, built⟩
    · refine Or.inl ⟨spared.calls.trans none, fun builder found => ?_⟩
      cases there : moment.builders[number]? with
      | none => exact spared.isOpen builder there found
      | some previous =>
          rcases spared.builder previous there with ⟨graph, same⟩
          rw [found] at same
          cases same
          exact isOpen previous there
    · exact Or.inr ⟨moment, List.mem_append_right _ List.mem_cons_self, none, builder, made, built⟩
  · refine Or.inr ⟨before, List.mem_append_left _ beforeMem, none, builder, made, ?_⟩
    rcases passed.spared_or_built number with spared | ⟨other, _, again⟩
    · exact built.later spared.builder passed.calls_prefix spared.calls
    · -- the builder is frozen already, so it is not built again
      rcases built.frozen with ⟨graph, frozen⟩
      have isOpen := again.isOpen
      rw [again.found] at frozen
      cases frozen
      cases isOpen

/-- At every moment that is passed to, a builder is unbuilt or was built at an earlier one. -/
theorem built_of_passes {number : Nat} {earlier moments : List World} {world last : World}
    (passes : Passes world moments last) (fate : IsUnbuilt number world ∨ WasBuilt number earlier world)
    {first rest : List World} {moment : World} (split : world :: moments = first ++ moment :: rest) :
    IsUnbuilt number moment ∨ WasBuilt number (earlier ++ first) moment := by
  induction moments generalizing world earlier first with
  | nil =>
      cases first with
      | nil =>
          cases split
          rwa [List.append_nil]
      | cons other others => simp at split
  | cons next others ih =>
      cases first with
      | nil =>
          cases split
          rwa [List.append_nil]
      | cons other before =>
          rcases List.cons.inj split with ⟨rfl, later⟩
          have further := ih passes.2 (built_of_passedFrom fate passes.1) later
          rwa [List.append_assoc, List.singleton_append] at further

/-- At a moment after some others every builder has no calls and is open if it is there, or it is frozen and has the
calls of one finalization. It was open then, with the roots and the pipelines that it still has, and the calls are those
of its own stages, in order and up to one that fails: each but the last one succeeded on the file tree that it found. -/
def IsBuiltOnce (earlier : List World) (moment : World) : Prop :=
  ∀ number,
    (moment.callsFor number = [] ∧
      ∀ builder, moment.builders[number]? = some builder → builder.frozen = false) ∨
    ∃ before ∈ earlier, ∃ builder graph made,
      before.builders[number]? = some builder ∧ builder.frozen = false ∧ before.callsFor number = [] ∧
      moment.builders[number]? = some { builder with graph, frozen := true } ∧
      before.calls ++ made ++ moment.callsFor number <+: moment.calls ∧
      moment.callsFor number = (StageCall.runAll (builder.calls number)
        (StageCall.replay before.workspace.files made)).2.1 ∧
      moment.callsFor number <+:
        [builder.call number .schema, builder.call number .storage, builder.call number .dispatch] ∧
      ∀ first call next rest, moment.callsFor number = first ++ call :: next :: rest →
        (call.action (StageCall.replay before.workspace.files (made ++ first))).1 = .ok ()

theorem isBuiltOnce_of_passes {files : Files} {moments : List World} {last : World}
    (passes : Passes (World.start files) moments last) {earlier later : List World} {moment : World}
    (split : World.start files :: moments = earlier ++ moment :: later) : IsBuiltOnce earlier moment := by
  intro number
  have fresh : IsUnbuilt number (World.start files) := ⟨rfl, fun _ found => by cases found⟩
  have fate := built_of_passes passes (Or.inl fresh : _ ∨ WasBuilt number [] _) split
  rw [List.nil_append] at fate
  refine fate.imp_right fun ⟨before, beforeMem, noCalls, builder, made, built⟩ => ?_
  rcases built.frozen with ⟨graph, frozen⟩
  have callsFor := built.callsFor
  rw [noCalls, List.nil_append] at callsFor
  refine ⟨before, beforeMem, builder, graph, made, built.found, built.isOpen, noCalls, frozen, ?_, callsFor, ?_, ?_⟩
  · rw [callsFor]
    exact built.calls
  · rw [callsFor]
    exact StageCall.runAll_prefix _ _
  · intro first call next rest inside
    rw [callsFor] at inside
    rw [StageCall.replay_append]
    exact StageCall.returned_runAll inside

/-- A block whose body fails drops its builder, and does nothing else. -/
theorem perform_closeBlock_of_error {number : Nat} {declarations : Run Unit} {opened last : World} {error : Error}
    (failed : Effect.perform declarations opened = (.error error, last)) :
    Effect.perform (closeBlock number declarations) opened =
      (.error error, { last with waiting := last.waiting.erase number }) := by
  unfold closeBlock
  refine perform_bind_of_error ?_
  rw [perform_tryCatch, failed]
  rfl

/-- At every moment of a session every builder was built once, or is still open, and so at every point of a program,
which may catch errors anywhere. A block that fails calls nothing when it is left. -/
theorem built_once (files : Files) (steps : List Step) :
    (∀ earlier moment later, World.start files :: moments (World.start files) steps = earlier ++ moment :: later →
      IsBuiltOnce earlier moment) ∧
    (∀ spec inner world number opened error last, Effect.perform (createFrom spec) world = (.ok number, opened) →
      Effect.perform (takeAll inner) opened = (.error error, last) →
        perform world (.block spec inner) = (.error error, { last with waiting := last.waiting.erase number })) ∧
    (∀ (α : Type) (program : World.Program (@KeepsFrame) α) earlier point later,
      program.points files = earlier ++ point :: later → IsBuiltOnce (earlier.map Point.world) point.world) ∧
    ∀ root settings pipelines (body : Nat → World.Program (@KeepsFrame) Unit) world number opened error last,
      Effect.perform (createBuilder root settings pipelines) world = (.ok number, opened) →
      Effect.perform (body number).run opened = (.error error, last) →
        Effect.perform (World.Program.block root settings pipelines body).run world =
          (.error error, { last with waiting := last.waiting.erase number }) := by
  refine ⟨?_, ?_, ?_, ?_⟩
  · intro earlier moment later split
    rcases passes_moments steps (World.start files) with ⟨last, passes⟩
    exact isBuiltOnce_of_passes passes split
  · intro spec inner world number opened error last made failed
    change Effect.perform (take (.block spec inner)) world = _
    unfold take
    rw [perform_bind_of_ok made]
    exact perform_bind_of_error (perform_closeBlock_of_error failed)
  · intro α program earlier point later split
    have ended : Passes (program.trace files).last.world [] (program.trace files).last.world := .refl _
    have passes := Passes.append (passesBy_follow program ⟨[], World.start files⟩) ended
    have worlds := congrArg (List.map Point.world) split
    rw [List.map_append, List.map_cons, World.Program.points, List.cons_append, List.map_cons,
      List.map_append] at worlds
    exact isBuiltOnce_of_passes passes worlds
  · intro root settings pipelines body world number opened error last made failed
    exact (perform_bind_of_ok made).trans (perform_closeBlock_of_error failed)

/-- A builder is finalized in the body of its own schema, which fails with its second stage, and again later. -/
def reentering : List Step :=
  [.command (.create ⟨.text "spec", [], [], some ⟨.record, .refuse "no", .record⟩⟩),
    .schema (.int 0) (.text "a") (.bool false) [.step (.command (.finalize (.int 0)))],
    .command (.finalize (.int 0)), .command .finalizeAll]

theorem built_once_reentering :
    ∃ before ∈ World.start ⟨[], []⟩ :: moments (World.start ⟨[], []⟩) reentering, ∃ builder,
      before.builders[0]? = some builder ∧ builder.frozen = false ∧
      (after (World.start ⟨[], []⟩) reentering).callsFor 0 <+:
        [builder.call 0 .schema, builder.call 0 .storage, builder.call 0 .dispatch] ∧
      ((after (World.start ⟨[], []⟩) reentering).callsFor 0).length = 2 := by
  have length : ((after (World.start ⟨[], []⟩) reentering).callsFor 0).length = 2 := by decide +kernel
  have isMoment := after_take_mem 4 reentering (World.start ⟨[], []⟩)
  rcases List.append_of_mem isMoment with ⟨earlier, later, split⟩
  rcases (built_once ⟨[], []⟩ reentering).1 earlier _ later split 0 with
    ⟨none, _⟩ | ⟨before, beforeMem, builder, graph, made, found, isOpen, _, _, _, _, isPrefix, _⟩
  · rw [show reentering.take 4 = reentering from rfl] at none
    rw [none] at length
    cases length
  · refine ⟨before, ?_, builder, found, isOpen, isPrefix, length⟩
    rw [split]
    exact List.mem_append_left _ beforeMem

end Once

end Session

end SpecGraph
