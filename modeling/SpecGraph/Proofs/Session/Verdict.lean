import SpecGraph.Proofs.Session.Persistence
import SpecGraph.Proofs.World.Verdict
import SpecGraph.Proofs.World.Spaces

/-!
# What the reports on a declared builder foretell

The graph of a builder that was populated by declarations is plain, and its paths have no empty segments. So the
builder is finalized with success exactly if it has no problems and the changes from the manifests are compatible,
under the spec roots that such builders leave behind. The two halves of a code point that escapes name one by one are
read back as the code point: a stage then looks for a name that the schema stage has written otherwise, which neither
report foretells.
-/

namespace SpecGraph

open Effect

/-- A builder was populated by plain steps in which no name of a nested schema has an empty segment. -/
def Builder.IsDeclared (builder : Builder) : Prop :=
  ∃ files steps, Step.arePlain steps = true ∧ (∀ name ∈ Step.allNestedNames steps, Name.IsWhole name) ∧
    ∃ world ∈ World.start files :: Session.moments (World.start files) steps, builder ∈ world.builders

namespace Builder.IsDeclared

variable {builder : Builder}

theorem isPlain (declared : builder.IsDeclared) : builder.graph.IsPlain := by
  rcases declared with ⟨files, steps, arePlain, _, world, worldMem, builderMem⟩
  have obeys : Step.AllObey (.plain fun _ => True) steps := Step.allObey_of_arePlain steps arePlain fun _ _ => trivial
  have start := World.isPlain_start files
  have plain : world.IsPlain files [] := by
    rcases List.mem_cons.mp worldMem with rfl | isMoment
    · exact start
    · exact Session.good_of_mem_moments World.kept_isPlain obeys start world isMoment
  exact plain.graphs builder builderMem

theorem isWhole (declared : builder.IsDeclared) : builder.graph.IsWhole := by
  rcases declared with ⟨files, steps, arePlain, names, world, worldMem, builderMem⟩
  have obeys : Step.AllObey (.plain Name.IsWhole) steps := Step.allObey_of_arePlain steps arePlain names
  have start : (World.start files).Holds (.plain Name.IsWhole) Namespace.IsWhole := World.holds_start files
  have holds : world.Holds (.plain Name.IsWhole) Namespace.IsWhole := by
    rcases List.mem_cons.mp worldMem with rfl | isMoment
    · exact start
    · exact Session.good_of_mem_moments Namespace.kept_isWhole.kept obeys start world isMoment
  exact (holds.graphs builder builderMem).spaces

end Builder.IsDeclared

section Finalizing

variable {world : World} {number : Nat} {builder : Builder} (found : world.builders[number]? = some builder)
  (declared : builder.IsDeclared) (isOpen : builder.frozen = false)
  (manifests : builder.pipelines = Pipelines.manifests false)
  (canWrite : builder.CanWrite number world.workspace.files)
  (left : builder.FindsLeft Builder.IsDeclared world.workspace.files)
include found declared isOpen manifests canWrite left

/-- Finalizing a declared builder, with success or not, leaves manifests that were left by declared builders. -/
theorem findsLeft_finalize :
    builder.FindsLeft Builder.IsDeclared (perform (Run.finalize number) world).2.workspace.files := by
  rcases Run.perform_finalize_of_open found isOpen with ⟨log, finalized⟩
  rw [finalized]
  exact left.runAll declared manifests canWrite

/-- A declared builder is finalized with success exactly if it has no problems and the changes from the manifests are
compatible. -/
theorem finalize_foretold (settled : builder.graph.IsSettled) :
    (perform (Run.finalize number) world).1 = .ok () ↔
      builder.graph.problems = .ok [] ∧
      ∃ changes, (perform (Run.ofJob builder.changes) world).1 = .ok changes ∧
        Manifest.isCompatible changes = true := by
  have reported : (perform (Run.ofJob builder.changes) world).1 = builder.changesIn world.workspace.files := by
    rw [Run.perform_ofJob]
    exact congrArg Prod.fst (builder.tells_changes world.workspace)
  have compatible (changes : List Change) : Manifest.isCompatible changes = true ↔ Manifest.breaking changes = [] :=
    List.isEmpty_iff
  rcases Run.perform_finalize_of_open found isOpen with ⟨log, finalized⟩
  rw [finalized, reported]
  simp only [compatible]
  exact Builder.runAll_calls_eq_ok_iff_reports manifests declared.isPlain canWrite
    (fun _ isDeclared => isDeclared.isPlain) declared.isWhole settled left

end Finalizing

section PlainManifests

/-- Whether a stage that follows on earlier ones succeeds, if these do and everything has a JSON form. -/
def Builder.outcomeOn? (builder : Builder) (manifests : Manifests) (stage : Stage) : Option Bool := do
  let (count, between) ← StageRequest.runAllOn? false (stage.earlier.map builder.request) manifests
  if count = stage.earlier.length then ((builder.request stage).runOn? false between).map Prod.fst else none

variable {manifests : Manifests} {files : Files} (held : manifests.HeldBy files)
include held

/-- A stage that can be followed on plain manifests does not open its file for a manifest without a text. -/
theorem Manifests.HeldBy.not_empties {request : StageRequest} (isPlain : request.IsPlain specRoots)
    {outcome : Bool × Manifests} (ran : request.runOn? false manifests = some outcome) :
    ¬request.Empties false files := by
  rintro ⟨version, entries, _, fault, planned, _, noText⟩
  rw [held.plan_eq isPlain] at planned
  unfold StageRequest.runOn? at ran
  rw [planned] at ran
  dsimp only at ran
  split at ran
  · next form =>
      rcases Json.write_read (Json.isRegular_sortedLines 2) (Json.isTree_of_hasForm form) (by decide) with
        ⟨text, written, _⟩
      cases written.symm.trans noText
  · cases ran

variable {builder : Builder} (plain : builder.graph.IsPlain) (builds : builder.BuildsIn specRoots) {number : Nat}
include plain builds

/-- The manifests that a stage finds are those that the earlier ones leave on plain manifests. -/
theorem Manifests.HeldBy.filesBefore {stage : Stage} {between : Manifests}
    (ran : StageRequest.runAllOn? false (stage.earlier.map builder.request) manifests =
      some (stage.earlier.length, between)) : between.HeldBy (builder.filesBefore number files stage) := by
  have arePlain : ∀ call ∈ stage.earlier.map (builder.call number),
      call.request.IsPlain specRoots ∧ call.pipeline = .manifest false := by
    have callMem (earlier : Stage) : builder.call number earlier ∈ builder.calls number := by
      cases earlier <;> simp [Builder.calls]
    exact List.forall_mem_map.mpr fun earlier _ => Builder.isPlain_calls plain builds (callMem earlier)
  have requests : (stage.earlier.map (builder.call number)).map StageCall.request =
      stage.earlier.map builder.request := by
    rw [List.map_map]
    rfl
  rcases held.runAll arePlain (by rwa [requests]) with ⟨heldBetween, made⟩
  rw [← StageCall.replay_runAll, made, List.take_of_length_le (List.length_map _).le] at heldBetween
  exact heldBetween

/-- A stage whose outcome can be followed on plain manifests can write its manifest, and has this outcome. -/
theorem Manifests.HeldBy.outcomeOn {stage : Stage} {done : Bool}
    (followed : builder.outcomeOn? manifests stage = some done) :
    builder.CanWriteAt number files stage ∧ (builder.Succeeds number files stage ↔ done = true) := by
  unfold Builder.outcomeOn? at followed
  rcases Option.bind_eq_some_iff.mp followed with ⟨⟨count, between⟩, ranEarlier, followed⟩
  dsimp only at followed
  split at followed
  case isFalse => cases followed
  next isCount =>
  subst isCount
  rcases Option.map_eq_some_iff.mp followed with ⟨⟨_, next⟩, ran, rfl⟩
  have heldBetween : between.HeldBy (builder.filesBefore number files stage) :=
    held.filesBefore plain builds ranEarlier
  have isPlain : (builder.request stage).IsPlain specRoots := builds.1 ▸ builder.isPlain_request plain stage
  rcases exists_opened?_specRoots heldBetween.folders (builder.request stage).stage with ⟨opened, isOpened, _⟩
  refine ⟨⟨?_, heldBetween.not_empties isPlain ran⟩, ?_⟩
  · rw [Manifests.file_of_isPlain isPlain, isOpened]
    exact Option.some_ne_none _
  · rw [Builder.Succeeds, Builder.action_call builds.2]
    exact (heldBetween.action isPlain ran).2

/-- A builder whose stages succeed on plain manifests can write its manifests, and is built with success. -/
theorem Manifests.HeldBy.runAll_calls
    (each : [Stage.schema, .storage, .dispatch].all (builder.outcomeOn? manifests · = some true) = true) :
    builder.CanWrite number files ∧ (StageCall.runAll (builder.calls number) files).1 = .ok () := by
  have outcome (stage : Stage) : builder.outcomeOn? manifests stage = some true :=
    of_decide_eq_true (List.all_eq_true.mp each stage (by cases stage <;> decide))
  refine ⟨fun stage _ => (held.outcomeOn plain builds (outcome stage)).1, ?_⟩
  exact (builder.runAll_calls_eq_ok_iff number files).mpr fun stage =>
    (held.outcomeOn plain builds (outcome stage)).2.mpr rfl

end PlainManifests

section Examples

open Session (Declares declared after_take_mem)
open History

theorem isDeclared_of_after {files : Files} {steps : List Step} (arePlain : Step.arePlain steps = true)
    (names : ∀ name ∈ Step.allNestedNames steps, Name.IsWhole name) {builder : Builder}
    (builderMem : builder ∈ (Session.after (World.start files) steps).builders) : builder.IsDeclared := by
  refine ⟨files, steps, arePlain, names, _, ?_, builderMem⟩
  have isMoment := after_take_mem steps.length steps (World.start files)
  rwa [List.take_length] at isMoment

/-- Builders with the same roots find the same manifests. -/
theorem Builder.FindsLeft.of_roots {such : Builder → Prop} {first second : Builder} {files : Files}
    (same : second.roots = first.roots) (left : first.FindsLeft such files) : second.FindsLeft such files := by
  have sameFile (stage : Stage) : (second.request stage).file = (first.request stage).file := by
    cases stage with
    | schema => exact congrArg (Roots.file · .schema) same
    | storage => exact congrArg (Roots.file · .storage) same
    | dispatch => exact congrArg (Roots.file · .dispatch) same
  exact fun stage => sameFile stage ▸ left stage

theorem getElem?_finalize {world : World} {number other : Nat} {builder : Builder} (apart : number ≠ other)
    (found : world.builders[number]? = some builder) (isOpen : builder.frozen = false) :
    (perform (Run.finalize number) world).2.builders[other]? = world.builders[other]? := by
  rcases Run.perform_finalize_of_open found isOpen with ⟨log, finalized⟩
  rw [finalized]
  change (world.builders.modify number _)[other]? = _
  rw [List.getElem?_modify]
  simp [apart]

/-- A collection is built, and then it is built again with another optional field and with a dispatch besides it. -/
theorem finalize_foretold_growing :
    ∃ world builder, world.builders[1]? = some builder ∧ builder.IsDeclared ∧
      builder.FindsLeft Builder.IsDeclared world.workspace.files ∧
      specRoots.persisted? world.workspace.files = some grownOnce ∧
      (perform (Run.finalize 1) world).1 = .ok () ∧ builder.graph.problems = .ok [] ∧
      ∃ changes, (perform (Run.ofJob builder.changes) world).1 = .ok changes ∧
        Manifest.isCompatible changes = true := by
  have canBuild : (declared growing).CanBuild specRoots [0, 1] := declares_growing.canBuild (Nat.le_refl 2)
  rcases canBuild.areOpen 0 (by decide) with ⟨first, foundFirst, firstOpen⟩
  rcases canBuild.areOpen 1 (by decide) with ⟨second, foundSecond, secondOpen⟩
  have firstMem := List.mem_of_getElem? foundFirst
  have secondMem := List.mem_of_getElem? foundSecond
  have isDeclared (builder : Builder) (builderMem : builder ∈ (declared growing).builders) : builder.IsDeclared :=
    isDeclared_of_after declares_growing.plain (by decide) builderMem
  have evaluated : (declared growing).builders[0]?.any (fun first => (declared growing).builders[1]?.any fun second =>
      [Stage.schema, .storage, .dispatch].all (first.outcomeOn? .empty · = some true) &&
      (Builder.follow? (declared growing).builders [0] .empty).any fun manifests =>
        manifests.persisted? = some grownOnce && decide second.graph.IsSettled &&
        [Stage.schema, .storage, .dispatch].all (second.outcomeOn? manifests · = some true)) = true := by
    decide +kernel
  rw [foundFirst, Option.any_some, foundSecond, Option.any_some, Bool.and_eq_true] at evaluated
  rcases evaluated with ⟨firstRuns, evaluated⟩
  rcases (Option.any_eq_true _ _).mp evaluated with ⟨manifests, followed, evaluated⟩
  simp only [Bool.and_eq_true, decide_eq_true_eq] at evaluated
  rcases evaluated with ⟨⟨isGrown, settled⟩, secondRuns⟩
  have fresh : Manifests.empty.HeldBy (declared growing).workspace.files := by
    rw [declares_growing.files]
    exact Manifests.heldBy_empty
  have absent : first.FindsLeft Builder.IsDeclared (declared growing).workspace.files := by
    rw [declares_growing.files]
    exact fun stage => ⟨none, .absent, rfl⟩
  have start : (declared growing).CanBuild specRoots [0] := declares_growing.canBuild (by decide : 1 ≤ 2)
  -- From here on nothing is computed from the declarations.
  generalize declared growing = world at *
  have firstCanWrite : first.CanWrite 0 world.workspace.files :=
    (fresh.runAll_calls (canBuild.graphs first firstMem) (canBuild.builds first firstMem) firstRuns).1
  have left := findsLeft_finalize foundFirst (isDeclared first firstMem) firstOpen (canBuild.builds first firstMem).2
    firstCanWrite absent
  have secondLeft := left.of_roots
    ((canBuild.builds second secondMem).1.trans (canBuild.builds first firstMem).1.symm)
  have held := start.heldBy fresh followed
  rw [World.afterFinalizing, List.foldl_cons, List.foldl_nil] at held
  have found : (perform (Run.finalize 0) world).2.builders[1]? = some second :=
    (getElem?_finalize (by decide) foundFirst firstOpen).trans foundSecond
  rcases held.runAll_calls (canBuild.graphs second secondMem) (canBuild.builds second secondMem) secondRuns with
    ⟨canWrite, succeeds⟩
  have finalized : (perform (Run.finalize 1) (perform (Run.finalize 0) world).2).1 = .ok () := by
    rcases Run.perform_finalize_of_open found secondOpen with ⟨log, finalized⟩
    rw [finalized]
    exact succeeds
  have foretold := (finalize_foretold found (isDeclared second secondMem) secondOpen
    (canBuild.builds second secondMem).2 canWrite secondLeft settled).mp finalized
  exact ⟨_, second, found, isDeclared second secondMem, secondLeft, held.persisted?_eq.trans isGrown, finalized,
    foretold⟩

/-- The requests of a dispatch have a schema whose name is made of the two halves of a code point. -/
def halving : List Step :=
  [making, .schema (.int 0) halves (.bool false) [], .command (.dispatchTo (.int 0) (.text "put") halves)]

theorem halving_told : Declares halving 1 ∧
    (declared halving).builders[0]?.any (fun builder =>
      builder.outcomeOn? .empty .schema = some true && builder.outcomeOn? .empty .storage = some true &&
      builder.outcomeOn? .empty .dispatch = some false && builder.graph.problems.toOption = some [] &&
      (perform (Run.ofJob builder.changes) (declared halving)).1.toOption.any Manifest.isCompatible) = true := by
  decide +kernel

theorem declares_halving : Declares halving 1 := halving_told.1

/-- A builder without problems and with compatible changes that cannot be finalized: the dispatch stage does not find
the schema under the name that is read back. -/
theorem finalize_unforetold_halving :
    ∃ world builder, world.builders[0]? = some builder ∧ builder.IsDeclared ∧ builder.frozen = false ∧
      builder.pipelines = Pipelines.manifests false ∧ builder.CanWrite 0 world.workspace.files ∧
      builder.FindsLeft Builder.IsDeclared world.workspace.files ∧
      builder.graph.problems = .ok [] ∧
      (∃ changes, (perform (Run.ofJob builder.changes) world).1 = .ok changes ∧
        Manifest.isCompatible changes = true) ∧
      (perform (Run.finalize 0) world).1 ≠ .ok () := by
  have canBuild : (declared halving).CanBuild specRoots [0] := declares_halving.canBuild (Nat.le_refl 1)
  rcases canBuild.areOpen 0 (by decide) with ⟨builder, found, isOpen⟩
  have builderMem := List.mem_of_getElem? found
  have evaluated := halving_told.2
  rw [found, Option.any_some] at evaluated
  simp only [Bool.and_eq_true, decide_eq_true_eq] at evaluated
  rcases evaluated with ⟨⟨⟨⟨ofSchema, ofStorage⟩, ofDispatch⟩, isValid⟩, compatible⟩
  have fresh : Manifests.empty.HeldBy (declared halving).workspace.files := by
    rw [declares_halving.files]
    exact Manifests.heldBy_empty
  have outcome {stage : Stage} {done : Bool} (ran : builder.outcomeOn? .empty stage = some done) :
      builder.CanWriteAt 0 (declared halving).workspace.files stage ∧
        (builder.Succeeds 0 (declared halving).workspace.files stage ↔ done = true) :=
    fresh.outcomeOn (canBuild.graphs builder builderMem) (canBuild.builds builder builderMem) ran
  refine ⟨_, builder, found, isDeclared_of_after declares_halving.plain (by decide) builderMem, isOpen,
    (canBuild.builds builder builderMem).2, fun stage _ => ?_, ?_, eq_ok_of_toOption isValid, ?_, ?_⟩
  · cases stage with
    | schema => exact (outcome ofSchema).1
    | storage => exact (outcome ofStorage).1
    | dispatch => exact (outcome ofDispatch).1
  · rw [declares_halving.files]
    exact fun stage => ⟨none, .absent, rfl⟩
  · rcases (Option.any_eq_true _ _).mp compatible with ⟨changes, told, areCompatible⟩
    exact ⟨changes, eq_ok_of_toOption told, areCompatible⟩
  · rcases Run.perform_finalize_of_open found isOpen with ⟨log, finalized⟩
    rw [finalized]
    intro succeeds
    have last := (builder.runAll_calls_eq_ok_iff 0 (declared halving).workspace.files).mp succeeds .dispatch
    exact absurd ((outcome ofDispatch).2.mp last) Bool.false_ne_true

end Examples

end SpecGraph
