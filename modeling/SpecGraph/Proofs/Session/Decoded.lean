import SpecGraph.Proofs.Session.Verdict
import SpecGraph.Proofs.World.Decoded

/-!
# What is read back of a build

Whatever was found below the spec root, a build that succeeds leaves three manifests that can be read. Without their
versions and ids they are what JSON makes of the declarations of the builder: the schemas, collections and dispatches
one after the other, in the order of the namespaces and then in that of their declaration, with all that was declared.
The two halves of a code point that escapes name one by one are read back as the code point.
-/

namespace SpecGraph

open Effect

/-- A graph is that of a builder which was populated by plain steps. -/
def Graph.IsPopulated (graph : Graph) : Prop :=
  ∃ files steps, Step.arePlain steps = true ∧
    ∃ world ∈ World.start files :: Session.moments (World.start files) steps,
      ∃ builder ∈ world.builders, builder.graph = graph

theorem Graph.IsPopulated.isPlain {graph : Graph} (populated : graph.IsPopulated) : graph.IsPlain := by
  rcases populated with ⟨files, steps, arePlain, world, worldMem, builder, builderMem, rfl⟩
  have obeys : Step.AllObey (.plain fun _ => True) steps := Step.allObey_of_arePlain steps arePlain fun _ _ => trivial
  have start := World.isPlain_start files
  have plain : world.IsPlain files [] := by
    rcases List.mem_cons.mp worldMem with rfl | isMoment
    · exact start
    · exact Session.good_of_mem_moments World.kept_isPlain obeys start world isMoment
  exact plain.graphs builder builderMem

section Finalizing

variable {world : World} {number : Nat} {builder : Builder} {allowBreaking : Bool}
  (found : world.builders[number]? = some builder) (populated : builder.graph.IsPopulated)
  (manifests : builder.pipelines = Pipelines.manifests allowBreaking)
  (texts : builder.FindsTexts world.workspace.files) (succeeds : (perform (Run.finalize number) world).1 = .ok ())
include found manifests succeeds

omit manifests in
/-- A builder that is finalized with success was open. -/
theorem Run.open_of_finalize : builder.frozen = false := by
  cases frozen : builder.frozen with
  | false => rfl
  | true =>
      rw [Run.perform_finalize_of_frozen found frozen] at succeeds
      cases succeeds

include populated texts

/-- Each manifest is read back, and without the numbers it is what JSON makes of the declarations. -/
theorem Builder.exists_decoded (stage : Stage) :
    ∃ text manifest,
      (perform (Run.finalize number) world).2.workspace.files.find? (builder.request stage).file =
        some (.file text) ∧
      Json.read (Files.readText text) = .ok manifest ∧
      manifest.without Manifest.numberNames = Json.reread Manifest.layout (builder.declared stage) ∧
      (builder.graph.toData.allTexts Text.isSettled = true →
        (manifest.without Manifest.numberNames).same (builder.declared stage) = true) := by
  rcases Run.perform_finalize_of_open found (Run.open_of_finalize found succeeds) with ⟨log, finalized⟩
  rw [finalized] at succeeds ⊢
  rcases Builder.exists_wrote manifests succeeds stage with ⟨version, items, text, wrote⟩
  have carries := wrote.carries manifests populated.isPlain texts
  rcases Manifest.read_written carries wrote.isText with ⟨unbroken, isRead⟩
  rw [← Files.readText_eq unbroken] at isRead
  have sorts : Manifest.layout.sorted = true := rfl
  have without := carries.reread_without sorts
  refine ⟨_, _, wrote.stands.found, isRead, without, fun settled => ?_⟩
  rw [without]
  exact carries.same_reread (Builder.allTexts_declared settled stage)

/-- After a build that succeeds, the manifests say what was declared. -/
theorem manifests_say_declared : ∀ stage, ∃ text manifest,
    (perform (Run.finalize number) world).2.workspace.files.find? (builder.request stage).file =
      some (.file text) ∧
    Json.read (Files.readText text) = .ok manifest ∧
    manifest.without Manifest.numberNames = Json.reread Manifest.layout (builder.declared stage) ∧
    (builder.graph.toData.allTexts Text.isSettled = true →
      (manifest.without Manifest.numberNames).same (builder.declared stage) = true) :=
  Builder.exists_decoded found populated manifests texts succeeds

end Finalizing

section Examples

open Session (Declares declared after_take_mem)
open History

theorem isPopulated_of_after {files : Files} {steps : List Step} (arePlain : Step.arePlain steps = true)
    {builder : Builder} (builderMem : builder ∈ (Session.after (World.start files) steps).builders) :
    builder.graph.IsPopulated := by
  refine ⟨files, steps, arePlain, _, ?_, builder, builderMem, rfl⟩
  have isMoment := after_take_mem steps.length steps (World.start files)
  rwa [List.take_length] at isMoment

/-- After some steps a builder is there to be built. -/
structure Session.Ready (steps : List Step) (number : Nat) (builder : Builder) : Prop where
  /-- The builder has the number. -/
  found : (declared steps).builders[number]? = some builder
  /-- The builder is open. -/
  isOpen : builder.frozen = false
  /-- The builder was populated. -/
  populated : builder.graph.IsPopulated
  /-- The builder has the usual roots. -/
  roots : builder.roots = specRoots
  /-- The builder writes manifests. -/
  manifests : builder.pipelines = Pipelines.manifests false
  /-- The builder finds texts. -/
  texts : builder.FindsTexts (declared steps).workspace.files

section Ready

variable {steps : List Step} {count number : Nat} (declares : Declares steps count)
include declares

theorem Session.Declares.exists_ready (there : number < count) : ∃ builder, Session.Ready steps number builder := by
  have canBuild := declares.canBuild (Nat.le_refl count)
  rcases canBuild.areOpen number (List.mem_range.mpr there) with ⟨builder, found, isOpen⟩
  have builderMem := List.mem_of_getElem? found
  refine ⟨builder, found, isOpen, isPopulated_of_after declares.plain builderMem, (canBuild.builds _ builderMem).1,
    (canBuild.builds _ builderMem).2, ?_⟩
  rw [declares.files]
  intro stage text isText
  cases isText

theorem Session.Declares.held : Manifests.empty.HeldBy (declared steps).workspace.files := by
  rw [declares.files]
  exact Manifests.heldBy_empty

/-- A builder whose stages succeed where nothing was built yet is finalized with success. -/
theorem Session.Declares.finalize_eq_ok {builder : Builder} (ready : Session.Ready steps number builder)
    (runs : [Stage.schema, .storage, .dispatch].all (builder.outcomeOn? .empty · = some true) = true) :
    (Effect.perform (Run.finalize number) (declared steps)).1 = .ok () := by
  rcases Run.perform_finalize_of_open ready.found ready.isOpen with ⟨log, finalized⟩
  rw [finalized]
  exact (declares.held.runAll_calls ready.populated.isPlain ⟨ready.roots, ready.manifests⟩ runs).2

end Ready

/-- A collection and its schema are built. -/
theorem manifests_say_declared_growing :
    ∃ world builder, world.builders[0]? = some builder ∧ builder.graph.IsPopulated ∧
      builder.pipelines = Pipelines.manifests false ∧ builder.FindsTexts world.workspace.files ∧
      (perform (Run.finalize 0) world).1 = .ok () ∧
      ∀ stage, ∃ text manifest,
        (perform (Run.finalize 0) world).2.workspace.files.find? (builder.request stage).file = some (.file text) ∧
        Json.read (Files.readText text) = .ok manifest ∧
        manifest.without Manifest.numberNames = Json.reread Manifest.layout (builder.declared stage) ∧
        (builder.graph.toData.allTexts Text.isSettled = true →
          (manifest.without Manifest.numberNames).same (builder.declared stage) = true) := by
  rcases declares_growing.exists_ready (by decide : 0 < 2) with ⟨builder, ready⟩
  have runs : (declared growing).builders[0]?.any (fun builder =>
      [Stage.schema, .storage, .dispatch].all (builder.outcomeOn? .empty · = some true)) = true := by
    decide +kernel
  rw [ready.found, Option.any_some] at runs
  have succeeds := declares_growing.finalize_eq_ok ready runs
  exact ⟨_, builder, ready.found, ready.populated, ready.manifests, ready.texts, succeeds,
    manifests_say_declared ready.found ready.populated ready.manifests ready.texts succeeds⟩

/-- The name of a schema is made of the two halves of a code point. -/
def halved : List Step := [making, .schema (.int 0) halves (.bool false) []]

theorem halved_told : Declares halved 1 ∧
    (declared halved).builders[0]?.any (fun builder =>
      [Stage.schema, .storage, .dispatch].all (builder.outcomeOn? .empty · = some true) &&
      !(Json.reread Manifest.layout (builder.declared .schema)).same (builder.declared .schema)) = true := by
  decide +kernel

theorem declares_halved : Declares halved 1 := halved_told.1

/-- The manifest of a schema whose name has the two halves of a code point has another name. -/
theorem manifest_says_other_halved :
    ∃ world builder, world.builders[0]? = some builder ∧ builder.graph.IsPopulated ∧
      builder.pipelines = Pipelines.manifests false ∧ builder.FindsTexts world.workspace.files ∧
      (perform (Run.finalize 0) world).1 = .ok () ∧
      ∃ text manifest,
        (perform (Run.finalize 0) world).2.workspace.files.find? (builder.request .schema).file = some (.file text) ∧
        Json.read (Files.readText text) = .ok manifest ∧
        (manifest.without Manifest.numberNames).same (builder.declared .schema) = false := by
  rcases declares_halved.exists_ready Nat.zero_lt_one with ⟨builder, ready⟩
  have evaluated := halved_told.2
  rw [ready.found, Option.any_some, Bool.and_eq_true, Bool.not_eq_true'] at evaluated
  have succeeds := declares_halved.finalize_eq_ok ready evaluated.1
  rcases Builder.exists_decoded ready.found ready.populated ready.manifests ready.texts succeeds .schema with
    ⟨text, manifest, there, isRead, without, _⟩
  exact ⟨_, builder, ready.found, ready.populated, ready.manifests, ready.texts, succeeds, text, manifest, there, isRead,
    without ▸ evaluated.2⟩

end Examples

end SpecGraph
