import SpecGraph.Proofs.Graph.Sources
import SpecGraph.Proofs.Manifest.Replay
import SpecGraph.Proofs.World.Plain

/-!
# Builds of several builders

A builder asks its stages to write what was declared in it, below the folders of its roots. When builders
are finalized in turn, each of them calls its stages up to one that fails, and nothing else acts on the file
tree. So the manifests can be followed from builder to builder, as they are held as plain data.
-/

namespace SpecGraph

/-- The roots that a builder writes its manifests under. -/
def Builder.roots (builder : Builder) : Roots :=
  ⟨builder.schemaRoot, builder.storageRoot, builder.dispatchRoot⟩

/-- A builder writes manifests under some roots and allows no breaking change. -/
def Builder.BuildsIn (roots : Roots) (builder : Builder) : Prop :=
  builder.roots = roots ∧ builder.pipelines = Pipelines.manifests false

instance (roots : Roots) (builder : Builder) : Decidable (builder.BuildsIn roots) :=
  inferInstanceAs (Decidable (_ ∧ _))

/-- Full names that are told apart stay so when their texts are joined. -/
def StageRequest.KeepsApart (request : StageRequest) : Prop :=
  ∀ first ∈ request.addresses, ∀ second ∈ request.addresses,
    Text.joined first = Text.joined second → first = second

instance (request : StageRequest) : Decidable request.KeepsApart :=
  inferInstanceAs (Decidable (∀ first ∈ request.addresses, ∀ second ∈ request.addresses, _))

namespace Builder

variable (builder : Builder) (plain : builder.graph.IsPlain)
include plain

/-- The full names of a request are told apart. -/
theorem addresses_request (stage : Stage) : (builder.request stage).addresses.Nodup := by
  cases stage with
  | schema =>
      have distinct := plain.schemaAddresses_nodup
      change (builder.graph.schemaSpecs.entries.map Manifest.schemaAddress).Nodup
      rw [plain.entries_schemaSpecs, List.map_map]
      exact distinct
  | storage =>
      have distinct := plain.collectionAddresses_nodup
      change (builder.graph.collectionSpecs.entries.map Manifest.collections.addressOf).Nodup
      rw [plain.entries_collectionSpecs, List.map_map]
      exact distinct
  | dispatch =>
      have distinct := plain.dispatchAddresses_nodup
      change (builder.graph.dispatchSpecs.entries.map Manifest.dispatches.addressOf).Nodup
      rw [Graph.entries_dispatchSpecs, List.map_map]
      exact distinct

/-- A stage is asked to write the declarations of a builder. -/
theorem isPlain_request (stage : Stage) : (builder.request stage).IsPlain builder.roots := by
  cases stage with
  | schema => exact .schema _ plain.entries_schemaSpecs plain.fieldsDistinct
  | storage => exact .storage _ plain.entries_collectionSpecs
  | dispatch => exact .dispatch _ Graph.entries_dispatchSpecs

end Builder

/-- The calls of a plain world write declarations whose full names are told apart. -/
theorem World.IsPlain.isPlain_call {files : Files} {made : List StageCall} {roots : Roots} {world : World}
    (plain : world.IsPlain files made) (builds : ∀ builder ∈ world.builders, builder.BuildsIn roots)
    (call : StageCall) (callMem : call ∈ world.calls) :
    call.IsPlain roots ∧ call.request.addresses.Nodup := by
  obtain ⟨builder, builderMem, graph, number, stage, isPlain, rfl⟩ := plain.calls call callMem
  obtain ⟨isRoots, manifests⟩ := builds builder builderMem
  obtain rfl := isRoots
  refine ⟨⟨?_, Builder.isPlain_request { builder with graph } isPlain stage⟩,
    Builder.addresses_request { builder with graph } isPlain stage⟩
  change builder.pipelines.ofStage stage = _
  rw [manifests]
  cases stage <;> rfl

namespace Builder

/-- What the stages of a builder are asked. -/
def requests (builder : Builder) : List StageRequest :=
  [builder.request .schema, builder.request .storage, builder.request .dispatch]

theorem map_request_calls (builder : Builder) (number : Nat) :
    (builder.calls number).map StageCall.request = builder.requests := rfl

/-- The calls of a builder write its declarations under the roots. -/
theorem isPlain_calls {builder : Builder} {roots : Roots} (plain : builder.graph.IsPlain)
    (builds : builder.BuildsIn roots) {number : Nat} {call : StageCall} (callMem : call ∈ builder.calls number) :
    call.request.IsPlain roots ∧ call.pipeline = .manifest false := by
  rcases builds with ⟨rfl, manifests⟩
  have pipelines (stage : Stage) : builder.pipelines.ofStage stage = .manifest false := by
    rw [manifests]
    cases stage <;> rfl
  rcases List.mem_cons.mp callMem with rfl | callMem
  · exact ⟨builder.isPlain_request plain .schema, pipelines .schema⟩
  rcases List.mem_cons.mp callMem with rfl | callMem
  · exact ⟨builder.isPlain_request plain .storage, pipelines .storage⟩
  · rw [List.mem_singleton] at callMem
    subst callMem
    exact ⟨builder.isPlain_request plain .dispatch, pipelines .dispatch⟩

/-- The calls that finalizing builders of some numbers makes if no stage fails. -/
def callsOf (builders : List Builder) (numbers : List Nat) : List StageCall :=
  numbers.flatMap fun number => (builders[number]?.map fun builder => builder.calls number).getD []

/-- The manifests after finalizing builders of some numbers in turn. -/
def follow? (builders : List Builder) : List Nat → Manifests → Option Manifests
  | [], manifests => some manifests
  | number :: rest, manifests => do
      let requests ← builders[number]?.map requests
      let (_, manifests) ← StageRequest.runAllOn? false requests manifests
      follow? builders rest manifests

theorem map_getElem?_freeze {α : Type} (image : Builder → α)
    (same : ∀ builder : Builder, image { builder with frozen := true } = image builder)
    (builders : List Builder) (number other : Nat) :
    (builders.modify number fun builder => { builder with frozen := true })[other]?.map image =
      builders[other]?.map image := by
  rw [← List.getElem?_map, map_modify same, List.getElem?_map]

/-- Freezing a builder changes none of the calls. -/
theorem callsOf_freeze (builders : List Builder) (number : Nat) (numbers : List Nat) :
    callsOf (builders.modify number fun builder => { builder with frozen := true }) numbers =
      callsOf builders numbers := by
  unfold callsOf
  simp only [map_getElem?_freeze (fun builder : Builder => builder.calls _) fun _ => rfl]

theorem follow?_freeze (builders : List Builder) (number : Nat) (numbers : List Nat)
    (manifests : Manifests) :
    follow? (builders.modify number fun builder => { builder with frozen := true }) numbers manifests =
      follow? builders numbers manifests := by
  induction numbers generalizing manifests with
  | nil => rfl
  | cons other rest ih =>
      unfold follow?
      simp only [map_getElem?_freeze requests fun _ => rfl, ih]

end Builder

namespace World

/-- The world after finalizing builders of some numbers in turn. -/
def afterFinalizing (world : World) (numbers : List Nat) : World :=
  numbers.foldl (fun world number => (Effect.perform (Run.finalize number) world).2) world

/-- Some builders can be finalized under some roots. -/
structure CanBuild (roots : Roots) (world : World) (numbers : List Nat) : Prop where
  /-- No builder is finalized twice. -/
  once : numbers.Nodup
  /-- The builders have plain graphs. -/
  graphs : ∀ builder ∈ world.builders, builder.graph.IsPlain
  /-- The builders write manifests under the roots. -/
  builds : ∀ builder ∈ world.builders, builder.BuildsIn roots
  /-- The builders are open. -/
  areOpen : ∀ number ∈ numbers, ∃ builder, world.builders[number]? = some builder ∧ builder.frozen = false

theorem mem_freeze {world : World} {number : Nat} {builder : Builder}
    (builderMem : builder ∈ (world.freeze number).builders) :
    ∃ earlier ∈ world.builders, builder.graph = earlier.graph ∧ builder.roots = earlier.roots ∧
      builder.pipelines = earlier.pipelines := by
  rcases mem_modify builderMem with inside | ⟨earlier, there, rfl⟩
  · exact ⟨builder, inside, rfl, rfl, rfl⟩
  · exact ⟨earlier, List.mem_of_getElem? there, rfl, rfl, rfl⟩

variable {roots : Roots} {world : World} {number : Nat} {rest : List Nat}

/-- Finalizing one of the builders calls its stages up to one that fails. -/
theorem CanBuild.perform_finalize (canBuild : world.CanBuild roots (number :: rest)) :
    ∃ builder ∈ world.builders, world.builders[number]? = some builder ∧ ∃ log,
      (Effect.perform (Run.finalize number) world).2 = (world.freeze number).afterCalls
        (StageCall.runAll (builder.calls number) world.workspace.files).2.1
        (StageCall.runAll (builder.calls number) world.workspace.files).2.2 log := by
  rcases canBuild.areOpen number List.mem_cons_self with ⟨builder, found, isOpen⟩
  rcases Run.perform_finalize_of_open found isOpen with ⟨log, performed⟩
  exact ⟨builder, List.mem_of_getElem? found, found, log, congrArg Prod.snd performed⟩

/-- After one of the builders is finalized the others can be. -/
theorem CanBuild.after (canBuild : world.CanBuild roots (number :: rest)) :
    CanBuild roots (Effect.perform (Run.finalize number) world).2 rest := by
  rcases canBuild.perform_finalize with ⟨_, _, _, log, after⟩
  rw [after]
  rcases List.nodup_cons.mp canBuild.once with ⟨notLater, once⟩
  refine ⟨once, ?_, ?_, ?_⟩
  · intro builder builderMem
    rcases mem_freeze builderMem with ⟨earlier, earlierMem, sameGraph, _⟩
    exact sameGraph ▸ canBuild.graphs earlier earlierMem
  · intro builder builderMem
    rcases mem_freeze builderMem with ⟨earlier, earlierMem, _, sameRoots, samePipelines⟩
    rcases canBuild.builds earlier earlierMem with ⟨isRoots, manifests⟩
    exact ⟨sameRoots.trans isRoots, samePipelines.trans manifests⟩
  · intro other otherMem
    rcases canBuild.areOpen other (List.mem_cons_of_mem _ otherMem) with ⟨builder, found, isOpen⟩
    have apart : number ≠ other := by
      rintro rfl
      exact notLater otherMem
    refine ⟨builder, ?_, isOpen⟩
    change (world.builders.modify number _)[other]? = _
    rw [List.getElem?_modify, found]
    simp [apart]

/-- All builders still write manifests under the roots after some of them are finalized. -/
theorem CanBuild.builds_afterFinalizing {numbers : List Nat} (canBuild : world.CanBuild roots numbers) :
    ∀ builder ∈ (world.afterFinalizing numbers).builders, builder.BuildsIn roots := by
  induction numbers generalizing world with
  | nil => exact canBuild.builds
  | cons number rest ih => exact ih canBuild.after

/-- The calls of builders that are finalized in turn are among those that they make if no stage fails. -/
theorem CanBuild.exists_calls {numbers : List Nat} (canBuild : world.CanBuild roots numbers) :
    ∃ made, (world.afterFinalizing numbers).calls = world.calls ++ made ∧
      made.Sublist (Builder.callsOf world.builders numbers) := by
  induction numbers generalizing world with
  | nil => exact ⟨[], (List.append_nil _).symm, List.Sublist.refl _⟩
  | cons number rest ih =>
      rcases ih canBuild.after with ⟨later, areLater, isSublist⟩
      rcases canBuild.perform_finalize with ⟨builder, _, found, log, after⟩
      have builders : (Effect.perform (Run.finalize number) world).2.builders =
          (world.freeze number).builders := by rw [after]; rfl
      have calls : (Effect.perform (Run.finalize number) world).2.calls = world.calls ++
          (StageCall.runAll (builder.calls number) world.workspace.files).2.1 := by rw [after]; rfl
      rw [builders, freeze, Builder.callsOf_freeze] at isSublist
      refine ⟨_, areLater.trans (by rw [calls, List.append_assoc]), ?_⟩
      rw [Builder.callsOf, List.flatMap_cons, found]
      exact (StageCall.runAll_prefix _ _).sublist.append isSublist

/-- The manifests are followed from builder to builder. -/
theorem CanBuild.heldBy {numbers : List Nat} {manifests next : Manifests}
    (canBuild : world.CanBuild specRoots numbers) (held : manifests.HeldBy world.workspace.files)
    (followed : Builder.follow? world.builders numbers manifests = some next) :
    next.HeldBy (world.afterFinalizing numbers).workspace.files := by
  induction numbers generalizing world manifests with
  | nil =>
      cases followed
      exact held
  | cons number rest ih =>
      rcases canBuild.perform_finalize with ⟨builder, builderMem, found, log, after⟩
      unfold Builder.follow? at followed
      rw [found, Option.map_some, Option.bind_eq_bind, Option.bind_some] at followed
      rcases Option.bind_eq_some_iff.mp followed with ⟨⟨count, between⟩, ran, others⟩
      have plain := canBuild.graphs builder builderMem
      have builds := canBuild.builds builder builderMem
      rw [← builder.map_request_calls number] at ran
      rcases held.runAll (fun call callMem => Builder.isPlain_calls plain builds callMem) ran with
        ⟨heldBetween, _⟩
      have heldAfter : between.HeldBy (Effect.perform (Run.finalize number) world).2.workspace.files := by
        rw [after]
        exact heldBetween
      have followedAfter : Builder.follow? (Effect.perform (Run.finalize number) world).2.builders rest
          between = some next := by
        rw [after]
        exact (Builder.follow?_freeze _ _ _ _).trans others
      exact ih canBuild.after heldAfter followedAfter

end World

end SpecGraph
