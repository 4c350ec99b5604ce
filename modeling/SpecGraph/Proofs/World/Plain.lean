import SpecGraph.Proofs.Graph.Plain
import SpecGraph.Proofs.World.Finalize
import SpecGraph.World.Declare

/-!
# Plain worlds

In a plain world the graphs of all builders are plain, every call was made for a builder of the world with a
plain graph, and the file tree is what the calls made of it. An operation that only looks at the world leaves
it as it is. One that changes a namespace keeps the world plain if the namespace stays plain.
-/

namespace SpecGraph

/-- The graphs of all builders are plain and were plain in all calls, the first of which are given, and the
file tree is what the calls made of it. -/
structure World.IsPlain (files : Files) (made : List StageCall) (world : World) : Prop where
  /-- The graphs of the builders are plain. -/
  graphs : ∀ builder ∈ world.builders, builder.graph.IsPlain
  /-- A call was made for a builder with the graph that it had at the time. -/
  calls : ∀ call ∈ world.calls, ∃ builder ∈ world.builders, ∃ graph : Graph, ∃ number stage,
    graph.IsPlain ∧ call = Builder.call { builder with graph } number stage
  /-- The file tree is what the calls made of it. -/
  files : world.workspace.files = StageCall.replay files world.calls
  /-- The given calls are the first ones. -/
  kept : made <+: world.calls

/-- The namespace that a reference denotes. -/
def World.space? (world : World) (ref : SpaceRef) : Option Namespace :=
  match ref.owner with
  | .builder number => world.builders[number]?.bind fun builder => builder.graph.space? ref.name
  | .nobody number => world.loose[number]?

/-- The schema that a reference denotes. -/
def World.schema? (world : World) (ref : SchemaRef) : Option Schema :=
  (world.space? ref.space).bind fun space => space.schema? ref.path

theorem World.space?_ofBuilder {world : World} {number : Nat} {builder : Builder}
    (found : world.builders[number]? = some builder) (name : String) :
    world.space? ⟨.builder number, name⟩ = builder.graph.space? name := by
  simp [space?, found]

theorem World.schema?_ofBuilder {world : World} {number : Nat} {builder : Builder}
    (found : world.builders[number]? = some builder) (space path : String) :
    world.schema? ⟨⟨.builder number, space⟩, path⟩ = builder.graph.schema? ⟨space, path⟩ := by
  rw [schema?, space?_ofBuilder found]
  rfl

theorem World.isPlain_start (files : Files) : (World.start files).IsPlain files [] :=
  ⟨by simp [start], by simp [start], rfl, List.nil_prefix⟩

namespace Run

open Effect

section Looks

theorem still_ofExcept {α : Type} (result : Except Error α) : Still (ofExcept result) := by
  cases result
  · exact still_throw _
  · exact still_pure _

theorem eq_ok_of_perform {α : Type} {result : Except Error α} {world after : World} {value : α}
    (performed : perform (ofExcept result) world = (.ok value, after)) : result = .ok value := by
  cases result with
  | error error => cases performed
  | ok other => exact congrArg Prod.fst performed

theorem still_ofFault {α : Type} (result : Except Fault α) : Still (ofFault result) := by
  cases result
  · exact still_throw _
  · exact still_pure _

theorem still_builder (number : Nat) : Still (builder number) := by
  refine still_bind still_get fun world => ?_
  cases world.builders[number]?
  · exact still_throw _
  · exact still_pure _

theorem perform_builder {number : Nat} {builder : Builder} {world : World}
    (found : world.builders[number]? = some builder) :
    perform (Run.builder number) world = (.ok builder, world) := by
  unfold Run.builder
  rw [perform_bind_of_ok (perform_get _), found]
  rfl

theorem builder_of_perform {number : Nat} {world after : World} {found : Builder}
    (performed : perform (builder number) world = (.ok found, after)) :
    world.builders[number]? = some found := by
  unfold builder at performed
  rw [perform_bind_of_ok (perform_get _)] at performed
  cases here : world.builders[number]? with
  | none =>
      rw [here] at performed
      cases performed
  | some other =>
      rw [here] at performed
      exact congrArg some (Except.ok.inj (congrArg Prod.fst performed))

theorem still_space (ref : SpaceRef) : Still (space ref) := by
  unfold space
  cases ref.owner with
  | builder number =>
      refine still_bind (still_builder number) fun _ => still_bind (still_pure _) fun found => ?_
      cases found
      · exact still_throw _
      · exact still_pure _
  | nobody number =>
      refine still_bind still_get fun _ => still_bind (still_pure _) fun found => ?_
      cases found
      · exact still_throw _
      · exact still_pure _

theorem still_schema (ref : SchemaRef) : Still (schema ref) := by
  refine still_bind (still_space _) fun space => ?_
  cases space.schema? ref.path
  · exact still_throw _
  · exact still_pure _

theorem still_ensureOpen (ref : SpaceRef) : Still (ensureOpen ref) := by
  unfold ensureOpen
  cases ref.owner with
  | builder number =>
      refine still_bind (still_builder number) fun builder => ?_
      cases builder.frozen
      · exact still_pure _
      · exact still_throw _
  | nobody number => exact still_pure _

theorem still_ensureBuilderOpen (number : Nat) : Still (ensureBuilderOpen number) := by
  refine still_bind (still_builder number) fun builder => ?_
  cases builder.frozen
  · exact still_pure _
  · exact still_throw _

theorem still_schema? (number : Nat) (reference : Data) : Still (schema? number reference) :=
  still_bind (still_ofExcept _) fun _ => still_bind (still_builder number) fun _ => still_pure _

theorem still_checkFieldName (ref : SchemaRef) (name : Data) : Still (checkFieldName ref name) := by
  refine still_bind (still_ensureOpen _) fun _ => still_bind (still_schema ref) fun schema => ?_
  cases schema.hasField name
  · exact still_pure _
  · exact still_throw _

end Looks

section Changes

variable {files : Files} {made : List StageCall}

/-- A world stays plain when a builder gets another plain graph or is frozen. -/
theorem isPlain_modify {world : World} (plain : world.IsPlain files made) {number : Nat}
    {change : Builder → Builder}
    (same : ∀ builder graph number stage, Builder.call { change builder with graph } number stage =
      Builder.call { builder with graph } number stage)
    (each : ∀ builder, world.builders[number]? = some builder → builder.graph.IsPlain →
      (change builder).graph.IsPlain) :
    { world with builders := world.builders.modify number change : World }.IsPlain files made where
  graphs builder builderMem := by
    rcases mem_modify builderMem with before | ⟨found, there, rfl⟩
    · exact plain.graphs builder before
    · exact each found there (plain.graphs found (List.mem_of_getElem? there))
  calls call callMem := by
    obtain ⟨builder, builderMem, graph, caller, stage, isPlain, rfl⟩ := plain.calls call callMem
    obtain ⟨place, there⟩ := List.mem_iff_getElem?.mp builderMem
    have later : (world.builders.modify number change)[place]? =
        some (if number = place then change builder else builder) := by
      rw [List.getElem?_modify, there]
      rfl
    refine ⟨_, List.mem_of_getElem? later, graph, caller, stage, isPlain, ?_⟩
    by_cases isPlace : number = place
    · rw [if_pos isPlace, same]
    · rw [if_neg isPlace]
  files := plain.files
  kept := plain.kept

theorem keeps_record (level : Level) (logger message : String) :
    Keeps (World.IsPlain files made) (record level logger message) := by
  intro world plain
  obtain ⟨log, told⟩ := perform_record level logger message world
  rw [told]
  exact { plain with
    calls := by
      rw [World.afterCalls, List.append_nil]
      exact plain.calls
    files := by
      rw [World.afterCalls, List.append_nil]
      exact plain.files
    kept := by
      rw [World.afterCalls, List.append_nil]
      exact plain.kept }

theorem space?_of_perform {ref : SpaceRef} {world after : World} {found : Namespace}
    (performed : perform (space ref) world = (.ok found, after)) : world.space? ref = some found := by
  unfold space at performed
  unfold World.space?
  cases owner : ref.owner with
  | builder number =>
      rw [owner] at performed
      rcases (still_builder number).exists_of_perform_bind performed with ⟨holder, isHolder, performed⟩
      dsimp only
      rw [builder_of_perform isHolder, Option.bind_some]
      cases inGraph : holder.graph.space? ref.name with
      | none =>
          rw [inGraph] at performed
          cases performed
      | some space =>
          rw [inGraph] at performed
          exact congrArg some (Except.ok.inj (congrArg Prod.fst performed))
  | nobody number =>
      rw [owner] at performed
      dsimp only
      cases here : world.loose[number]? with
      | none =>
          rw [perform_bind_of_ok (perform_get _), here] at performed
          cases performed
      | some space =>
          rw [perform_bind_of_ok (perform_get _), here] at performed
          exact congrArg some (Except.ok.inj (congrArg Prod.fst performed))

/-- A namespace of a plain world may be changed to one that is plain too. -/
theorem isPlain_modifySpace {world : World} (plain : world.IsPlain files made) {ref : SpaceRef}
    {change : Namespace → Namespace} (same : ∀ space, (change space).name = space.name)
    (each : ∀ space, world.space? ref = some space → space.IsPlain → (change space).IsPlain) :
    (perform (modifySpace ref change) world).2.IsPlain files made := by
  unfold modifySpace
  unfold World.space? at each
  cases owner : ref.owner with
  | builder number =>
      rw [owner] at each
      refine isPlain_modify plain (fun _ _ _ _ => rfl) fun builder here isPlain => ?_
      refine isPlain.modifySpace same fun space found => each space ?_
      dsimp only
      rw [here]
      exact found
  | nobody number => exact ⟨plain.graphs, plain.calls, plain.files, plain.kept⟩

theorem schema?_of_perform {ref : SchemaRef} {world after : World} {found : Schema}
    (performed : perform (schema ref) world = (.ok found, after)) : world.schema? ref = some found := by
  unfold schema at performed
  rw [perform_bind] at performed
  rcases looked : perform (space ref.space) world with ⟨outcome, later⟩
  rw [looked] at performed
  cases outcome with
  | error error => cases performed
  | ok holder =>
      rw [World.schema?, space?_of_perform looked, Option.bind_some]
      dsimp only at performed
      cases there : holder.schema? ref.path with
      | none =>
          rw [there] at performed
          cases performed
      | some other =>
          rw [there] at performed
          exact congrArg some (Except.ok.inj (congrArg Prod.fst performed))

/-- A schema of a plain world may be changed to one that is plain too. -/
theorem isPlain_modifySchema {world : World} (plain : world.IsPlain files made) {ref : SchemaRef}
    {change : Schema → Schema} (same : ∀ schema, (change schema).path = schema.path)
    (each : ∀ schema, world.schema? ref = some schema → schema.IsPlain → (change schema).IsPlain) :
    (perform (modifySchema ref change) world).2.IsPlain files made := by
  refine isPlain_modifySpace plain (fun _ => rfl) fun space here isPlain => ?_
  refine isPlain.modifySchema same fun schema found => each schema ?_
  rw [World.schema?, here]
  exact found

end Changes

end Run

end SpecGraph
