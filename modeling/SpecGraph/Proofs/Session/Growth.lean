import SpecGraph.Proofs.Graph.Growth
import SpecGraph.Proofs.Session.Moments
import SpecGraph.Proofs.World.Program
import SpecGraph.Proofs.World.Together

/-!
# Sessions only add declarations

Every operation lets the graphs of the builders grow, whatever it is given and whether or not it fails: a declaration
adds something at the end of a list, and the operations on flags and keys change a declaration at its place. The same
is so for the namespaces that belong to no builder. So every step of a session and every action of a body lets the
graphs grow, at every moment inside it and at its end. An inline field declares its schema before its body is built and
adds the field to the schema around it only afterwards; wherever the body fails, what was declared until then stays at
its place. A program that catches errors, or adds what was declared to other namespaces, takes nothing back either.
-/

namespace SpecGraph

section Operations

open Effect

/-- The graph of a builder grows. -/
def Builder.Grows (earlier later : Builder) : Prop := earlier.graph.Grows later.graph

theorem Builder.Grows.refl (builder : Builder) : builder.Grows builder := Graph.Grows.refl builder.graph

theorem Builder.Grows.trans {first second third : Builder} (before : first.Grows second) (after : second.Grows third) :
    first.Grows third := Graph.Grows.trans before after

/-- A builder keeps its number and its graph grows, and so does a namespace without a builder. -/
structure World.Grows (earlier later : World) : Prop where
  /-- The builders come first. -/
  builders : GrowsBy Builder.Grows earlier.builders later.builders
  /-- The namespaces without a builder come first. -/
  loose : GrowsBy Namespace.Grows earlier.loose later.loose

namespace World

theorem Grows.refl (world : World) : world.Grows world :=
  ⟨.refl Builder.Grows.refl _, .refl Namespace.Grows.refl _⟩

theorem Grows.trans {first second third : World} (before : first.Grows second) (after : second.Grows third) :
    first.Grows third :=
  ⟨.trans Builder.Grows .trans before.builders after.builders,
    .trans Namespace.Grows .trans before.loose after.loose⟩

/-- A namespace that is there stays there. -/
theorem Grows.space? {earlier later : World} (grown : earlier.Grows later) {ref : SpaceRef} {space : Namespace}
    (found : earlier.space? ref = some space) : ∃ other, later.space? ref = some other ∧ space.Grows other := by
  unfold World.space? at found ⊢
  cases owner : ref.owner with
  | builder number =>
      rw [owner] at found
      rcases Option.bind_eq_some_iff.mp found with ⟨builder, isBuilder, inGraph⟩
      rcases grown.builders number builder isBuilder with ⟨holder, isHolder, graphGrown⟩
      rcases GrowsBy.find?_eq graphGrown (fun hasGrown => by rw [hasGrown.name]) inGraph with ⟨other, isOther, hasGrown⟩
      exact ⟨other, Option.bind_eq_some_iff.mpr ⟨holder, isHolder, isOther⟩, hasGrown⟩
  | nobody number =>
      rw [owner] at found
      exact grown.loose number space found

/-- A schema that is there stays there. -/
theorem Grows.schema? {earlier later : World} (grown : earlier.Grows later) {ref : SchemaRef} {schema : Schema}
    (found : earlier.schema? ref = some schema) : ∃ other, later.schema? ref = some other ∧ schema.Grows other := by
  rcases Option.bind_eq_some_iff.mp found with ⟨space, isSpace, inSpace⟩
  rcases grown.space? isSpace with ⟨holder, isHolder, spaceGrown⟩
  rcases spaceGrown.schemas.find?_eq (fun hasGrown => by rw [hasGrown.path]) inSpace with ⟨other, isOther, hasGrown⟩
  exact ⟨other, Option.bind_eq_some_iff.mpr ⟨holder, isHolder, isOther⟩, hasGrown⟩

theorem grows_of_same {earlier later : World} (builders : later.builders = earlier.builders)
    (loose : later.loose = earlier.loose) : earlier.Grows later :=
  ⟨builders ▸ .refl Builder.Grows.refl _, loose ▸ .refl Namespace.Grows.refl _⟩

theorem grows_modifyBuilder {change : Builder → Builder}
    (changed : ∀ builder : Builder, builder.Grows (change builder)) (world : World) (number : Nat) :
    world.Grows { world with builders := world.builders.modify number change } :=
  ⟨.modify Builder.Grows.refl changed _ _, .refl Namespace.Grows.refl _⟩

theorem grows_modifySpace {change : Namespace → Namespace} (changed : ∀ space : Namespace, space.Grows (change space))
    (world : World) (ref : SpaceRef) : world.Grows (world.modifySpace ref change) := by
  unfold modifySpace
  cases ref.owner with
  | builder number =>
      have grown (builder : Builder) :
          builder.Grows { builder with graph := builder.graph.modifySpace ref.name change } :=
        builder.graph.grows_modifySpace changed ref.name
      exact grows_modifyBuilder grown world number
  | nobody number =>
      exact ⟨.refl Builder.Grows.refl _, .modify Namespace.Grows.refl changed _ _⟩

end World

namespace Registration

/-- What can be registered comes after what is there. -/
def Adds (entry : Registration) : Prop := ∀ space : Namespace, space.Grows (entry.change space)

theorem adds_ofSchema (schema : Schema) : (ofSchema schema).Adds := fun _ =>
  Namespace.grows_of_lists rfl (.append Schema.Grows.refl _ _) (List.prefix_refl _) (List.prefix_refl _)
    (List.prefix_refl _)

theorem adds_ofCollection (collection : Collection) : (ofCollection collection).Adds := fun _ =>
  Namespace.grows_of_lists rfl (.refl Schema.Grows.refl _) ((List.prefix_append _ _).map _) (List.prefix_refl _)
    (List.prefix_refl _)

theorem adds_ofDispatch (dispatch : Dispatch) : (ofDispatch dispatch).Adds := fun _ =>
  Namespace.grows_of_lists rfl (.refl Schema.Grows.refl _) (List.prefix_refl _) (List.prefix_append _ _)
    (List.prefix_refl _)

end Registration

namespace Run

variable {first : World}

theorem grows_modifySpace {change : Namespace → Namespace} (changed : ∀ space : Namespace, space.Grows (change space))
    (ref : SpaceRef) : Keeps first.Grows (modifySpace ref change) := by
  intro world grown
  rw [perform_modifySpace]
  exact grown.trans (world.grows_modifySpace changed ref)

theorem grows_modifySchema {change : Schema → Schema} (changed : ∀ schema : Schema, schema.Grows (change schema))
    (ref : SchemaRef) : Keeps first.Grows (modifySchema ref change) :=
  grows_modifySpace (fun space => space.grows_modifySchema changed ref.path) ref.space

theorem grows_ofJob {α : Type} (job : Job α) : Keeps first.Grows (ofJob job) := by
  intro world grown
  rw [perform_ofJob]
  exact grown.trans (World.grows_of_same rfl rfl)

theorem grows_ensureSpace (number : Nat) (name : String) : Keeps first.Grows (ensureSpace number name) := by
  refine keeps_bind (still_builder number).keeps fun builder => ?_
  dsimp only
  split
  · refine keeps_bind (still_ensureBuilderOpen number).keeps fun _ => keeps_bind ?_ fun _ =>
      keeps_bind (grows_ofJob _) fun _ => (still_pure _).keeps
    have adds (builder : Builder) : builder.Grows { builder with graph := builder.graph.addSpace name } :=
      builder.graph.grows_addSpace name
    exact fun world grown => grown.trans (world.grows_modifyBuilder adds number)
  · exact (still_pure _).keeps

theorem grows_register {entry : Registration} (adds : entry.Adds) (ref : SpaceRef) :
    Keeps first.Grows (register ref entry) :=
  keeps_register (fun _ _ grown => grown.trans (World.grows_of_same rfl rfl)) fun world _ grown _ _ =>
    grown.trans (world.grows_modifySpace adds ref)

theorem grows_addSchema (ref : SpaceRef) (schema : Schema) : Keeps first.Grows (addSchema ref schema) := by
  rw [addSchema_eq]
  exact keeps_bind (grows_register (Registration.adds_ofSchema schema) ref) fun _ => (still_pure _).keeps

theorem grows_addCollection (ref : SpaceRef) (collection : Collection) :
    Keeps first.Grows (addCollection ref collection) := by
  rw [addCollection_eq]
  exact grows_register (Registration.adds_ofCollection collection) ref

theorem grows_addKeyedSchema (ref : SpaceRef) (path : String) : Keeps first.Grows (addKeyedSchema ref path) :=
  keeps_bind (grows_addSchema ref _) fun _ => keeps_bind (grows_addCollection ref _) fun _ => (still_pure _).keeps

theorem grows_addDispatch (ref : SpaceRef) (dispatch : Dispatch) : Keeps first.Grows (addDispatch ref dispatch) := by
  rw [addDispatch_eq]
  exact grows_register (Registration.adds_ofDispatch dispatch) ref

theorem grows_addAgain (ref : SpaceRef) (declaration : Declaration) :
    Keeps first.Grows (addAgain ref declaration) := by
  intro world grown
  rcases addAgain_cases ref declaration world with ⟨error, failed⟩ | ⟨owner, host, log, _, _, _, _, done⟩
  · rw [failed]
    exact grown
  · rw [done]
    have adds (space : Namespace) : space.Grows (space.addGuest declaration) :=
      Namespace.grows_of_lists rfl (.refl Schema.Grows.refl _) (List.prefix_refl _) (List.prefix_refl _)
        (List.prefix_append _ _)
    exact (grown.trans (world.grows_modifySpace adds ref)).trans (World.grows_of_same rfl rfl)

theorem grows_declareNested (ref : SchemaRef) (name : Data) : Keeps first.Grows (declareNested ref name) := by
  refine keeps_bind (still_checkFieldName ref name).keeps fun _ => ?_
  cases name with
  | text name => exact grows_addSchema _ _
  | _ => exact (still_throw _).keeps

theorem grows_addField (ref : SchemaRef) (name : Data) (type : String) : Keeps first.Grows (addField ref name type) :=
  keeps_bind (still_checkFieldName ref name).keeps fun _ => keeps_bind (still_schema ref).keeps fun _ =>
    keeps_bind (grows_modifySchema (fun schema => schema.grows_append ⟨name, type, true⟩) ref) fun _ =>
      (still_pure _).keeps

theorem grows_setKey (ref : SchemaRef) (names : List Data) : Keeps first.Grows (setKey ref names) := by
  refine keeps_bind (still_schema ref).keeps fun schema => ?_
  cases schema.keyed with
  | false => exact (still_throw _).keeps
  | true =>
      exact keeps_bind (still_ensureOpen _).keeps fun _ =>
        grows_modifySpace (fun space => space.grows_setKey ref.path names) ref.space

theorem grows_addBuilder (builder : Builder) : Keeps first.Grows (addBuilder builder) := by
  refine keeps_bind still_get.keeps fun _ => keeps_bind (keeps_modify fun world grown => ?_) fun _ =>
    (still_pure _).keeps
  exact grown.trans ⟨.append Builder.Grows.refl _ _, .refl Namespace.Grows.refl _⟩

/-- A builder that is finalized keeps its graph, whether or not its stages fail. -/
theorem grows_finalize (number : Nat) : Keeps first.Grows (finalize number) := by
  intro world grown
  rcases finalize_cases number world with ⟨_, error, failed⟩ | ⟨_, _, _, _, finalized⟩
  · rw [failed]
    exact grown
  · rw [finalized]
    have keeps (builder : Builder) : builder.Grows { builder with frozen := true } := Graph.Grows.refl builder.graph
    have freezes : world.Grows (world.freeze number) := world.grows_modifyBuilder keeps number
    exact grown.trans ⟨freezes.builders, freezes.loose⟩

end Run

/-- All operations let what a world has grow, whatever they are given. -/
theorem World.kept_grows (first : World) : World.Kept .any first.Grows where
  fit := Manner.isFit_any
  found _ _ := trivial
  reads _ := Run.grows_ofJob _
  writes job _ := Run.grows_ofJob job
  waiting _ _ _ grown := grown.trans (World.grows_of_same rfl rfl)
  seen _ _ grown := grown.trans (World.grows_of_same rfl rfl)
  readings _ _ grown := grown.trans (World.grows_of_same rfl rfl)
  addLoose _ := keeps_modify fun _ grown => grown.trans
    ⟨.refl Builder.Grows.refl _, .append Namespace.Grows.refl _ _⟩
  addBuilder _ _ _ := Run.grows_addBuilder _
  ensureSpace number name _ := Run.grows_ensureSpace number name
  addSchema ref _ _ _ _ := Run.grows_addSchema ref _
  addKeyedSchema ref path _ := Run.grows_addKeyedSchema ref path
  declareNested ref _ _ := Run.grows_declareNested ref _
  addDispatch ref _ _ _ := Run.grows_addDispatch ref _
  addField ref name type _ _ := Run.grows_addField ref name type
  relax field := Run.grows_modifySchema (fun schema => schema.grows_relax field.position) field.schema
  setKey ref names _ := Run.grows_setKey ref names
  setCompact ref flag _ := Run.grows_modifySchema (fun schema => schema.grows_setCompact flag) ref
  finalize := Run.grows_finalize

end Operations

namespace Session

/-- From any world, whatever it is, the graphs have grown at every moment inside a step or an action and at its end,
whether or not it fails, and at every moment of the steps that follow. They have grown at every point of a program too,
which may catch errors anywhere and share what was declared. -/
theorem graphs_grow (world : World) :
    (∀ step : Step, (∀ moment ∈ momentsInStep step world, world.Grows moment) ∧
      world.Grows (Effect.perform (take step) world).2) ∧
    (∀ (ref : SchemaRef) (around : List SchemaRef) (action : Action),
      (∀ moment ∈ momentsIn ref around action world, world.Grows moment) ∧
        world.Grows (Effect.perform (act ref around action) world).2) ∧
    (∀ (steps : List Step), ∀ moment ∈ moments world steps, world.Grows moment) ∧
    ∀ (α : Type) (program : World.Program (@Run.Shares) α) (events : List Event),
      (program.follow ⟨events, world⟩).All fun point => world.Grows point.world := by
  have kept := World.kept_grows world
  have start := World.Grows.refl world
  refine ⟨fun step => ?_, fun ref around action => ?_, fun steps => ?_, fun α program events => ?_⟩
  · exact upholds_take kept step (Step.obeys_any step) world start
  · exact upholds_act kept ref around action (Action.obeys_any action) world start
  · exact good_of_mem_moments kept (Step.allObey_any steps) start
  · refine program.all_follow (fun composed => composed _ kept) (fun shares => ?_) start
    cases shares with
    | registers registers => exact registers.composed _ kept
    | again ref declaration => exact Run.grows_addAgain ref declaration

/-- A schema has an inline field, whose body gives up inside another one. -/
def givingUp : List Step :=
  [.command (.create ⟨.text "spec", [], [], none⟩),
    .schema (.int 0) (.text "a") (.bool false)
      [.field (.text "x") (.text "uint") false,
        .inline (.text "n") [.field (.text "y") (.text "uint") false,
          .inline (.text "m") [.giveUp "no"] false] false],
    .command (.optional (.ofBuilder (.int 0) (.text "a")) (.text "x"))]

/-- The paths of the schemas of the default namespace of the first builder, with the flags of their fields. -/
def firstShapes (world : World) : Option (List (String × List Bool)) :=
  (world.builders[0]?.bind fun builder => builder.graph.space? Name.defaultSpace).map fun space =>
    space.schemas.map fun schema => (schema.path, schema.fields.map Field.required)

/-- The schemas that were declared until a body gave up stay, also when a field is made optional. -/
theorem graphs_grow_givingUp :
    ∃ first later : World, first = after (World.start Files.empty) (givingUp.take 2) ∧
      later ∈ moments first (givingUp.drop 2) ∧
      firstShapes first = some [("a", [true]), ("a/n", [true]), ("a/n/m", [])] ∧
      firstShapes later = some [("a", [false]), ("a/n", [true]), ("a/n/m", [])] ∧ first.Grows later := by
  have isMoment : after (World.start Files.empty) givingUp ∈
      moments (after (World.start Files.empty) (givingUp.take 2)) (givingUp.drop 2) :=
    List.mem_append_right _ List.mem_cons_self
  exact ⟨_, _, rfl, isMoment, by decide +kernel, by decide +kernel, (graphs_grow _).2.2.1 _ _ isMoment⟩

end Session

end SpecGraph
