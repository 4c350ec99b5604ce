import SpecGraph.Proofs.Graph.Pieces
import SpecGraph.Proofs.World.Register

/-!
# What operations make of the graph of a builder

An operation on an open builder turns its graph into another one, with an outcome that the graph tells. Nothing else
in the world changes but the log. An operation that only touches one namespace fills it: what it makes of the
namespace does not depend on the rest of the graph. Both are followed through chains of operations.
-/

namespace SpecGraph

open Effect

/-- The world with another graph in a builder. -/
def World.withGraph (world : World) (number : Nat) (graph : Graph) : World :=
  { world with builders := world.builders.modify number fun builder => { builder with graph } }

theorem World.getElem?_withGraph {world : World} {number : Nat} {builder : Builder}
    (found : world.builders[number]? = some builder) (graph : Graph) :
    (world.withGraph number graph).builders[number]? = some { builder with graph } := by
  rw [withGraph, List.getElem?_modify_eq, found]
  rfl

theorem World.withGraph_withGraph (world : World) (number : Nat) (first second : Graph) (log : List LogRecord) :
    ((world.withGraph number first).withLog log).withGraph number second =
      (world.withGraph number second).withLog log := by
  unfold withGraph withLog
  dsimp only
  rw [List.modify_modify_eq]
  rfl

/-- A change of an element at a place only has to be told for the one that is there. -/
theorem modify_congr {α : Type} {elements : List α} {place : Nat} {element : α} (there : elements[place]? = some element)
    {change other : α → α} (same : change element = other element) :
    elements.modify place change = elements.modify place other := by
  refine List.ext_getElem? fun index => ?_
  rw [List.getElem?_modify, List.getElem?_modify]
  by_cases here : place = index
  · subst here
    rw [there]
    simp [same]
  · simp [here]

theorem World.withGraph_self {world : World} {number : Nat} {builder : Builder}
    (found : world.builders[number]? = some builder) : world.withGraph number builder.graph = world := by
  have same : world.builders.modify number (fun other => { other with graph := builder.graph }) =
      world.builders.modify number id := modify_congr found rfl
  unfold withGraph
  rw [same, List.modify_id]

theorem World.isOpen_ofBuilder {world : World} {number : Nat} {builder : Builder}
    (found : world.builders[number]? = some builder) (isOpen : builder.frozen = false) (name : String) :
    world.IsOpen ⟨.builder number, name⟩ := by
  intro place other owner there
  cases owner
  cases found.symm.trans there
  exact isOpen

namespace Run

variable {α β : Type} {number : Nat}

/-- An operation turns the graph of an open builder into another one, with an outcome that the graph tells. -/
def Turns (number : Nat) (operation : Run α) (graph : Graph) (outcome : Except Error α) (later : Graph) : Prop :=
  ∀ (world : World) (builder : Builder), world.builders[number]? = some builder → builder.frozen = false →
    builder.graph = graph →
    ∃ log, perform operation world = (outcome, (world.withGraph number later).withLog log)

section Turns

variable {graph between later : Graph}

theorem Turns.bind {first : Run α} {next : α → Run β} {value : α} {outcome : Except Error β}
    (head : Turns number first graph (.ok value) between) (rest : Turns number (next value) between outcome later) :
    Turns number (first >>= next) graph outcome later := by
  intro world builder found isOpen isGraph
  rcases head world builder found isOpen isGraph with ⟨log, performed⟩
  have there : ((world.withGraph number between).withLog log).builders[number]? = some { builder with graph := between } :=
    World.getElem?_withGraph found between
  rcases rest _ _ there isOpen rfl with ⟨last, continued⟩
  refine ⟨last, ?_⟩
  rw [perform_bind_of_ok performed, continued, World.withGraph_withGraph]
  rfl

theorem Turns.bind_error {first : Run α} {next : α → Run β} {error : Error}
    (head : Turns number first graph (.error error) later) :
    Turns number (first >>= next) graph (.error error) later := by
  intro world builder found isOpen isGraph
  rcases head world builder found isOpen isGraph with ⟨log, performed⟩
  exact ⟨log, perform_bind_of_error performed⟩

/-- An operation that looks at the builder leaves its graph. -/
theorem turns_of_look {operation : Run α} {outcome : Except Error α}
    (looks : ∀ (world : World) (builder : Builder), world.builders[number]? = some builder → builder.frozen = false →
      builder.graph = graph → perform operation world = (outcome, world)) :
    Turns number operation graph outcome graph := by
  intro world builder found isOpen isGraph
  refine ⟨world.workspace.log, ?_⟩
  rw [looks world builder found isOpen isGraph, ← isGraph, World.withGraph_self found]
  rfl

theorem turns_pure (value : α) : Turns number (pure value) graph (.ok value) graph :=
  turns_of_look fun world _ _ _ _ => perform_pure value world

theorem turns_ofExcept (result : Except Error α) : Turns number (ofExcept result) graph result graph :=
  turns_of_look fun world _ _ _ _ => by cases result <;> rfl

theorem turns_ensureBuilderOpen : Turns number (ensureBuilderOpen number) graph (.ok ()) graph :=
  turns_of_look fun _ _ found isOpen _ => perform_ensureBuilderOpen found isOpen

theorem turns_record (level : Level) (logger message : String) :
    Turns number (record level logger message) graph (.ok ()) graph := by
  intro world builder found isOpen isGraph
  rcases perform_record_eq level logger message world with ⟨log, told⟩
  refine ⟨log, ?_⟩
  rw [told, ← isGraph, World.withGraph_self found]

theorem turns_modifyGraph (change : Graph → Graph) :
    Turns number (modifyBuilder number fun builder => { builder with graph := change builder.graph }) graph (.ok ())
      (change graph) := by
  intro world builder found isOpen isGraph
  refine ⟨world.workspace.log, ?_⟩
  subst isGraph
  have same : (world.withGraph number (change builder.graph)).builders =
      world.builders.modify number fun builder => { builder with graph := change builder.graph } :=
    modify_congr found rfl
  change (_, { world with builders := _ }) = _
  rw [← same]
  rfl

/-- A namespace is made if there is none of its name. -/
theorem turns_ensureSpace (name : String) :
    Turns number (ensureSpace number name) graph (.ok ⟨.builder number, name⟩) (graph.ensure name) := by
  intro world builder found isOpen isGraph
  unfold ensureSpace Graph.ensure
  rw [perform_bind_of_ok (perform_builder found), isGraph]
  dsimp only
  split
  · refine Turns.bind turns_ensureBuilderOpen ?_ world builder found isOpen isGraph
    refine Turns.bind (turns_modifyGraph fun graph => graph.addSpace name) ?_
    exact Turns.bind (turns_record _ _ _) (turns_pure _)
  · exact turns_pure _ world builder found isOpen isGraph

theorem turns_resolve {reference : Data} {name : Name} (read : Reference.parse reference = .ok name) :
    Turns number (resolve number reference) graph (.ok (⟨.builder number, name.space⟩, name.path))
      (graph.ensure name.space) := by
  unfold resolve
  rw [read]
  exact Turns.bind (turns_ofExcept (.ok name)) (Turns.bind (turns_ensureSpace name.space) (turns_pure _))

end Turns

/-- An operation makes one namespace into another one, with an outcome that the namespace tells. -/
def Fills (number : Nat) (operation : Run α) (space : Namespace) (outcome : Except Error α) (later : Namespace) : Prop :=
  later.name = space.name ∧
    ∀ graph, graph.space? space.name = some space → Turns number operation graph outcome (graph.setSpace later)

section Fills

variable {space between later : Namespace}

theorem Fills.bind {first : Run α} {next : α → Run β} {value : α} {outcome : Except Error β}
    (head : Fills number first space (.ok value) between) (rest : Fills number (next value) between outcome later) :
    Fills number (first >>= next) space outcome later := by
  refine ⟨rest.1.trans head.1, fun graph found => ?_⟩
  have there : (graph.setSpace between).space? between.name = some between := by
    rw [Graph.setSpace, Graph.space?_modifySpace _ _ fun _ _ => rfl, if_pos rfl, head.1, found, Option.map_some]
  have same : (graph.setSpace between).setSpace later = graph.setSpace later := by
    unfold Graph.setSpace Graph.modifySpace
    rw [rest.1]
    refine congrArg Graph.mk ?_
    apply replaceFirst_replaceFirst
    exact fun _ _ => beq_self_eq_true between.name
  rw [← same]
  exact (head.2 graph found).bind (rest.2 _ there)

theorem Fills.bind_error {first : Run α} {next : α → Run β} {error : Error}
    (head : Fills number first space (.error error) later) :
    Fills number (first >>= next) space (.error error) later :=
  ⟨head.1, fun graph found => (head.2 graph found).bind_error⟩

/-- An operation on a namespace that is told by what it does to the world. -/
theorem fills_of_perform {operation : Run α} {outcome : Except Error α} {change : Namespace → Namespace}
    (name : (change space).name = space.name)
    (performs : ∀ world : World, world.IsOpen ⟨.builder number, space.name⟩ →
      world.space? ⟨.builder number, space.name⟩ = some space → ∃ log, perform operation world =
        (outcome, (world.modifySpace ⟨.builder number, space.name⟩ change).withLog log)) :
    Fills number operation space outcome (change space) := by
  refine ⟨name, fun graph found world builder isBuilder isOpen isGraph => ?_⟩
  subst isGraph
  rcases performs world (World.isOpen_ofBuilder isBuilder isOpen _)
    ((World.space?_ofBuilder isBuilder _).trans found) with ⟨log, performed⟩
  refine ⟨log, ?_⟩
  have sameGraph : builder.graph.modifySpace space.name change = builder.graph.setSpace (change space) := by
    rw [Graph.setSpace, name]
    refine congrArg Graph.mk (replaceFirst_congr fun other isOther => ?_)
    cases found.symm.trans isOther
    rfl
  have same : world.modifySpace ⟨.builder number, space.name⟩ change =
      world.withGraph number (builder.graph.setSpace (change space)) := by
    unfold World.modifySpace World.withGraph
    dsimp only
    rw [modify_congr isBuilder]
    rw [sameGraph]
  rw [performed, same]

/-- An operation that looks at a namespace leaves it. -/
theorem fills_of_look {operation : Run α} {outcome : Except Error α}
    (looks : ∀ world : World, world.IsOpen ⟨.builder number, space.name⟩ →
      world.space? ⟨.builder number, space.name⟩ = some space → perform operation world = (outcome, world)) :
    Fills number operation space outcome space := by
  refine ⟨rfl, fun graph found => ?_⟩
  have same : graph.setSpace space = graph := congrArg Graph.mk (replaceFirst_self found)
  rw [same]
  exact turns_of_look fun world builder isBuilder isOpen isGraph =>
    looks world (World.isOpen_ofBuilder isBuilder isOpen _)
      ((World.space?_ofBuilder isBuilder _).trans (isGraph ▸ found))

theorem fills_pure (value : α) : Fills number (pure value) space (.ok value) space :=
  fills_of_look fun world _ _ => perform_pure value world

theorem fills_modifySpace (change : Namespace → Namespace) (name : (change space).name = space.name) :
    Fills number (modifySpace ⟨.builder number, space.name⟩ change) space (.ok ()) (change space) :=
  fills_of_perform name fun world _ _ => ⟨world.workspace.log, perform_modifySpace _ change world⟩

end Fills

end Run

end SpecGraph
