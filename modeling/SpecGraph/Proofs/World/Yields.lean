import SpecGraph.Proofs.Document.Fields

/-!
# What an operation yields if it succeeds

Some operations look beyond the namespace that they change, so that the namespace alone does not tell whether they
succeed. But if such an operation succeeds, the namespace tells what becomes of it. This is followed through chains of
operations, as for operations whose outcome the namespace tells as well.
-/

namespace SpecGraph

open Effect

theorem Graph.setSpace_setSpace {first second : Namespace} (same : second.name = first.name) (graph : Graph) :
    (graph.setSpace first).setSpace second = graph.setSpace second := by
  simp only [setSpace, modifySpace, same]
  apply congrArg Graph.mk
  apply replaceFirst_replaceFirst
  intro _ _
  exact beq_self_eq_true first.name

/-- An open builder has a namespace. -/
structure World.OpenAt (world : World) (number : Nat) (builder : Builder) (space : Namespace) : Prop where
  isBuilder : world.builders[number]? = some builder
  isOpen : builder.frozen = false
  isThere : builder.graph.space? space.name = some space

/-- The world with a namespace of a builder replaced, and with another log. -/
def World.fill (world : World) (number : Nat) (builder : Builder) (space : Namespace) (log : List LogRecord) : World :=
  (world.withGraph number (builder.graph.setSpace space)).withLog log

namespace World.OpenAt

variable {world : World} {number : Nat} {builder : Builder} {space later last : Namespace}

theorem fill (openAt : world.OpenAt number builder space) (same : later.name = space.name) (log : List LogRecord) :
    (world.fill number builder later log).OpenAt number { builder with graph := builder.graph.setSpace later } later := by
  constructor
  · exact World.getElem?_withGraph openAt.isBuilder _
  · exact openAt.isOpen
  · simp [Graph.setSpace, Graph.space?_modifySpace, same, openAt.isThere]

theorem fill_fill (world : World) (number : Nat) (builder : Builder) (same : last.name = later.name)
    (log more : List LogRecord) :
    (world.fill number builder later log).fill number { builder with graph := builder.graph.setSpace later } last more =
      world.fill number builder last more := by
  simp only [World.fill, World.withGraph_withGraph, Graph.setSpace_setSpace same]
  rfl

theorem fill_self (openAt : world.OpenAt number builder space) :
    world.fill number builder space world.workspace.log = world := by
  have same : builder.graph.setSpace space = builder.graph := congrArg Graph.mk (replaceFirst_self openAt.isThere)
  simp only [World.fill, same, World.withGraph_self openAt.isBuilder]
  rfl

end World.OpenAt

namespace Run

variable {α β : Type} {number : Nat} {space between later : Namespace}

/-- If an operation succeeds, a namespace of an open builder becomes another one, and the answer is as told. -/
def Yields (number : Nat) (operation : Run α) (space : Namespace) (told : α → Prop) (later : Namespace) : Prop :=
  later.name = space.name ∧ ∀ (world after : World) (builder : Builder) (value : α),
    world.OpenAt number builder space → perform operation world = (.ok value, after) →
      told value ∧ ∃ log, after = world.fill number builder later log

theorem Yields.bind {first : Run α} {next : α → Run β} {told : α → Prop} {toldLast : β → Prop}
    (head : Yields number first space told between) (same : later.name = between.name)
    (rest : ∀ value, told value → Yields number (next value) between toldLast later) :
    Yields number (first >>= next) space toldLast later := by
  refine ⟨same.trans head.1, ?_⟩
  intro world after builder result openAt performed
  rcases exists_of_perform_bind performed with ⟨value, middle, started, ended⟩
  rcases head.2 world middle builder value openAt started with ⟨isTold, log, rfl⟩
  rcases (rest value isTold).2 _ after _ result (openAt.fill head.1 log) ended with ⟨isToldLast, more, rfl⟩
  exact ⟨isToldLast, more, World.OpenAt.fill_fill world number builder same log more⟩

theorem Yields.weaken {operation : Run α} {told other : α → Prop} (yields : Yields number operation space told later)
    (each : ∀ value, told value → other value) : Yields number operation space other later := by
  refine ⟨yields.1, ?_⟩
  intro world after builder value openAt performed
  rcases yields.2 world after builder value openAt performed with ⟨isTold, filled⟩
  exact ⟨each value isTold, filled⟩

/-- What fills a namespace and ends with a value yields it. -/
theorem Fills.yields {operation : Run α} {value : α} (fills : Fills number operation space (.ok value) later) :
    Yields number operation space (· = value) later := by
  refine ⟨fills.1, ?_⟩
  intro world after builder result openAt performed
  rcases fills.2 builder.graph openAt.isThere world builder openAt.isBuilder openAt.isOpen rfl with ⟨log, done⟩
  cases performed.symm.trans done
  exact ⟨rfl, log, rfl⟩

/-- What fails yields anything. -/
theorem Fills.yields_of_error {operation : Run α} {error : Error} {middle : Namespace} {told : α → Prop}
    (fills : Fills number operation space (.error error) middle) (same : later.name = space.name) :
    Yields number operation space told later := by
  refine ⟨same, ?_⟩
  intro world after builder result openAt performed
  rcases fills.2 builder.graph openAt.isThere world builder openAt.isBuilder openAt.isOpen rfl with ⟨log, done⟩
  cases performed.symm.trans done

theorem yields_pure (value : α) : Yields number (pure value) space (· = value) space := (fills_pure value).yields

theorem yields_throw (error : Error) {told : α → Prop} (same : later.name = space.name) :
    Yields number (throw error) space told later :=
  (fills_of_look fun world _ _ => perform_throw error world).yields_of_error same

/-- An operation that never succeeds yields anything. -/
theorem yields_of_fails {operation : Run α} {told : α → Prop}
    (fails : ∀ world after value, perform operation world ≠ (.ok value, after)) (same : later.name = space.name) :
    Yields number operation space told later :=
  ⟨same, fun world after _ value _ performed => (fails world after value performed).elim⟩

theorem yields_throw_bind (error : Error) {next : α → Run β} {told : β → Prop} (same : later.name = space.name) :
    Yields number (throw error >>= next) space told later :=
  (fills_of_look fun world _ _ => perform_throw error world).bind_error.yields_of_error same

/-- A look at the world that answers as told leaves the namespace. -/
theorem yields_of_still {operation : Run α} {told : α → Prop} (still : Still operation)
    (each : ∀ world value, perform operation world = (.ok value, world) → told value) :
    Yields number operation space told space := by
  refine ⟨rfl, ?_⟩
  intro world after builder value openAt performed
  obtain rfl : after = world := by rw [← still world, performed]
  exact ⟨each after value performed, after.workspace.log, openAt.fill_self.symm⟩

theorem yields_ofExcept (result : Except Error α) :
    Yields number (ofExcept result) space (fun value => result = .ok value) space := by
  cases result with
  | ok value => exact (yields_pure value).weaken fun _ same => congrArg Except.ok same.symm
  | error error => exact yields_throw error rfl

/-- A schema that is registered is new. -/
theorem yields_addSchema (made : Schema) :
    Yields number (addSchema ⟨.builder number, space.name⟩ made) space
      (fun ref => ref = ⟨⟨.builder number, space.name⟩, made.path⟩ ∧ made.path ∉ space.taken .schema)
      (space.addSchema made) := by
  by_cases taken : made.path ∈ space.taken .schema
  · exact (fills_addSchema_of_taken made taken).yields_of_error rfl
  · exact (fills_addSchema made taken).yields.weaken fun _ same => ⟨same, taken⟩

/-- A collection that is registered is new. -/
theorem yields_addCollection (made : Collection) :
    Yields number (addCollection ⟨.builder number, space.name⟩ made) space
      (fun _ => made.path ∉ space.taken .collection) (space.addCollection made) := by
  by_cases taken : made.path ∈ space.taken .collection
  · exact (fills_register_of_taken (.ofCollection made) taken).yields_of_error rfl
  · exact (fills_register_of_free (.ofCollection made) taken).yields.weaken fun _ _ => taken

section Fields

variable {path : String} {schema : Schema} (found : space.schema? path = some schema)
include found

/-- A field is checked before it is added. -/
theorem yields_checkFieldName (name : Data) :
    Yields number (checkFieldName ⟨⟨.builder number, space.name⟩, path⟩ name) space
      (fun _ => schema.hasField name = false) space := by
  refine fills_ensureOpen.yields.bind rfl fun _ _ => ?_
  refine (fills_schema found).yields.bind rfl fun _ same => ?_
  rw [same]
  cases has : schema.hasField name with
  | false => exact (yields_pure ()).weaken fun _ _ => rfl
  | true => exact yields_throw _ rfl

/-- A field that is added comes last. -/
theorem yields_addField (name : Data) (type : String) :
    Yields number (addField ⟨⟨.builder number, space.name⟩, path⟩ name type) space
      (· = ⟨⟨⟨.builder number, space.name⟩, path⟩, schema.fields.length⟩)
      (space.modifySchema path (·.append ⟨name, type, true⟩)) := by
  refine (yields_checkFieldName found name).bind rfl fun _ _ => ?_
  refine (fills_schema found).yields.bind rfl fun _ same => ?_
  rw [same]
  apply Fills.yields
  exact (fills_modifySpace (fun space => space.modifySchema path (·.append ⟨name, type, true⟩)) rfl).bind (fills_pure _)

/-- A nested schema is new. -/
theorem yields_declareNested (name : Data) {text : String} (isText : name = .text text) :
    Yields number (declareNested ⟨⟨.builder number, space.name⟩, path⟩ name) space
      (fun nested => nested = ⟨⟨.builder number, space.name⟩, path ++ "/" ++ text⟩ ∧
        path ++ "/" ++ text ∉ space.taken .schema)
      (space.addSchema (Schema.empty (path ++ "/" ++ text) (.bool false) false)) := by
  subst isText
  refine (yields_checkFieldName found (.text text)).bind rfl fun _ _ => ?_
  exact yields_addSchema (Schema.empty _ _ _)

end Fields

end Run

end SpecGraph
