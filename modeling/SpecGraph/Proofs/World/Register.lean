import SpecGraph.Proofs.World.Plain

/-!
# Registering

A schema, a collection and a dispatch are registered in the same way: if the namespace is open and there is none
of the path yet, the namespace is changed and the log tells it, and otherwise nothing is done. What is changed
is found as it was changed.
-/

namespace SpecGraph

namespace Namespace

/-- The namespace with one more schema. -/
def addSchema (space : Namespace) (schema : Schema) : Namespace := { space with schemas := space.schemas ++ [schema] }

/-- The namespace with one more collection. -/
def addCollection (space : Namespace) (collection : Collection) : Namespace :=
  { space with collections := space.collections ++ [collection] }

/-- The namespace with one more dispatch. -/
def addDispatch (space : Namespace) (dispatch : Dispatch) : Namespace :=
  { space with dispatches := space.dispatches ++ [dispatch] }

/-- The namespace with one more guest. -/
def addGuest (space : Namespace) (guest : Declaration) : Namespace := { space with guests := space.guests ++ [guest] }

@[simp]
theorem name_addSchema (space : Namespace) (schema : Schema) : (space.addSchema schema).name = space.name := rfl

@[simp]
theorem name_addCollection (space : Namespace) (collection : Collection) :
    (space.addCollection collection).name = space.name := rfl

@[simp]
theorem name_addDispatch (space : Namespace) (dispatch : Dispatch) :
    (space.addDispatch dispatch).name = space.name := rfl

section Free

variable {space : Namespace} {kind : DeclarationKind} {path : String}

theorem schema?_of_isTaken (free : space.isTaken .schema path = false) : space.schema? path = none :=
  Option.isNone_iff_eq_none.mp (Option.isSome_eq_false_iff.mp (Bool.or_eq_false_iff.mp free).1)

theorem collection?_of_isTaken (free : space.isTaken .collection path = false) : space.collection? path = none :=
  Option.isNone_iff_eq_none.mp (Option.isSome_eq_false_iff.mp (Bool.or_eq_false_iff.mp free).1)

theorem dispatch?_of_isTaken (free : space.isTaken .dispatch path = false) : space.dispatch? path = none :=
  Option.isNone_iff_eq_none.mp (Option.isSome_eq_false_iff.mp (Bool.or_eq_false_iff.mp free).1)

end Free

end Namespace

namespace World

/-- The builder of a namespace is not frozen. -/
def IsOpen (world : World) (ref : SpaceRef) : Prop :=
  ∀ (number : Nat) (builder : Builder), ref.owner = .builder number → world.builders[number]? = some builder →
    builder.frozen = false

/-- The world with a namespace changed. -/
def modifySpace (world : World) (ref : SpaceRef) (change : Namespace → Namespace) : World :=
  match ref.owner with
  | .builder number =>
      { world with
        builders := world.builders.modify number fun builder =>
          { builder with graph := builder.graph.modifySpace ref.name change } }
  | .nobody number => { world with loose := world.loose.modify number change }

/-- The world with another log. -/
def withLog (world : World) (log : List LogRecord) : World :=
  { world with workspace := ⟨world.workspace.files, log⟩ }

/-- A namespace that is changed is found as it was changed. -/
theorem space?_modifySpace (world : World) (ref : SpaceRef) {change : Namespace → Namespace}
    (same : ∀ space, (change space).name = space.name) :
    (world.modifySpace ref change).space? ref = (world.space? ref).map change := by
  unfold modifySpace space?
  cases ref.owner with
  | builder number =>
      dsimp only
      rw [List.getElem?_modify_eq]
      cases world.builders[number]? with
      | none => rfl
      | some builder => exact find?_replaceFirst fun space isSpace => by rwa [same]
  | nobody number => exact List.getElem?_modify_eq _ _ _

/-- A namespace that is changed twice is changed once, by both. -/
theorem modifySpace_modifySpace (world : World) (ref : SpaceRef) {first : Namespace → Namespace}
    (same : ∀ space, (first space).name = space.name) (second : Namespace → Namespace) :
    (world.modifySpace ref first).modifySpace ref second = world.modifySpace ref (second ∘ first) := by
  unfold modifySpace
  cases ref.owner with
  | builder number =>
      dsimp only
      rw [List.modify_modify_eq]
      refine congrArg (fun change => { world with builders := world.builders.modify number change }) ?_
      funext builder
      exact congrArg (fun spaces => { builder with graph := ⟨spaces⟩ : Builder })
        (replaceFirst_replaceFirst fun space isSpace => by rwa [same])
  | nobody number =>
      dsimp only
      rw [List.modify_modify_eq]

theorem modifySpace_withLog (world : World) (log : List LogRecord) (ref : SpaceRef)
    (change : Namespace → Namespace) :
    (world.withLog log).modifySpace ref change = (world.modifySpace ref change).withLog log := by
  unfold modifySpace
  cases ref.owner
  · rfl
  · rfl

theorem IsOpen.modifySpace {world : World} {ref : SpaceRef} (isOpen : world.IsOpen ref) (other : SpaceRef)
    (change : Namespace → Namespace) : (world.modifySpace other change).IsOpen ref := by
  unfold World.modifySpace
  cases other.owner with
  | nobody number => exact isOpen
  | builder place =>
      intro number builder owner found
      change (world.builders.modify place _)[number]? = _ at found
      rw [List.getElem?_modify] at found
      rcases Option.map_eq_some_iff.mp found with ⟨before, there, rfl⟩
      have areOpen := isOpen number before owner there
      split
      · exact areOpen
      · exact areOpen

end World

namespace Run

open Effect

theorem perform_modifySpace (ref : SpaceRef) (change : Namespace → Namespace) (world : World) :
    perform (modifySpace ref change) world = (.ok (), world.modifySpace ref change) := by
  unfold modifySpace World.modifySpace
  cases ref.owner
  · rfl
  · rfl

theorem perform_record_eq (level : Level) (logger message : String) (world : World) :
    ∃ log, perform (record level logger message) world = (.ok (), world.withLog log) := by
  rcases perform_record level logger message world with ⟨log, told⟩
  rw [World.afterCalls, List.append_nil] at told
  exact ⟨log, told⟩

theorem isOpen_of_ensureOpen {ref : SpaceRef} {world after : World}
    (performed : perform (ensureOpen ref) world = (.ok (), after)) : world.IsOpen ref := by
  intro number builder owner found
  unfold ensureOpen at performed
  rw [owner] at performed
  dsimp only at performed
  rw [perform_bind_of_ok (perform_builder found)] at performed
  cases frozen : builder.frozen with
  | false => rfl
  | true =>
      rw [frozen] at performed
      cases performed

theorem isOpen_of_ensureBuilderOpen {number : Nat} {world after : World} {name : String}
    (performed : perform (ensureBuilderOpen number) world = (.ok (), after)) :
    world.IsOpen ⟨.builder number, name⟩ := by
  intro place builder owner found
  cases owner
  unfold ensureBuilderOpen at performed
  rw [perform_bind_of_ok (perform_builder found)] at performed
  cases frozen : builder.frozen with
  | false => rfl
  | true =>
      rw [frozen] at performed
      cases performed

theorem perform_ensureOpen {ref : SpaceRef} {world : World} {found : Namespace} (isOpen : world.IsOpen ref)
    (here : world.space? ref = some found) : perform (ensureOpen ref) world = (.ok (), world) := by
  unfold ensureOpen
  unfold World.space? at here
  cases owner : ref.owner with
  | builder number =>
      rw [owner] at here
      rcases Option.bind_eq_some_iff.mp here with ⟨builder, isBuilder, _⟩
      dsimp only
      rw [perform_bind_of_ok (perform_builder isBuilder), isOpen number builder owner isBuilder]
      rfl
  | nobody number => rfl

theorem perform_ensureBuilderOpen {number : Nat} {builder : Builder} {world : World}
    (found : world.builders[number]? = some builder) (isOpen : builder.frozen = false) :
    perform (ensureBuilderOpen number) world = (.ok (), world) := by
  unfold ensureBuilderOpen
  rw [perform_bind_of_ok (perform_builder found), isOpen]
  rfl

theorem perform_space {ref : SpaceRef} {world : World} {found : Namespace} (here : world.space? ref = some found) :
    perform (space ref) world = (.ok found, world) := by
  unfold space
  unfold World.space? at here
  cases owner : ref.owner with
  | builder number =>
      rw [owner] at here
      rcases Option.bind_eq_some_iff.mp here with ⟨builder, isBuilder, inGraph⟩
      dsimp only
      rw [perform_bind_of_ok (perform_builder isBuilder), inGraph]
      rfl
  | nobody number =>
      rw [owner] at here
      dsimp only at here
      dsimp only
      rw [perform_bind_of_ok (perform_get _), here]
      rfl

end Run

/-- Something that can be registered in a namespace. -/
structure Registration where
  /-- Its kind. -/
  kind : DeclarationKind
  /-- Its path. -/
  path : String
  /-- The namespace with it. -/
  change : Namespace → Namespace
  /-- The line that tells it. -/
  news : Namespace → String
  /-- The namespace with it has the same name. -/
  name_change : ∀ space, (change space).name = space.name

namespace Registration

/-- There is something of the kind and the path in a namespace. -/
def taken (entry : Registration) (space : Namespace) : Bool := space.isTaken entry.kind entry.path

/-- A schema is registered. -/
def ofSchema (schema : Schema) : Registration where
  kind := .schema
  path := schema.path
  change space := space.addSchema schema
  news space := "Registered schema " ++ space.address schema.path
  name_change _ := rfl

/-- A collection is registered. -/
def ofCollection (collection : Collection) : Registration where
  kind := .collection
  path := collection.path
  change space := space.addCollection collection
  news space := "Registered collection " ++ space.address collection.path
  name_change _ := rfl

/-- A dispatch is registered. -/
def ofDispatch (dispatch : Dispatch) : Registration where
  kind := .dispatch
  path := dispatch.path
  change space := space.addDispatch dispatch
  news space := "Registered dispatch " ++ space.address dispatch.path ++ " -> " ++ dispatch.requestType
  name_change _ := rfl

end Registration

namespace Run

open Effect

/-- Registers something in a namespace, unless it is taken. -/
def register (ref : SpaceRef) (entry : Registration) : Run Unit := do
  ensureOpen ref
  let space ← space ref
  if entry.taken space then throw (.duplicate entry.kind (.text (space.address entry.path)) none)
  modifySpace ref entry.change
  record .debug Logger.types (entry.news space)

theorem addSchema_eq (ref : SpaceRef) (schema : Schema) :
    addSchema ref schema = do
      register ref (.ofSchema schema)
      return ⟨ref, schema.path⟩ := by
  unfold addSchema register
  rw [bind_assoc]
  refine congrArg _ (funext fun _ => ?_)
  rw [bind_assoc]
  refine congrArg _ (funext fun space => ?_)
  change (if space.isTaken .schema schema.path = true then _ else _) =
    (if space.isTaken .schema schema.path = true then _ else _) >>= _
  split
  · rfl
  · rw [bind_assoc]
    rfl

theorem addCollection_eq (ref : SpaceRef) (collection : Collection) :
    addCollection ref collection = register ref (.ofCollection collection) := rfl

theorem addDispatch_eq (ref : SpaceRef) (dispatch : Dispatch) :
    addDispatch ref dispatch = register ref (.ofDispatch dispatch) := rfl

section Register

variable {ref : SpaceRef} {entry : Registration} {world : World} {space : Namespace}

/-- In an open namespace something is registered if it is not taken. -/
theorem perform_register_of_free (isOpen : world.IsOpen ref) (found : world.space? ref = some space)
    (free : entry.taken space = false) :
    ∃ log, perform (register ref entry) world = (.ok (), (world.modifySpace ref entry.change).withLog log) := by
  rcases perform_record_eq .debug Logger.types (entry.news space) (world.modifySpace ref entry.change) with ⟨log, told⟩
  refine ⟨log, ?_⟩
  unfold register
  rw [perform_bind_of_ok (perform_ensureOpen isOpen found), perform_bind_of_ok (perform_space found)]
  dsimp only
  rw [free, if_neg Bool.false_ne_true, perform_bind_of_ok (perform_modifySpace ref entry.change world), told]

/-- In an open namespace what is taken is refused as declared twice. -/
theorem perform_register_of_taken (isOpen : world.IsOpen ref) (found : world.space? ref = some space)
    (isTaken : entry.taken space = true) :
    perform (register ref entry) world =
      (.error (.duplicate entry.kind (.text (space.address entry.path)) none), world) := by
  unfold register
  rw [perform_bind_of_ok (perform_ensureOpen isOpen found), perform_bind_of_ok (perform_space found)]
  dsimp only
  rw [isTaken]
  rfl

variable (entry) in
/-- What is registered is found. -/
theorem space?_registered (found : world.space? ref = some space) (log : List LogRecord) :
    ((world.modifySpace ref entry.change).withLog log).space? ref = some (entry.change space) := by
  have there := world.space?_modifySpace ref entry.name_change
  rwa [found, Option.map_some] at there

variable (entry) in
theorem isOpen_registered (isOpen : world.IsOpen ref) (log : List LogRecord) :
    ((world.modifySpace ref entry.change).withLog log).IsOpen ref := isOpen.modifySpace ref entry.change

variable (ref entry world) in
/-- Something is registered in an open namespace where it is not taken, and otherwise the world stays. -/
theorem register_cases :
    (∃ error, perform (register ref entry) world = (.error error, world)) ∨
      ∃ space log, world.IsOpen ref ∧ world.space? ref = some space ∧ entry.taken space = false ∧
        perform (register ref entry) world = (.ok (), (world.modifySpace ref entry.change).withLog log) := by
  rcases (still_ensureOpen ref).cases world with ⟨error, failed⟩ | ⟨_, looked⟩
  · exact Or.inl ⟨error, perform_bind_of_error failed⟩
  have isOpen := isOpen_of_ensureOpen looked
  rcases (still_space ref).cases world with ⟨error, failed⟩ | ⟨space, found⟩
  · refine Or.inl ⟨error, ?_⟩
    unfold register
    rw [perform_bind_of_ok looked, perform_bind_of_error failed]
  have here := space?_of_perform found
  cases isTaken : entry.taken space with
  | true => exact Or.inl ⟨_, perform_register_of_taken isOpen here isTaken⟩
  | false =>
      rcases perform_register_of_free isOpen here isTaken with ⟨log, registered⟩
      exact Or.inr ⟨space, log, isOpen, here, isTaken, registered⟩

/-- Registering keeps a property of worlds that a change of the namespace keeps where nothing is taken. -/
theorem keeps_register {good : World → Prop} (log : ∀ world log, good world → good (world.withLog log))
    (changed : ∀ world space, good world → world.space? ref = some space → entry.taken space = false →
      good (world.modifySpace ref entry.change)) : Keeps good (register ref entry) := by
  intro world isGood
  rcases register_cases ref entry world with ⟨error, failed⟩ | ⟨space, later, _, found, free, registered⟩
  · rw [failed]
    exact isGood
  · rw [registered]
    exact log _ _ (changed world space isGood found free)

end Register

/-- What is told of a declaration that is added to a namespace once more. -/
def newsAgain (owner : Namespace) (declaration : Declaration) : String :=
  "Registered " ++ declaration.kind.name ++ " " ++ declaration.address ++
    match declaration.kind with
    | .dispatch => " -> " ++ ((owner.dispatch? declaration.path).map Dispatch.requestType).getD ""
    | _ => ""

/-- A declaration is added to an open namespace once more if it was made in its owner and its path is not taken, and
otherwise the world stays. -/
theorem addAgain_cases (ref : SpaceRef) (declaration : Declaration) (world : World) :
    (∃ error, perform (addAgain ref declaration) world = (.error error, world)) ∨
      ∃ owner host log, world.space? declaration.owner = some owner ∧
        owner.owns declaration.kind declaration.path = true ∧ world.space? ref = some host ∧
        host.isTaken declaration.kind declaration.path = false ∧
        perform (addAgain ref declaration) world =
          (.ok (), (world.modifySpace ref (·.addGuest declaration)).withLog log) := by
  unfold addAgain
  rcases (still_ensureOpen ref).cases world with ⟨error, failed⟩ | ⟨_, looked⟩
  · exact Or.inl ⟨error, perform_bind_of_error failed⟩
  rw [perform_bind_of_ok looked]
  rcases (still_space declaration.owner).cases world with ⟨error, failed⟩ | ⟨owner, foundOwner⟩
  · exact Or.inl ⟨error, perform_bind_of_error failed⟩
  rw [perform_bind_of_ok foundOwner]
  dsimp only
  cases owned : owner.owns declaration.kind declaration.path with
  | false => exact Or.inl ⟨_, rfl⟩
  | true =>
      rw [Bool.not_true, if_neg Bool.false_ne_true]
      rcases (still_space ref).cases world with ⟨error, failed⟩ | ⟨host, foundHost⟩
      · exact Or.inl ⟨error, perform_bind_of_error failed⟩
      rw [perform_bind_of_ok foundHost]
      cases taken : host.isTaken declaration.kind declaration.path with
      | true => exact Or.inl ⟨_, rfl⟩
      | false =>
          rcases perform_record_eq .debug Logger.types (newsAgain owner declaration)
            (world.modifySpace ref (·.addGuest declaration)) with ⟨log, told⟩
          refine Or.inr ⟨owner, host, log, space?_of_perform foundOwner, owned, space?_of_perform foundHost, taken, ?_⟩
          rw [if_neg Bool.false_ne_true, perform_bind_of_ok (perform_modifySpace ref _ world)]
          exact told

/-- A schema is found once it is registered. -/
theorem schema?_of_addSchema {ref : SpaceRef} {schema : Schema} {world after : World} {made : SchemaRef}
    (performed : perform (addSchema ref schema) world = (.ok made, after)) : after.schema? made = some schema := by
  rw [addSchema_eq] at performed
  rcases exists_of_perform_bind performed with ⟨_, between, registered, same⟩
  cases same
  rcases register_cases ref (.ofSchema schema) world with ⟨error, failed⟩ | ⟨space, log, _, found, free, done⟩
  · rw [failed] at registered
    cases registered
  · rw [done] at registered
    cases registered
    rw [World.schema?]
    dsimp only
    rw [space?_registered _ found log, Option.bind_some]
    have absent : space.schema? schema.path = none := Namespace.schema?_of_isTaken free
    change List.find? _ (space.schemas ++ [schema]) = some schema
    unfold Namespace.schema? at absent
    rw [List.find?_append, absent]
    simp

end Run

end SpecGraph
