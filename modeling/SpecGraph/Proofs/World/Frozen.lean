import SpecGraph.Document.Apply
import SpecGraph.Proofs.World.Declare

/-!
# What operations leave of frozen builders

A declaration looks whether the builder is open before it changes anything. So an operation that declares or
finalizes leaves a frozen builder as it is. Only the flags of a schema and of its fields are set without such a
look. A view of graphs that is blind to flags is therefore kept by every operation, and a view that is not is
kept by those that set no flag of what is frozen: a field that was just added may be made optional, since its
builder is still open. A builder may be watched more closely than the others, so a view depends on the number of
the builder.
-/

namespace SpecGraph

/-- A schema without its flags. -/
def Schema.outline (schema : Schema) : Schema :=
  { schema with compact := .null, fields := schema.fields.map fun field => { field with required := true } }

/-- A namespace without the flags of its schemas. -/
def Namespace.outline (space : Namespace) : Namespace :=
  { space with schemas := space.schemas.map Schema.outline }

/-- A graph without the flags of its schemas. -/
def Graph.outline (graph : Graph) : Graph := ⟨graph.spaces.map Namespace.outline⟩

theorem Schema.outline_relax (schema : Schema) (position : Nat) :
    (schema.relax position).outline = schema.outline := by
  have fields : (schema.fields.modify position Field.relaxed).map (fun field => { field with required := true }) =
      schema.fields.map fun field => { field with required := true } := by
    induction schema.fields generalizing position with
    | nil => simp
    | cons field rest ih => cases position <;> simp [Field.relaxed, ih]
  rw [outline, outline, relax, fields]

theorem Graph.outline_modifySchema {change : Schema → Schema}
    (same : ∀ schema, (change schema).outline = schema.outline) (graph : Graph) (name path : String) :
    (graph.modifySpace name fun space => space.modifySchema path change).outline = graph.outline := by
  unfold outline modifySpace
  refine congrArg Graph.mk (map_replaceFirst fun space => ?_)
  unfold Namespace.outline Namespace.modifySchema
  dsimp only
  rw [map_replaceFirst same]

/-- A view of graphs is blind to the flags of schemas. -/
def IsBlind {α : Type} (view : Graph → α) : Prop :=
  ∀ graph other : Graph, graph.outline = other.outline → view graph = view other

theorem isBlind_outline : IsBlind Graph.outline := fun _ _ same => same

namespace World

variable {α : Type} {view : Nat → Graph → α}

/-- Every builder that is frozen in the first world is there in the later one, with a graph of the same view. -/
def Continues (view : Nat → Graph → α) (first later : World) : Prop :=
  ∀ (number : Nat) (builder : Builder), first.builders[number]? = some builder → builder.frozen = true →
    ∃ graph, later.builders[number]? = some { builder with graph } ∧ view number graph = view number builder.graph

theorem Continues.refl (world : World) : world.Continues view world :=
  fun _ builder found _ => ⟨builder.graph, found, rfl⟩

theorem continues_of_builders {first later : World} (same : later.builders = first.builders) :
    first.Continues view later := by
  intro number builder found _
  exact ⟨builder.graph, by rw [same, found], rfl⟩

theorem Continues.trans {first second third : World} (before : first.Continues view second)
    (after : second.Continues view third) : first.Continues view third := by
  intro number builder found frozen
  rcases before number builder found frozen with ⟨graph, between, same⟩
  rcases after number _ between frozen with ⟨last, there, sameLast⟩
  exact ⟨last, there, sameLast.trans same⟩

/-- A namespace belongs to the builder of a number, which is frozen. -/
def holdsFrozen (world : World) (number : Nat) (ref : SpaceRef) : Bool :=
  ref.owner == .builder number && world.builders[number]?.any Builder.frozen

/-- Changing a builder leaves the frozen ones if it is open or its view stays. -/
theorem continues_modify {world : World} {number : Nat} {change : Builder → Builder}
    (each : ∀ builder, world.builders[number]? = some builder → builder.frozen = true →
      ∃ graph, change builder = { builder with graph } ∧ view number graph = view number builder.graph) :
    world.Continues view { world with builders := world.builders.modify number change } := by
  intro place builder found frozen
  dsimp only
  rw [List.getElem?_modify, found]
  change ∃ graph, some (if number = place then change builder else builder) = _ ∧ _
  by_cases isPlace : number = place
  · subst isPlace
    rcases each builder found frozen with ⟨graph, changed, same⟩
    exact ⟨graph, by rw [if_pos rfl, changed], same⟩
  · exact ⟨builder.graph, by rw [if_neg isPlace], rfl⟩

end World

namespace Run

open Effect

variable {α β γ : Type} {view : Nat → Graph → γ}

/-- An operation leaves the frozen builders with graphs of the same view, whether or not it fails. -/
def Continuing (view : Nat → Graph → γ) (operation : Run α) : Prop :=
  ∀ world : World, world.Continues view (perform operation world).2

theorem Continuing.keeps {operation : Run α} (continuing : Continuing view operation) (first : World) :
    Keeps (first.Continues view) operation :=
  fun world before => before.trans (continuing world)

theorem continuing_of_still {operation : Run α} (still : Still operation) : Continuing view operation := by
  intro world
  rw [still world]
  exact World.Continues.refl world

theorem continuing_bind {first : Run α} {next : α → Run β} (head : Continuing view first)
    (rest : ∀ value, Continuing view (next value)) : Continuing view (first >>= next) :=
  fun world => good_bind (head world) fun value => (rest value).keeps world

theorem continuing_discard {operation : Run α} (continuing : Continuing view operation) :
    Continuing view (discard operation) := by
  rw [discard_eq]
  exact continuing_bind continuing fun _ => continuing_of_still (still_pure _)

theorem continuing_tryCatch {body : Run α} {handler : Error → Run α} (head : Continuing view body)
    (rest : ∀ error, Continuing view (handler error)) : Continuing view (tryCatch body handler) :=
  fun world => good_tryCatch (head world) fun error => (rest error).keeps world

theorem continuing_modify {change : World → World} (same : ∀ world, (change world).builders = world.builders) :
    Continuing view (modify change : Run PUnit) :=
  fun world => World.continues_of_builders (same world)

theorem continuing_ofJob (job : Job α) : Continuing view (ofJob job) := by
  intro world
  rw [perform_ofJob]
  exact World.continues_of_builders rfl

theorem continuing_record (level : Level) (logger message : String) :
    Continuing view (record level logger message) :=
  continuing_ofJob _

/-- What comes after a look at the world may use what the look has told. -/
theorem continues_bind_still {first : Run α} {next : α → Run β} {world : World} (still : Still first)
    (rest : ∀ value, perform first world = (.ok value, world) →
      world.Continues view (perform (next value) world).2) :
    world.Continues view (perform (first >>= next) world).2 :=
  still.good_bind (World.Continues.refl world) rest

section Open

theorem isOpen_of_checkFieldName {ref : SchemaRef} {name : Data} {world after : World}
    (performed : perform (checkFieldName ref name) world = (.ok (), after)) : world.IsOpen ref.space := by
  rcases exists_of_perform_bind performed with ⟨_, between, looked, _⟩
  exact isOpen_of_ensureOpen looked

/-- A namespace of an open builder can be changed. -/
theorem continues_modifySpace {world : World} {ref : SpaceRef} (isOpen : world.IsOpen ref)
    (change : Namespace → Namespace) : world.Continues view (perform (modifySpace ref change) world).2 := by
  unfold modifySpace
  cases owner : ref.owner with
  | builder number =>
      refine World.continues_modify fun builder found frozen => ?_
      rw [isOpen number builder owner found] at frozen
      cases frozen
  | nobody number => exact World.continues_of_builders rfl

end Open

section Declarations

theorem continuing_ensureSpace (number : Nat) (name : String) : Continuing view (ensureSpace number name) := by
  intro world
  refine continues_bind_still (still_builder number) fun builder _ => ?_
  dsimp only
  split
  · refine continues_bind_still (still_ensureBuilderOpen number) fun _ opened => ?_
    refine good_bind ?_ fun _ => (continuing_bind (continuing_record _ _ _) fun _ =>
      continuing_of_still (still_pure _)).keeps world
    have isOpen : world.IsOpen ⟨.builder number, name⟩ := isOpen_of_ensureBuilderOpen opened
    refine World.continues_modify fun other found frozen => ?_
    rw [isOpen number other rfl found] at frozen
    cases frozen
  · exact World.Continues.refl world

theorem continuing_resolve (number : Nat) (reference : Data) : Continuing view (resolve number reference) :=
  continuing_bind (continuing_of_still (still_ofExcept _)) fun _ =>
    continuing_bind (continuing_ensureSpace number _) fun _ => continuing_of_still (still_pure _)

theorem continuing_register (ref : SpaceRef) (entry : Registration) : Continuing view (register ref entry) := by
  intro world
  rcases register_cases ref entry world with ⟨_, failed⟩ | ⟨_, log, isOpen, _, _, registered⟩
  · rw [failed]
    exact World.Continues.refl world
  · rw [registered]
    have changed : world.Continues view (perform (modifySpace ref entry.change) world).2 :=
      continues_modifySpace isOpen entry.change
    rw [perform_modifySpace] at changed
    exact changed

theorem continuing_addSchema (ref : SpaceRef) (schema : Schema) : Continuing view (addSchema ref schema) := by
  rw [addSchema_eq]
  exact continuing_bind (continuing_register ref _) fun _ => continuing_of_still (still_pure _)

theorem continuing_addCollection (ref : SpaceRef) (collection : Collection) :
    Continuing view (addCollection ref collection) := continuing_register ref (.ofCollection collection)

theorem continuing_addDispatch (ref : SpaceRef) (dispatch : Dispatch) :
    Continuing view (addDispatch ref dispatch) := continuing_register ref (.ofDispatch dispatch)

theorem continuing_addKeyedSchema (ref : SpaceRef) (path : String) :
    Continuing view (addKeyedSchema ref path) :=
  continuing_bind (continuing_addSchema ref _) fun _ => continuing_bind (continuing_addCollection ref _) fun _ =>
    continuing_of_still (still_pure _)

theorem continuing_declareSchema (number : Nat) (reference compact : Data) :
    Continuing view (declareSchema number reference compact) :=
  continuing_bind (continuing_of_still (still_ensureBuilderOpen number)) fun _ =>
    continuing_bind (continuing_resolve number reference) fun _ => continuing_addSchema _ _

theorem continuing_declareCollection (number : Nat) (reference : Data) :
    Continuing view (declareCollection number reference) :=
  continuing_bind (continuing_of_still (still_ensureBuilderOpen number)) fun _ =>
    continuing_bind (continuing_resolve number reference) fun _ => continuing_addKeyedSchema _ _

theorem continuing_openDispatch (number : Nat) (reference : Data) :
    Continuing view (openDispatch number reference) :=
  continuing_bind (continuing_of_still (still_ensureBuilderOpen number)) fun _ =>
    continuing_resolve number reference

theorem continuing_declareDispatch (number : Nat) (reference target : Data) :
    Continuing view (declareDispatch number reference target) := by
  refine continuing_bind (continuing_openDispatch number reference) fun opened => ?_
  dsimp only
  split
  · exact continuing_bind (continuing_discard (continuing_addSchema _ _)) fun _ =>
      continuing_of_still (still_throw _)
  · exact continuing_bind (continuing_of_still (still_ofExcept _)) fun _ =>
      continuing_bind (continuing_addDispatch _ _) fun _ => continuing_of_still (still_pure _)

theorem continuing_declareNested (ref : SchemaRef) (name : Data) :
    Continuing view (declareNested ref name) := by
  refine continuing_bind (continuing_of_still (still_checkFieldName ref name)) fun _ => ?_
  cases name with
  | text name => exact continuing_addSchema _ _
  | _ => exact continuing_of_still (still_throw _)

theorem continuing_setKey (ref : SchemaRef) (names : List Data) : Continuing view (setKey ref names) := by
  refine continuing_bind (continuing_of_still (still_schema ref)) fun schema => ?_
  have last : Continuing view (do
      ensureOpen ref.space
      modifySpace ref.space fun space =>
        space.modifyCollection ref.path fun collection => { collection with key := names }) :=
    fun world => continues_bind_still (still_ensureOpen _) fun _ opened =>
      continues_modifySpace (isOpen_of_ensureOpen opened) _
  cases schema.keyed with
  | false => exact continuing_of_still (still_throw _)
  | true => exact last

end Declarations

section Fields

/-- An operation adds a field, after which the builder of the field is open. -/
def AddsField (view : Nat → Graph → γ) (operation : Run FieldRef) : Prop :=
  ∀ world : World, world.Continues view (perform operation world).2 ∧
    ∀ field after, perform operation world = (.ok field, after) → after.IsOpen field.schema.space

theorem addsField_bind {first : Run α} {next : α → Run FieldRef} (head : Continuing view first)
    (rest : ∀ value, AddsField view (next value)) : AddsField view (first >>= next) := by
  intro world
  refine ⟨continuing_bind head (fun value world => (rest value world).1) world, fun field after done => ?_⟩
  rcases exists_of_perform_bind done with ⟨value, between, _, last⟩
  exact (rest value between).2 field after last

theorem addsField_throw (error : Error) : AddsField view (throw error) :=
  fun world => ⟨World.Continues.refl world, fun _ _ done => by cases done⟩

theorem addsField_addField (ref : SchemaRef) (name : Data) (type : String) :
    AddsField view (addField ref name type) := by
  intro world
  constructor
  · refine continues_bind_still (still_checkFieldName ref name) fun _ checked => ?_
    refine continues_bind_still (still_schema ref) fun schema _ => ?_
    exact good_bind (continues_modifySpace (isOpen_of_checkFieldName checked) _) fun _ =>
      (continuing_of_still (still_pure _)).keeps world
  · intro field after done
    rcases exists_of_perform_bind done with ⟨_, second, checked, added⟩
    rcases exists_of_perform_bind added with ⟨schema, third, looked, appended⟩
    rcases exists_of_perform_bind appended with ⟨_, last, changed, answered⟩
    cases answered
    have isOpen := isOpen_of_checkFieldName checked
    obtain rfl : second = world := (congrArg Prod.snd checked).symm.trans (still_checkFieldName ref name world)
    obtain rfl : third = second := (congrArg Prod.snd looked).symm.trans (still_schema ref second)
    rw [modifySchema, perform_modifySpace] at changed
    obtain rfl := congrArg Prod.snd changed
    exact isOpen.modifySpace _ _

theorem addsField_addPrimitive (ref : SchemaRef) (name type : Data) : AddsField view (addPrimitive ref name type) := by
  unfold addPrimitive
  split
  · exact addsField_bind (continuing_of_still (still_ofExcept _)) fun _ => addsField_addField ref name _
  · exact addsField_throw _

theorem addsField_addReference (ref : SchemaRef) (name target : Data) :
    AddsField view (addReference ref name target) := by
  refine addsField_bind (continuing_of_still (still_checkFieldName ref name)) fun _ => ?_
  dsimp only
  split
  · exact addsField_bind (continuing_discard (continuing_declareNested ref name)) fun _ => addsField_throw _
  · exact addsField_bind (continuing_of_still (still_ofExcept _)) fun _ => addsField_addField ref name _

/-- A field that was just added may be made optional. -/
theorem continuing_bind_relax {operation : Run FieldRef} (adds : AddsField view operation)
    {next : FieldRef → Run Unit} (isRelax : ∀ field, next field = relax field ∨ Still (next field)) :
    Continuing view (operation >>= next) := by
  intro world
  rw [perform_bind]
  rcases performed : perform operation world with ⟨outcome, after⟩
  have continues := (adds world).1
  rw [performed] at continues
  cases outcome with
  | error error => exact continues
  | ok field =>
      refine continues.trans ?_
      dsimp only
      rcases isRelax field with same | still
      · rw [same]
        exact continues_modifySpace ((adds world).2 field after performed) _
      · exact continuing_of_still still after

end Fields

section Flags

variable {watched : Nat} (others : ∀ other, other ≠ watched → IsBlind (view other))
include others

/-- Flags are set if the watched builder is not frozen, or watched no closer than the others. -/
theorem continues_modifySchema {world : World} {ref : SchemaRef}
    (quiet : IsBlind (view watched) ∨ world.holdsFrozen watched ref.space = false) {change : Schema → Schema}
    (same : ∀ schema, (change schema).outline = schema.outline) :
    world.Continues view (perform (modifySchema ref change) world).2 := by
  unfold modifySchema modifySpace
  cases owner : ref.space.owner with
  | nobody number => exact World.continues_of_builders rfl
  | builder number =>
      refine World.continues_modify fun builder found frozen => ?_
      have blind : IsBlind (view number) := by
        by_cases isWatched : number = watched
        · subst isWatched
          refine quiet.resolve_right fun notFrozen => ?_
          simp [World.holdsFrozen, owner, found, frozen] at notFrozen
        · exact others number isWatched
      exact ⟨_, rfl, blind _ _ (builder.graph.outline_modifySchema same _ _)⟩

theorem continues_relax {world : World} {field : FieldRef}
    (quiet : IsBlind (view watched) ∨ world.holdsFrozen watched field.schema.space = false) :
    world.Continues view (perform (relax field) world).2 :=
  continues_modifySchema others quiet fun schema => schema.outline_relax _

theorem continues_setCompact {world : World} {ref : SchemaRef}
    (quiet : IsBlind (view watched) ∨ world.holdsFrozen watched ref.space = false) (value : Data) :
    world.Continues view (perform (setCompact ref value) world).2 :=
  continues_modifySchema others quiet fun _ => rfl

end Flags

section Builders

theorem continuing_addBuilder (builder : Builder) : Continuing view (addBuilder builder) := by
  refine continuing_bind (continuing_of_still still_get) fun _ => continuing_bind (fun world => ?_) fun _ =>
    continuing_of_still (still_pure _)
  intro number other found _
  refine ⟨other.graph, ?_, rfl⟩
  change (world.builders ++ [builder])[number]? = _
  rw [List.getElem?_append_left (List.getElem?_eq_some_iff.mp found).1, found]

theorem continuing_createBuilder (root : Data) (settings : Settings) (pipelines : Option Pipelines) :
    Continuing view (createBuilder root settings pipelines) := by
  unfold createBuilder
  dsimp only
  split
  · split
    · exact continuing_addBuilder _
    · exact continuing_of_still (still_throw _)
  · exact continuing_addBuilder _

theorem continuing_abandon (number : Nat) : Continuing view (abandon number) := continuing_modify fun _ => rfl

theorem continuing_reset : Continuing view reset := continuing_modify fun _ => rfl

/-- Whether or not finalizing fails, the builder is frozen with the graph that it has. -/
theorem builder_finalize {number : Nat} {builder : Builder} {world : World}
    (found : world.builders[number]? = some builder) :
    (perform (finalize number) world).2.builders[number]? = some { builder with frozen := true } := by
  cases frozen : builder.frozen with
  | true =>
      rw [perform_finalize_of_frozen found frozen, found, ← frozen]
  | false =>
      rcases perform_finalize_of_open found frozen with ⟨log, finalized⟩
      rw [finalized]
      change (world.builders.modify number _)[number]? = _
      rw [List.getElem?_modify, found]
      simp

/-- Finalizing freezes a builder that is open, and leaves a frozen one. -/
theorem continuing_finalize (number : Nat) : Continuing view (finalize number) := by
  intro world
  cases found : world.builders[number]? with
  | none =>
      rw [perform_finalize_of_none found]
      exact World.Continues.refl world
  | some builder =>
      cases frozen : builder.frozen with
      | true =>
          rw [perform_finalize_of_frozen found frozen]
          exact World.Continues.refl world
      | false =>
          rcases perform_finalize_of_open found frozen with ⟨log, finalized⟩
          rw [finalized]
          have freezes : world.Continues view (world.freeze number) := by
            refine World.continues_modify fun other there isFrozen => ?_
            cases found.symm.trans there
            rw [frozen] at isFrozen
            cases isFrozen
          exact freezes.trans (World.continues_of_builders rfl)

theorem continuing_finalizeEach (numbers : List Nat) : Continuing view (finalizeEach numbers) := by
  induction numbers with
  | nil => exact continuing_of_still (still_pure _)
  | cons number rest ih =>
      refine continuing_bind (continuing_of_still (still_builder number)) fun builder => ?_
      dsimp only
      have last (failures : List (String × Error)) : Continuing view (do
          return failures ++ (← finalizeEach rest)) :=
        continuing_bind ih fun _ => continuing_of_still (still_pure _)
      cases builder.frozen with
      | true => exact last []
      | false =>
          refine continuing_bind (continuing_tryCatch (continuing_bind (continuing_finalize number) fun _ =>
            continuing_of_still (still_pure _)) fun error => ?_) last
          cases error.isPackageError
          · exact continuing_of_still (still_throw _)
          · exact continuing_of_still (still_pure _)

theorem continuing_finalizeAll : Continuing view finalizeAll := by
  refine continuing_bind (continuing_of_still still_get) fun world => ?_
  refine continuing_bind (continuing_modify fun _ => rfl) fun _ => ?_
  refine continuing_bind (continuing_finalizeEach _) fun failures => ?_
  cases failures.isEmpty
  · exact continuing_of_still (still_throw _)
  · exact continuing_of_still (still_pure _)

end Builders

end Run

namespace Document

open Effect Run

variable {γ : Type} {view : Nat → Graph → γ}

theorem relaxIf_isRelax (optional : Data) (field : FieldRef) :
    relaxIf optional field = relax field ∨ Still (relaxIf optional field) := by
  unfold relaxIf
  cases optional.isTruthy
  · exact Or.inr (still_pure _)
  · exact Or.inl rfl

mutual

/-- Declaring a field leaves the frozen builders. -/
theorem continuing_declareField (schema : SchemaRef) :
    ∀ field : FieldDecl, Continuing view (declareField schema field)
  | .plain name type struct optional => by
      unfold declareField
      dsimp only
      split
      · exact continuing_bind_relax (addsField_addReference schema name struct) (relaxIf_isRelax optional)
      · exact continuing_bind_relax (addsField_addPrimitive schema name type) (relaxIf_isRelax optional)
  | .inline name type optional fields => by
      unfold declareField
      dsimp only
      split
      · exact continuing_bind (continuing_declareNested schema name) fun nested =>
          continuing_bind (continuing_declareFields nested fields) fun _ =>
            continuing_bind_relax (addsField_addField schema name _) (relaxIf_isRelax optional)
      · exact continuing_bind_relax (addsField_addPrimitive schema name type) (relaxIf_isRelax optional)

theorem continuing_declareFields (schema : SchemaRef) :
    ∀ fields : List FieldDecl, Continuing view (declareFields schema fields)
  | [] => continuing_of_still (still_pure _)
  | field :: rest => continuing_bind (continuing_declareField schema field) fun _ =>
      continuing_declareFields schema rest

end

theorem continuing_forM {α : Type} {items : List α} {operation : α → Run Unit}
    (each : ∀ item, Continuing view (operation item)) : Continuing view (items.forM operation) := by
  induction items with
  | nil => exact continuing_of_still (still_pure _)
  | cons item rest ih => exact continuing_bind (each item) fun _ => ih

theorem continuing_declareCollection (number : Nat) (collection : CollectionDecl) :
    Continuing view (declareCollection number collection) := by
  refine continuing_bind (Run.continuing_declareCollection number _) fun ref => ?_
  dsimp only
  split
  · exact continuing_bind (continuing_setKey ref _) fun _ => continuing_declareFields ref _
  · exact continuing_declareFields ref _

theorem continuing_declareDispatch (number : Nat) (dispatch : DispatchDecl) :
    Continuing view (declareDispatch number dispatch) := by
  unfold declareDispatch
  split
  · exact continuing_bind (continuing_openDispatch number _) fun opened =>
      continuing_bind (continuing_addSchema opened.1 _) fun ref =>
        continuing_bind (continuing_declareFields ref _) fun _ => continuing_addDispatch opened.1 _
  · exact continuing_discard (Run.continuing_declareDispatch number _ _)

/-- Declaring a document leaves the frozen builders. -/
theorem continuing_apply (number : Nat) (document : Document) : Continuing view (document.apply number) := by
  refine continuing_bind (continuing_of_still (still_ofExcept _)) fun problems => ?_
  have last : Continuing view (do
      document.schemas.forM (declareSchema number)
      document.collections.forM (declareCollection number)
      document.dispatches.forM (declareDispatch number)) :=
    continuing_bind (continuing_forM fun schema =>
        continuing_bind (Run.continuing_declareSchema number _ _) fun ref => continuing_declareFields ref _) fun _ =>
      continuing_bind (continuing_forM fun collection => continuing_declareCollection number collection) fun _ =>
        continuing_forM fun dispatch => continuing_declareDispatch number dispatch
  cases problems.isEmpty
  · exact continuing_of_still (still_throw _)
  · exact last

end Document

end SpecGraph
