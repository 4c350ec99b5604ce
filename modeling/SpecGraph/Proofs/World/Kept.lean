import SpecGraph.Proofs.World.Register
import SpecGraph.Session.Command

/-!
# What declaring and finalizing keep

A property of worlds is kept by declaring if the simple operations keep it: those that make a namespace, register
one declaration, change one, or make a builder. It is kept if finalizing a builder keeps it too. The other
operations are made of these and of looks at the world, so they keep the property as well. What may be given to the
operations is up to a manner: some properties need texts for names, or truth values for flags, and others are kept
whatever is given.

Declaring changes the graphs of builders and makes builders, which wait from then on. It calls no stage, freezes no
builder, and leaves the roots and the pipelines of every builder. So a property that looks past the graphs is kept
by declaring if new builders and fewer waiting ones do it no harm.
-/

namespace SpecGraph

open Effect

/-- What may be given to the operations that declare. -/
structure Manner where
  /-- The names that namespaces of builders can be given. -/
  space : String → Prop
  /-- The names that namespaces without a builder can be given. -/
  loose : String → Prop
  /-- The paths that schemas can be given, if they are not nested. -/
  path : String → Prop
  /-- The names that fields can be given, also in keys. -/
  name : Data → Prop
  /-- The names that fields of nested schemas can be given. -/
  nested : String → Prop
  /-- The texts that fields and dispatches can be given as the addresses of schemas. -/
  address : String → Prop
  /-- The values that flags can be given. -/
  flag : Data → Prop
  /-- Files can be written and deleted. -/
  files : Prop

/-- What the operations give to one another is in the manner. -/
structure Manner.IsFit (manner : Manner) : Prop where
  /-- A name that was read can be used, for a namespace, for a path, and in full. -/
  read : ∀ name : Name, Name.IsSpace name.space → Name.IsWhole name.path →
    manner.space name.space ∧ manner.path name.path ∧ manner.address name.format
  /-- The flag of a new schema can be off. -/
  off : manner.flag (.bool false)

/-- Everything may be given. -/
def Manner.any : Manner where
  space _ := True
  loose _ := True
  path _ := True
  name _ := True
  nested _ := True
  address _ := True
  flag _ := True
  files := True

theorem Manner.isFit_any : any.IsFit where
  read _ _ _ := ⟨trivial, trivial, trivial⟩
  off := trivial

/-- The simple operations that declare in builders and namespaces that are there keep a property of worlds, if what
they are given is in the manner. -/
structure World.KeptByRegistering (manner : Manner) (good : World → Prop) : Prop where
  /-- The manner allows what the operations give to one another. -/
  fit : manner.IsFit
  /-- The address of a schema that is found can be used. -/
  found : ∀ {world : World} {ref : SchemaRef} {schema : Schema}, good world → world.schema? ref = some schema →
    manner.address ref.address
  /-- A job that only reads the file tree keeps it. -/
  reads : ∀ {α : Type} {job : Job α} {result : Files → Except Error α}, job.Tells result →
    Keeps good (Run.ofJob job)
  /-- A job keeps it, if files may be touched. -/
  writes : ∀ {α : Type} (job : Job α), manner.files → Keeps good (Run.ofJob job)
  /-- It does not matter which calls were looked at. -/
  seen : ∀ world count, good world → good { world with seen := count }
  /-- It does not matter how many texts were read. -/
  readings : ∀ world count, good world → good { world with readings := count }
  /-- A namespace without a builder can be made. -/
  addLoose : ∀ {name}, manner.loose name → Keeps good (Run.addLoose name)
  /-- A namespace of a builder can be made. -/
  ensureSpace : ∀ number {name}, manner.space name → Keeps good (Run.ensureSpace number name)
  /-- A schema can be registered. -/
  addSchema : ∀ ref {path flag}, manner.path path → manner.flag flag →
    Keeps good (Run.addSchema ref (Schema.empty path flag false))
  /-- A collection can be registered together with its schema. -/
  addKeyedSchema : ∀ ref {path}, manner.path path → Keeps good (Run.addKeyedSchema ref path)
  /-- The schema of a field can be registered. -/
  declareNested : ∀ ref {name}, manner.nested name → Keeps good (Run.declareNested ref (.text name))
  /-- A dispatch can be registered. -/
  addDispatch : ∀ ref path {requestType}, manner.address requestType →
    Keeps good (Run.addDispatch ref ⟨path, requestType⟩)
  /-- A field can be added. -/
  addField : ∀ ref {name type}, manner.name name → (FieldTag.isTag type = true ∨ manner.address type) →
    Keeps good (Run.addField ref name type)
  /-- A field can be made optional. -/
  relax : ∀ field, Keeps good (Run.relax field)
  /-- A key can be set. -/
  setKey : ∀ ref {names : List Data}, (∀ name ∈ names, manner.name name) → Keeps good (Run.setKey ref names)
  /-- A flag can be set. -/
  setCompact : ∀ ref {flag}, manner.flag flag → Keeps good (Run.setCompact ref flag)

/-- The simple operations that declare, make builders and forget waiting ones keep a property of worlds, if what they
are given is in the manner. -/
structure World.KeptByDeclaring (manner : Manner) (good : World → Prop) : Prop
    extends World.KeptByRegistering manner good where
  /-- A builder that waits need not wait any longer. -/
  waiting : ∀ world numbers, numbers.Sublist world.waiting → good world → good { world with waiting := numbers }
  /-- A builder can be made. -/
  addBuilder : ∀ root settings pipelines, Keeps good (Run.addBuilder (Builder.create root settings pipelines))

/-- The simple operations keep a property of worlds, if what they are given is in the manner. -/
structure World.Kept (manner : Manner) (good : World → Prop) : Prop extends World.KeptByDeclaring manner good where
  /-- A builder can be finalized. -/
  finalize : ∀ number, Keeps good (Run.finalize number)

open Run (still_ofExcept still_builder still_ensureBuilderOpen still_checkFieldName)

namespace World.KeptByRegistering

variable {manner : Manner} {good : World → Prop} (kept : World.KeptByRegistering manner good)
include kept

theorem keeps_resolve (number : Nat) (reference : Data) : Keeps good (Run.resolve number reference) := by
  intro world isGood
  refine (still_ofExcept _).good_bind isGood fun name performed => ?_
  have read := Run.eq_ok_of_perform performed
  have isSpace := (kept.fit.read name (Reference.isSpace_of_parse read) (Reference.isWhole_of_parse read)).1
  exact keeps_bind (kept.ensureSpace number isSpace) (fun _ => (still_pure _).keeps) world isGood

/-- What is resolved has a path that was read. -/
theorem path_of_resolve {number : Nat} {reference : Data} {found : SpaceRef × String} {world after : World}
    (performed : perform (Run.resolve number reference) world = (.ok found, after)) : manner.path found.2 := by
  unfold Run.resolve at performed
  rcases exists_of_perform_bind performed with ⟨name, between, isName, made⟩
  rcases exists_of_perform_bind made with ⟨space, last, _, same⟩
  cases same
  have read := Run.eq_ok_of_perform isName
  exact (kept.fit.read name (Reference.isSpace_of_parse read) (Reference.isWhole_of_parse read)).2.1

theorem address_of_normalize {reference : Data} {text : String} (made : Reference.normalize reference = .ok text) :
    manner.address text := by
  unfold Reference.normalize at made
  cases read : Reference.parse reference with
  | error error =>
      rw [read] at made
      cases made
  | ok name =>
      rw [read] at made
      obtain rfl := Except.ok.inj made
      exact (kept.fit.read name (Reference.isSpace_of_parse read) (Reference.isWhole_of_parse read)).2.2

theorem keeps_declareSchema (number : Nat) (reference : Data) {compact : Data} (isFlag : manner.flag compact) :
    Keeps good (Run.declareSchema number reference compact) :=
  keeps_bind (still_ensureBuilderOpen number).keeps fun _ =>
    keeps_bind_told (kept.keeps_resolve number reference) fun found _ _ performed isGood =>
      kept.addSchema found.1 (kept.path_of_resolve performed) isFlag _ isGood

theorem keeps_declareCollection (number : Nat) (reference : Data) :
    Keeps good (Run.declareCollection number reference) :=
  keeps_bind (still_ensureBuilderOpen number).keeps fun _ =>
    keeps_bind_told (kept.keeps_resolve number reference) fun found _ _ performed isGood =>
      kept.addKeyedSchema found.1 (kept.path_of_resolve performed) _ isGood

theorem keeps_openDispatch (number : Nat) (reference : Data) : Keeps good (Run.openDispatch number reference) :=
  keeps_bind (still_ensureBuilderOpen number).keeps fun _ => kept.keeps_resolve number reference

theorem path_of_openDispatch {number : Nat} {reference : Data} {found : SpaceRef × String} {world after : World}
    (performed : perform (Run.openDispatch number reference) world = (.ok found, after)) : manner.path found.2 := by
  rcases (still_ensureBuilderOpen number).exists_of_perform_bind performed with ⟨_, _, resolved⟩
  exact kept.path_of_resolve resolved

theorem keeps_declareDispatch (number : Nat) (reference target : Data) :
    Keeps good (Run.declareDispatch number reference target) := by
  refine keeps_bind_told (kept.keeps_openDispatch number reference) fun opened world after performed isGood => ?_
  have isPath := kept.path_of_openDispatch performed
  dsimp only
  cases target.text? with
  | none =>
      exact keeps_bind (keeps_discard (kept.addSchema _ isPath kept.fit.off)) (fun _ => (still_throw _).keeps) _ isGood
  | some text =>
      refine (still_ofExcept _).good_bind isGood fun requestType made => ?_
      have request := kept.address_of_normalize (Run.eq_ok_of_perform made)
      exact keeps_bind (kept.addDispatch _ _ request) (fun _ => (still_pure _).keeps) _ isGood

theorem keeps_addPrimitive (ref : SchemaRef) {name : Data} (isName : manner.name name) (type : Data) :
    Keeps good (Run.addPrimitive ref name type) := by
  unfold Run.addPrimitive
  split
  · refine keeps_bind (still_ofExcept _).keeps fun tag => ?_
    exact kept.addField ref isName (Or.inl tag.isTag_tag)
  · exact (still_throw _).keeps

theorem keeps_declareNested (ref : SchemaRef) {name : Data}
    (isNested : ∀ text, name = .text text → manner.nested text) : Keeps good (Run.declareNested ref name) := by
  cases name with
  | text text => exact kept.declareNested ref (isNested text rfl)
  | _ => exact keeps_bind (still_checkFieldName ref _).keeps fun _ => (still_throw _).keeps

/-- A schema that was registered can be named by its address. -/
theorem address_of_addSchema {ref : SpaceRef} {schema : Schema} {made : SchemaRef} {world after : World}
    (isGood : good after) (performed : perform (Run.addSchema ref schema) world = (.ok made, after)) :
    manner.address made.address :=
  kept.found isGood (Run.schema?_of_addSchema performed)

theorem address_of_declareNested {ref : SchemaRef} {name : Data} {made : SchemaRef} {world after : World}
    (isGood : good after) (performed : perform (Run.declareNested ref name) world = (.ok made, after)) :
    manner.address made.address := by
  rcases (still_checkFieldName ref name).exists_of_perform_bind performed with ⟨_, _, registered⟩
  cases name with
  | text text => exact kept.address_of_addSchema isGood registered
  | _ => cases registered

theorem keeps_addReference (ref : SchemaRef) {name target : Data} (isName : manner.name name)
    (isNested : target.text? = none → ∀ text, name = .text text → manner.nested text) :
    Keeps good (Run.addReference ref name target) := by
  refine keeps_bind (still_checkFieldName ref _).keeps fun _ => ?_
  dsimp only
  cases isText : target.text? with
  | none =>
      exact keeps_bind (keeps_discard (kept.keeps_declareNested ref (isNested isText))) fun _ => (still_throw _).keeps
  | some text =>
      intro world isGood
      refine (still_ofExcept _).good_bind isGood fun type performed => ?_
      exact kept.addField ref isName (Or.inr (kept.address_of_normalize (Run.eq_ok_of_perform performed))) world isGood

end World.KeptByRegistering

namespace World.KeptByDeclaring

variable {manner : Manner} {good : World → Prop} (kept : World.KeptByDeclaring manner good)
include kept

theorem keeps_createBuilder (root : Data) (settings : Settings) (pipelines : Option Pipelines) :
    Keeps good (Run.createBuilder root settings pipelines) := by
  unfold Run.createBuilder
  dsimp only
  split
  · split
    · exact kept.addBuilder _ settings pipelines
    · exact (still_throw _).keeps
  · exact kept.addBuilder _ settings pipelines

theorem keeps_abandon (number : Nat) : Keeps good (Run.abandon number) :=
  keeps_modify fun world => kept.waiting world _ List.erase_sublist

theorem keeps_reset : Keeps good Run.reset := keeps_modify fun world => kept.waiting world _ (List.nil_sublist _)

end World.KeptByDeclaring

namespace World.Kept

variable {manner : Manner} {good : World → Prop} (kept : World.Kept manner good)
include kept

theorem keeps_finalizeEach (numbers : List Nat) : Keeps good (Run.finalizeEach numbers) := by
  induction numbers with
  | nil => exact (still_pure _).keeps
  | cons number rest ih =>
      refine keeps_bind (still_builder number).keeps fun builder => ?_
      dsimp only
      have last (failures : List (String × Error)) : Keeps good (do
          return failures ++ (← Run.finalizeEach rest)) := keeps_bind ih fun _ => (still_pure _).keeps
      cases builder.frozen with
      | true => exact last []
      | false =>
          refine keeps_bind (keeps_tryCatch (keeps_bind (kept.finalize number) fun _ =>
            (still_pure _).keeps) fun error => ?_) last
          cases error.isPackageError
          · exact (still_throw _).keeps
          · exact (still_pure _).keeps

theorem keeps_finalizeAll : Keeps good Run.finalizeAll := by
  refine keeps_bind still_get.keeps fun world => ?_
  refine keeps_bind (keeps_modify fun other => kept.waiting other _ (List.nil_sublist _)) fun _ => ?_
  refine keeps_bind (kept.keeps_finalizeEach _) fun failures => ?_
  cases failures.isEmpty
  · exact (still_throw _).keeps
  · exact (still_pure _).keeps

end World.Kept

/-- A builder but for its graph. -/
def Builder.bare (builder : Builder) : Builder := { builder with graph := Graph.initial }

/-- Builders that are the same but for their graphs become the same with the same graph. -/
theorem Builder.eq_of_bare {first second : Builder} (same : first.bare = second.bare) :
    first = { second with graph := first.graph } := by
  cases first
  cases second
  simp_all [bare]

/-- What declaring leaves of a world, if it makes no builder. -/
structure World.Frame where
  /-- The builders, but for their graphs. -/
  builders : List Builder
  /-- The builders that wait. -/
  waiting : List Nat
  /-- The calls so far. -/
  calls : List StageCall

/-- The frame of a world. -/
def World.frame (world : World) : World.Frame := ⟨world.builders.map Builder.bare, world.waiting, world.calls⟩

theorem World.length_of_frame {before after : World} (same : after.frame = before.frame) :
    after.builders.length = before.builders.length := by
  have lengths := congrArg (fun frame => frame.builders.length) same
  simpa [frame] using lengths

namespace Run

variable {α β : Type}

/-- An operation leaves the frame of every world. -/
def KeepsFrame (operation : Run α) : Prop := ∀ frame, Keeps (fun world : World => world.frame = frame) operation

theorem keepsFrame_of_still {operation : Run α} (still : Still operation) : KeepsFrame operation :=
  fun _ => still.keeps

theorem keepsFrame_bind {first : Run α} {next : α → Run β} (head : KeepsFrame first)
    (rest : ∀ value, KeepsFrame (next value)) : KeepsFrame (first >>= next) :=
  fun frame => keeps_bind (head frame) fun value => rest value frame

theorem keepsFrame_of_same {operation : Run α} (same : ∀ world : World, (perform operation world).2.frame = world.frame) :
    KeepsFrame operation :=
  fun _ world isFrame => (same world).trans isFrame

theorem keepsFrame_ofJob (job : Job α) : KeepsFrame (ofJob job) :=
  keepsFrame_of_same fun world => by rw [perform_ofJob]; rfl

theorem frame_modifyBuilder (world : World) (number : Nat) {change : Builder → Builder}
    (same : ∀ builder, (change builder).bare = builder.bare) :
    { world with builders := world.builders.modify number change : World }.frame = world.frame := by
  unfold World.frame
  rw [map_modify same]

theorem frame_modifySpace (world : World) (ref : SpaceRef) (change : Namespace → Namespace) :
    (world.modifySpace ref change).frame = world.frame := by
  unfold World.modifySpace
  cases ref.owner with
  | builder number => exact frame_modifyBuilder world number fun _ => rfl
  | nobody number => rfl

theorem keepsFrame_modifySpace (ref : SpaceRef) (change : Namespace → Namespace) :
    KeepsFrame (modifySpace ref change) := by
  refine keepsFrame_of_same fun world => ?_
  rw [perform_modifySpace]
  exact frame_modifySpace world ref change

theorem keepsFrame_ensureSpace (number : Nat) (name : String) : KeepsFrame (ensureSpace number name) := by
  refine keepsFrame_bind (keepsFrame_of_still (still_builder number)) fun builder => ?_
  dsimp only
  split
  · refine keepsFrame_bind (keepsFrame_of_still (still_ensureBuilderOpen number)) fun _ => ?_
    refine keepsFrame_bind (keepsFrame_of_same fun world => frame_modifyBuilder world number fun _ => rfl) fun _ => ?_
    exact keepsFrame_bind (keepsFrame_ofJob _) fun _ => keepsFrame_of_still (still_pure _)
  · exact keepsFrame_of_still (still_pure _)

theorem keepsFrame_register (ref : SpaceRef) (entry : Registration) : KeepsFrame (register ref entry) :=
  fun _ => keeps_register (fun _ _ same => same)
    fun world _ same _ _ => (frame_modifySpace world ref entry.change).trans same

theorem keepsFrame_addSchema (ref : SpaceRef) (schema : Schema) : KeepsFrame (addSchema ref schema) := by
  rw [addSchema_eq]
  exact keepsFrame_bind (keepsFrame_register ref _) fun _ => keepsFrame_of_still (still_pure _)

theorem keepsFrame_addKeyedSchema (ref : SpaceRef) (path : String) : KeepsFrame (addKeyedSchema ref path) :=
  keepsFrame_bind (keepsFrame_addSchema ref _) fun _ =>
    keepsFrame_bind (keepsFrame_register ref (.ofCollection ⟨path, []⟩)) fun _ => keepsFrame_of_still (still_pure _)

theorem keepsFrame_declareNested (ref : SchemaRef) (name : String) : KeepsFrame (declareNested ref (.text name)) :=
  keepsFrame_bind (keepsFrame_of_still (still_checkFieldName ref _)) fun _ => keepsFrame_addSchema ref.space _

theorem keepsFrame_addField (ref : SchemaRef) (name : Data) (type : String) : KeepsFrame (addField ref name type) :=
  keepsFrame_bind (keepsFrame_of_still (still_checkFieldName ref name)) fun _ =>
    keepsFrame_bind (keepsFrame_of_still (still_schema ref)) fun _ =>
      keepsFrame_bind (keepsFrame_modifySpace ref.space _) fun _ => keepsFrame_of_still (still_pure _)

theorem keepsFrame_setKey (ref : SchemaRef) (names : List Data) : KeepsFrame (setKey ref names) := by
  refine keepsFrame_bind (keepsFrame_of_still (still_schema ref)) fun schema => ?_
  cases schema.keyed with
  | false => exact keepsFrame_of_still (still_throw _)
  | true =>
      exact keepsFrame_bind (keepsFrame_of_still (still_ensureOpen ref.space)) fun _ =>
        keepsFrame_modifySpace ref.space _

end Run

/-- A property that is told by the frame is kept by registering. -/
theorem World.keptByRegistering {good : World → Prop}
    (told : ∀ before after : World, after.frame = before.frame → good before → good after) :
    World.KeptByRegistering .any good := by
  have keeps {α : Type} {operation : Run α} (same : Run.KeepsFrame operation) : Keeps good operation :=
    fun world isGood => told world _ (same world.frame world rfl) isGood
  exact {
    fit := Manner.isFit_any
    found := fun _ _ => trivial
    reads := fun _ => keeps (Run.keepsFrame_ofJob _)
    writes := fun job _ => keeps (Run.keepsFrame_ofJob job)
    seen := fun world _ => told world _ rfl
    readings := fun world _ => told world _ rfl
    addLoose := fun _ => keeps (Run.keepsFrame_of_same fun _ => rfl)
    ensureSpace := fun number _ _ => keeps (Run.keepsFrame_ensureSpace number _)
    addSchema := fun ref _ _ _ _ => keeps (Run.keepsFrame_addSchema ref _)
    addKeyedSchema := fun ref _ _ => keeps (Run.keepsFrame_addKeyedSchema ref _)
    declareNested := fun ref _ _ => keeps (Run.keepsFrame_declareNested ref _)
    addDispatch := fun ref path _ _ => keeps (Run.keepsFrame_register ref (.ofDispatch ⟨path, _⟩))
    addField := fun ref _ _ _ _ => keeps (Run.keepsFrame_addField ref _ _)
    relax := fun field => keeps (Run.keepsFrame_modifySpace field.schema.space _)
    setKey := fun ref _ _ => keeps (Run.keepsFrame_setKey ref _)
    setCompact := fun ref _ _ => keeps (Run.keepsFrame_modifySpace ref.space _) }

/-- A property that is told by the frame is kept by declaring, if builders can be made and need not wait. -/
theorem World.keptByDeclaring {good : World → Prop}
    (told : ∀ before after : World, after.frame = before.frame → good before → good after)
    (waiting : ∀ world numbers, numbers.Sublist world.waiting → good world → good { world with waiting := numbers })
    (addBuilder : ∀ builder, builder.frozen = false → Keeps good (Run.addBuilder builder)) :
    World.KeptByDeclaring .any good where
  toKeptByRegistering := World.keptByRegistering told
  waiting := waiting
  addBuilder _ _ _ := addBuilder _ rfl

/-- An operation that keeps all that registering keeps leaves the frame. -/
theorem Run.keepsFrame_of_kept {α : Type} {operation : Run α}
    (keeps : ∀ {good : World → Prop}, World.KeptByRegistering .any good → Keeps good operation) :
    Run.KeepsFrame operation :=
  fun _ => keeps (World.keptByRegistering fun _ _ same isFrame => same.trans isFrame)

end SpecGraph
