import SpecGraph.Proofs.Document.Fields
import SpecGraph.Proofs.Session.Growth
import SpecGraph.Proofs.World.Spaces

/-!
# Names that are declared again

A schema, a collection, a reference and a field are refused before anything is declared if their name is taken, and
their bodies are not built. Of a dispatch with a body the name of the dispatch is looked for only after its schema was
declared and built: if there is no schema of the name, the dispatch is refused as well, but the schema stays.
-/

namespace SpecGraph

open Effect

/-- The path of a collection that was added is taken for a schema too. -/
def Namespace.IsPaired (space : Namespace) : Prop := space.taken .collection ⊆ space.taken .schema

namespace Namespace

variable {space : Namespace}

/-- A schema can be registered, also that of a collection. -/
theorem IsPaired.addSchema (paired : space.IsPaired) (schema : Schema) : (space.addSchema schema).IsPaired := by
  have added : ((space.addSchema schema).taken .schema).Perm (schema.path :: space.taken .schema) :=
    taken_concat_perm rfl List.map_append
  intro path isTaken
  exact added.mem_iff.mpr (List.mem_cons_of_mem _ (paired isTaken))

/-- A collection can be added where its path is taken for a schema. -/
theorem IsPaired.addCollection (paired : space.IsPaired) {collection : Collection}
    (pathMem : collection.path ∈ space.taken .schema) : (space.addCollection collection).IsPaired := by
  have added : ((space.addCollection collection).taken .collection).Perm
      (collection.path :: space.taken .collection) := taken_concat_perm rfl List.map_append
  intro path isTaken
  rcases List.mem_cons.mp (added.mem_iff.mp isTaken) with rfl | before
  · exact pathMem
  · exact paired before

theorem IsPaired.modifySchema (paired : space.IsPaired) {path : String} {change : Schema → Schema}
    (same : ∀ schema, (change schema).path = schema.path) : (space.modifySchema path change).IsPaired := by
  have schemas : (space.modifySchema path change).taken .schema = space.taken .schema :=
    taken_congr rfl (map_replaceFirst same)
  rw [IsPaired, schemas]
  exact paired

theorem IsPaired.setKey (paired : space.IsPaired) (path : String) (names : List Data) :
    (space.modifyCollection path fun collection => { collection with key := names }).IsPaired := by
  have collections : (space.modifyCollection path fun collection => { collection with key := names }).taken
      .collection = space.taken .collection := taken_congr rfl (map_replaceFirst fun _ => rfl)
  rw [IsPaired, collections]
  exact paired

/-- A collection is only declared together with its schema. -/
theorem kept_isPaired : Namespace.Kept .any IsPaired where
  empty _ := List.nil_subset _
  addSchema paired _ _ _ := paired.addSchema _
  addNested paired _ _ _ := paired.addSchema _
  addKeyed paired _ _ _ := by
    refine (paired.addSchema _).addCollection (mem_taken_of_mem_paths ?_)
    simp [paths, Namespace.addSchema, Schema.empty]
  addUnpaired paired _ _ _ := paired.addSchema _
  addDispatch paired _ _ := paired
  addField paired _ _ _ _ := paired.modifySchema fun _ => rfl
  relax _ _ paired := paired.modifySchema fun _ => rfl
  setKey path _ paired _ := paired.setKey path _
  setCompact _ _ paired _ := paired.modifySchema fun _ => rfl
  fit := Manner.isFit_any
  stray _ _ := trivial
  address _ _ := trivial

end Namespace

/-- An index and a reference denote a name in an open builder, in a namespace that is there. -/
structure World.Denotes (world : World) (index : BuilderIndex) (reference : Data) (number : Nat) (name : Name)
    (space : Namespace) : Prop where
  isNumber : perform (Run.numberOf index) world = (.ok number, world)
  isName : Reference.parse reference = .ok name
  isOpen : world.IsOpen ⟨.builder number, name.space⟩
  isThere : world.space? ⟨.builder number, name.space⟩ = some space

/-- A name is taken by a declaration of a kind in an open builder. -/
def World.IsTaken (world : World) (index : BuilderIndex) (reference : Data) (kind : DeclarationKind) : Prop :=
  ∃ number name space, world.Denotes index reference number name space ∧ name.path ∈ space.taken kind

namespace Run

variable {world : World} {index : BuilderIndex} {reference : Data} {number : Nat} {name : Name} {space : Namespace}

/-- In a namespace that is there a name is resolved without changing anything. -/
theorem perform_openDispatch (denotes : world.Denotes index reference number name space) :
    perform (openDispatch number reference) world = (.ok (⟨.builder number, name.space⟩, name.path), world) := by
  have there := denotes.isThere
  unfold World.space? at there
  rcases Option.bind_eq_some_iff.mp there with ⟨builder, isBuilder, inGraph⟩
  have isOpen : builder.frozen = false := denotes.isOpen number builder rfl isBuilder
  have found : perform (ensureSpace number name.space) world = (.ok ⟨.builder number, name.space⟩, world) := by
    unfold ensureSpace
    rw [perform_bind_of_ok (perform_builder isBuilder), inGraph]
    rfl
  unfold openDispatch resolve
  rw [perform_bind_of_ok (perform_ensureBuilderOpen isBuilder isOpen), denotes.isName]
  change perform (ensureSpace number name.space >>= _) world = _
  rw [perform_bind_of_ok found]
  rfl

theorem declareSchema_eq (number : Nat) (reference compact : Data) :
    declareSchema number reference compact =
      openDispatch number reference >>= fun (space, path) => addSchema space (Schema.empty path compact false) := by
  unfold declareSchema openDispatch
  rw [bind_assoc]

theorem declareCollection_eq (number : Nat) (reference : Data) :
    declareCollection number reference =
      openDispatch number reference >>= fun (space, path) => addKeyedSchema space path := by
  unfold declareCollection openDispatch
  rw [bind_assoc]

/-- A schema is refused where its path is taken. -/
theorem perform_addSchema_of_taken {ref : SpaceRef} {schema : Schema} (isOpen : world.IsOpen ref)
    (found : world.space? ref = some space) (taken : schema.path ∈ space.taken .schema) :
    perform (addSchema ref schema) world =
      (.error (.duplicate .schema (.text (space.address schema.path)) none), world) := by
  have isTaken : (Registration.ofSchema schema).taken space = true := Namespace.isTaken_iff.mpr taken
  rw [addSchema_eq]
  exact perform_bind_of_error (perform_register_of_taken isOpen found isTaken)

theorem perform_addDispatch_of_taken {ref : SpaceRef} {dispatch : Dispatch} (isOpen : world.IsOpen ref)
    (found : world.space? ref = some space) (taken : dispatch.path ∈ space.taken .dispatch) :
    perform (addDispatch ref dispatch) world =
      (.error (.duplicate .dispatch (.text (space.address dispatch.path)) none), world) := by
  have isTaken : (Registration.ofDispatch dispatch).taken space = true := Namespace.isTaken_iff.mpr taken
  exact perform_register_of_taken isOpen found isTaken

/-- A field is refused where its name is taken. -/
theorem perform_checkFieldName_of_taken {ref : SchemaRef} {schema : Schema} {field : Data}
    (isOpen : world.IsOpen ref.space) (found : world.schema? ref = some schema) (taken : schema.hasField field = true) :
    perform (checkFieldName ref field) world =
      (.error (.duplicate .field field (some ("schema " ++ Message.inQuotes ref.address))), world) := by
  unfold World.schema? at found
  rcases Option.bind_eq_some_iff.mp found with ⟨space, here, inSpace⟩
  have isSchema : perform (Run.schema ref) world = (.ok schema, world) := by
    unfold Run.schema
    rw [perform_bind_of_ok (perform_space here), inSpace]
    rfl
  unfold checkFieldName
  rw [perform_bind_of_ok (perform_ensureOpen isOpen here), perform_bind_of_ok isSchema, taken]
  rfl

end Run

/-- The name of a field is taken in a schema of an open namespace. -/
def World.IsFieldTaken (world : World) (ref : SchemaRef) (name : Data) : Prop :=
  world.IsOpen ref.space ∧ ∃ schema, world.schema? ref = some schema ∧ schema.hasField name = true

/-- A step declares a name that is taken. A dispatch is given a body, a reference or a schema. -/
inductive Step.Repeats (world : World) : Step → Prop where
  | schema {index : BuilderIndex} {name compact : Data} {body : List Action}
      (taken : world.IsTaken index name .schema) : Repeats world (.schema index name compact body)
  | collection {index : BuilderIndex} {name : Data} {body : List Action}
      (taken : world.IsTaken index name .schema ∨ world.IsTaken index name .collection) :
      Repeats world (.collection index name body)
  | dispatch {index : BuilderIndex} {name : Data} {body : List Action}
      (taken : world.IsTaken index name .dispatch) : Repeats world (.dispatch index name body)
  | dispatchTo {index : BuilderIndex} {name target : Data} {requestType : String}
      (taken : world.IsTaken index name .dispatch) (isReference : Reference.normalize target = .ok requestType) :
      Repeats world (.command (.dispatchTo index name target))
  | dispatchOf {index : BuilderIndex} {name : Data} {schema : SchemaAddress} {ref : SchemaRef}
      (taken : world.IsTaken index name .dispatch)
      (found : perform (Run.findSchema schema) world = (.ok ref, world)) :
      Repeats world (.command (.dispatchOf index name schema))

/-- An action adds a field of a taken name. The field is given a reference, a schema or a body. -/
inductive Action.Repeats (world : World) (ref : SchemaRef) : Action → Prop where
  | reference {name target : Data} {optional : Bool} (taken : world.IsFieldTaken ref name) :
      Repeats world ref (.reference name target optional)
  | schema {name : Data} {schema : SchemaAddress} {optional : Bool} {target : SchemaRef}
      (taken : world.IsFieldTaken ref name) (found : perform (Run.findSchema schema) world = (.ok target, world)) :
      Repeats world ref (.schema name schema optional)
  | inline {name : Data} {body : List Action} {optional : Bool} (taken : world.IsFieldTaken ref name) :
      Repeats world ref (.inline name body optional)

/-- The step with another body, if it has one. -/
def Step.withBody (body : List Action) : Step → Step
  | .schema index name compact _ => .schema index name compact body
  | .collection index name _ => .collection index name body
  | .dispatch index name _ => .dispatch index name body
  | .edit address _ => .edit address body
  | step => step

/-- The action with another body, if it has one. -/
def Action.withBody (body : List Action) : Action → Action
  | .inline name _ optional => .inline name body optional
  | .outward _ => .outward body
  | action => action

/-- A step is refused as a repetition, whatever its body does, and nothing changes. -/
def Step.IsRefused (world : World) (step : Step) : Prop :=
  ∃ kind name, ∀ body, Session.perform world (step.withBody body) = (.error (.duplicate kind name none), world)

/-- An action is refused as a repetition, whatever its body does, and nothing changes. -/
def Action.IsRefused (world : World) (ref : SchemaRef) (around : List SchemaRef) (action : Action) : Prop :=
  ∃ name scope, ∀ body, perform (Session.act ref around (action.withBody body)) world =
    (.error (.duplicate .field name scope), world)

/-- A dispatch has a body, and there is no schema of its name. -/
def Step.LacksSchema (world : World) : Step → Prop
  | .dispatch index name _ => ¬world.IsTaken index name .schema
  | _ => False

namespace Session

open Run

variable {world : World} {index : BuilderIndex} {reference : Data}

/-- Only a text is normalized. -/
theorem text?_of_normalize {target : Data} {text : String} (isReference : Reference.normalize target = .ok text) :
    target.text?.isNone = false := by
  cases target with
  | text => rfl
  | _ =>
      unfold Reference.normalize Reference.parse at isReference
      dsimp only at isReference
      split at isReference
      · cases isReference
      · cases isReference

section Refused

variable {number : Nat} {name : Name} {space : Namespace}
  (denotes : world.Denotes index reference number name space)
include denotes

theorem refused_schema (taken : name.path ∈ space.taken .schema) (compact : Data) (body : List Action) :
    (Step.schema index reference compact body).IsRefused world := by
  refine ⟨.schema, .text (space.address name.path), fun body => ?_⟩
  have declared : Effect.perform (declareSchema number reference compact) world =
      (.error (.duplicate .schema (.text (space.address name.path)) none), world) := by
    rw [declareSchema_eq, perform_bind_of_ok (perform_openDispatch denotes)]
    exact perform_addSchema_of_taken denotes.isOpen denotes.isThere taken
  change Effect.perform (numberOf index >>= fun number => declareSchema number reference compact >>= _) world = _
  rw [perform_bind_of_ok denotes.isNumber]
  exact perform_bind_of_error declared

theorem refused_collection (taken : name.path ∈ space.taken .schema) (body : List Action) :
    (Step.collection index reference body).IsRefused world := by
  refine ⟨.schema, .text (space.address name.path), fun body => ?_⟩
  have declared : Effect.perform (declareCollection number reference) world =
      (.error (.duplicate .schema (.text (space.address name.path)) none), world) := by
    rw [declareCollection_eq, perform_bind_of_ok (perform_openDispatch denotes)]
    exact perform_bind_of_error (perform_addSchema_of_taken denotes.isOpen denotes.isThere taken)
  change Effect.perform (numberOf index >>= fun number => declareCollection number reference >>= _) world = _
  rw [perform_bind_of_ok denotes.isNumber]
  exact perform_bind_of_error declared

/-- A dispatch with a body declares its schema first. -/
theorem refused_dispatch_of_schema (taken : name.path ∈ space.taken .schema) (body : List Action) :
    (Step.dispatch index reference body).IsRefused world := by
  refine ⟨.schema, .text (space.address name.path), fun body => ?_⟩
  change Effect.perform (numberOf index >>= fun number => openDispatch number reference >>= _) world = _
  rw [perform_bind_of_ok denotes.isNumber, perform_bind_of_ok (perform_openDispatch denotes)]
  exact perform_bind_of_error (perform_addSchema_of_taken denotes.isOpen denotes.isThere taken)

theorem refused_dispatchTo (taken : name.path ∈ space.taken .dispatch) {target : Data} {requestType : String}
    (isReference : Reference.normalize target = .ok requestType) :
    (Step.command (.dispatchTo index reference target)).IsRefused world := by
  refine ⟨.dispatch, .text (space.address name.path), fun _ => ?_⟩
  have declared : Effect.perform (declareDispatch number reference target) world =
      (.error (.duplicate .dispatch (.text (space.address name.path)) none), world) := by
    unfold declareDispatch
    rw [perform_bind_of_ok (perform_openDispatch denotes)]
    dsimp only
    rw [text?_of_normalize isReference, isReference]
    refine (perform_bind_of_ok (perform_pure requestType world)).trans ?_
    exact perform_bind_of_error (perform_addDispatch_of_taken denotes.isOpen denotes.isThere taken)
  change Effect.perform (numberOf index >>= fun number => declareDispatch number reference target >>= _) world = _
  rw [perform_bind_of_ok denotes.isNumber]
  exact perform_bind_of_error declared

theorem refused_dispatchOf (taken : name.path ∈ space.taken .dispatch) {schema : SchemaAddress} {ref : SchemaRef}
    (found : Effect.perform (findSchema schema) world = (.ok ref, world)) :
    (Step.command (.dispatchOf index reference schema)).IsRefused world := by
  refine ⟨.dispatch, .text (space.address name.path), fun _ => ?_⟩
  change Effect.perform (numberOf index >>= fun number => findSchema schema >>= fun target =>
    openDispatch number reference >>= _) world = _
  rw [perform_bind_of_ok denotes.isNumber, perform_bind_of_ok found, perform_bind_of_ok (perform_openDispatch denotes)]
  exact perform_bind_of_error (perform_addDispatch_of_taken denotes.isOpen denotes.isThere taken)

/-- Where there is no schema of the name, a dispatch with a body leaves one, whatever its body does. -/
theorem left_dispatch (free : name.path ∉ space.taken .schema) (body : List Action) :
    ∃ ref, world.schema? ref = none ∧
      ((perform world (.dispatch index reference body)).2.schema? ref).isSome = true := by
  have absent : space.schema? name.path = none := Namespace.schema?_of_free free
  have isFree : (Registration.ofSchema (Schema.empty name.path (.bool false) false)).taken space = false :=
    (space.isTaken_eq _ _).trans (decide_eq_false free)
  have isAdded : ∃ between,
      Effect.perform (addSchema ⟨.builder number, name.space⟩ (Schema.empty name.path (.bool false) false)) world =
        (.ok ⟨⟨.builder number, name.space⟩, name.path⟩, between) := by
    rcases perform_register_of_free denotes.isOpen denotes.isThere isFree with ⟨log, registered⟩
    rw [addSchema_eq]
    exact ⟨_, perform_bind_of_ok registered⟩
  rcases isAdded with ⟨between, added⟩
  -- what comes after the registration only adds to the world that it leaves
  have kept := World.kept_grows between
  have grown : between.Grows (perform world (.dispatch index reference body)).2 := by
    change between.Grows (Effect.perform (numberOf index >>= fun number => openDispatch number reference >>= _) world).2
    rw [perform_bind_of_ok denotes.isNumber, perform_bind_of_ok (perform_openDispatch denotes)]
    dsimp only
    rw [perform_bind_of_ok added]
    refine good_bind (upholds_actAll kept _ _ body (Action.allObey_any body) between (World.Grows.refl between)).2 ?_
    intro _
    exact keeps_bind (kept.addDispatch _ _ trivial) fun _ => (still_dispatchData _ _).keeps
  refine ⟨⟨⟨.builder number, name.space⟩, name.path⟩, ?_, ?_⟩
  · rw [World.schema?, denotes.isThere]
    exact absent
  · rcases grown.schema? (schema?_of_addSchema added) with ⟨schema, found, _⟩
    rw [found]
    rfl

end Refused

/-- An action that adds a field of a taken name is refused before its nested schema is declared. -/
theorem refused_action {ref : SchemaRef} {action : Action} (repeats : action.Repeats world ref)
    (around : List SchemaRef) : action.IsRefused world ref around := by
  have checked {name : Data} (taken : world.IsFieldTaken ref name) :
      Effect.perform (checkFieldName ref name) world =
        (.error (.duplicate .field name (some ("schema " ++ Message.inQuotes ref.address))), world) := by
    rcases taken with ⟨isOpen, schema, found, has⟩
    exact perform_checkFieldName_of_taken isOpen found has
  cases repeats with
  | @reference name _ _ taken =>
      exact ⟨name, _, fun _ => perform_bind_of_error (perform_bind_of_error (checked taken))⟩
  | @schema name _ _ _ taken found =>
      refine ⟨name, some ("schema " ++ Message.inQuotes ref.address), fun _ => (perform_bind_of_ok found).trans ?_⟩
      exact perform_bind_of_error (perform_bind_of_error (checked taken))
  | @inline name _ _ taken =>
      exact ⟨name, _, fun _ => perform_bind_of_error (perform_bind_of_error (checked taken))⟩

/-- At every moment of a session a path that is taken for a collection is taken for a schema. -/
theorem isPaired_of_mem_moments {files : Files} {steps : List Step} {world : World}
    (isMoment : world ∈ World.start files :: moments (World.start files) steps) {ref : SpaceRef} {space : Namespace}
    (found : world.space? ref = some space) : space.IsPaired := by
  have kept := Namespace.kept_isPaired.kept
  have start : (World.start files).Holds .any Namespace.IsPaired := World.holds_start files
  rcases List.mem_cons.mp isMoment with rfl | later
  · exact start.each_of_space? found
  · exact (good_of_mem_moments kept (Step.allObey_any steps) start world later).each_of_space? found

/-- At every moment of a session a step that declares a taken name is refused and changes nothing, and so is an action
that adds a field of a taken name. Only a dispatch with a body leaves its schema, if there was none of its name. -/
theorem repetition_refused (files : Files) (steps : List Step) {world : World}
    (isMoment : world ∈ World.start files :: moments (World.start files) steps) :
    (∀ step : Step, step.Repeats world →
      (¬step.LacksSchema world → step.IsRefused world) ∧
      (step.LacksSchema world →
        ∃ ref, world.schema? ref = none ∧ ((perform world step).2.schema? ref).isSome = true)) ∧
    ∀ (ref : SchemaRef) (around : List SchemaRef) (action : Action), action.Repeats world ref →
      action.IsRefused world ref around := by
  refine ⟨fun step repeats => ?_, fun ref around action repeats => refused_action repeats around⟩
  cases repeats with
  | schema taken =>
      rcases taken with ⟨number, name, space, denotes, pathMem⟩
      exact ⟨fun _ => refused_schema denotes pathMem _ _, False.elim⟩
  | collection taken =>
      refine ⟨fun _ => ?_, False.elim⟩
      rcases taken with ⟨number, name, space, denotes, pathMem⟩ | ⟨number, name, space, denotes, pathMem⟩
      · exact refused_collection denotes pathMem _
      · refine refused_collection denotes ?_ _
        exact isPaired_of_mem_moments isMoment denotes.isThere pathMem
  | dispatch taken =>
      rcases taken with ⟨number, name, space, denotes, pathMem⟩
      constructor
      · intro hasSchema
        rcases not_not.mp hasSchema with ⟨other, otherName, otherSpace, otherDenotes, schemaMem⟩
        exact refused_dispatch_of_schema otherDenotes schemaMem _
      · intro lacks
        exact left_dispatch denotes (fun schemaMem => lacks ⟨number, name, space, denotes, schemaMem⟩) _
  | dispatchTo taken isReference =>
      rcases taken with ⟨number, name, space, denotes, pathMem⟩
      exact ⟨fun _ => refused_dispatchTo denotes pathMem isReference, False.elim⟩
  | dispatchOf taken found =>
      rcases taken with ⟨number, name, space, denotes, pathMem⟩
      exact ⟨fun _ => refused_dispatchOf denotes pathMem found, False.elim⟩

/-- A dispatch refers to a schema that is not there. -/
def referring : List Step :=
  [.command (.create ⟨.text "spec", [], [], none⟩), .command (.dispatchTo (.int 0) (.text "a") (.text "b"))]

/-- A schema with a field, and a dispatch of its name. -/
def sharing : List Step :=
  referring ++ [.schema (.int 0) (.text "a") (.bool false) [.field (.text "x") (.text "uint") false]]

/-- The paths of a kind in the default namespace of the first builder, if that is open. -/
def firstPaths (world : World) (kind : DeclarationKind) : Option (List String) :=
  (world.builders[0]?.filter fun builder => !builder.frozen).bind fun builder =>
    (builder.graph.space? Name.defaultSpace).map fun space => space.taken kind

theorem isTaken_of_firstPaths {kind : DeclarationKind} {paths : List String} {path : String}
    (named : world.scope[0]? = some 0) (told : firstPaths world kind = some paths)
    (isName : Reference.parse reference = .ok ⟨Name.defaultSpace, path⟩) (pathMem : path ∈ paths) :
    world.IsTaken (.int 0) reference kind := by
  rcases Option.bind_eq_some_iff.mp told with ⟨builder, isBuilder, told⟩
  rcases Option.map_eq_some_iff.mp told with ⟨space, isSpace, rfl⟩
  rcases Option.filter_eq_some_iff.mp isBuilder with ⟨isFirst, isOpen⟩
  have denotes : world.Denotes (.int 0) reference 0 ⟨Name.defaultSpace, path⟩ space := {
    isNumber := perform_numberOf named
    isName := isName
    isOpen := World.isOpen_ofBuilder isFirst (by simpa using isOpen) _
    isThere := (World.space?_ofBuilder isFirst _).trans isSpace }
  exact ⟨0, ⟨Name.defaultSpace, path⟩, space, denotes, pathMem⟩

theorem repetition_refused_sharing :
    let world := after (World.start Files.empty) sharing
    (Step.dispatch (.int 0) (.text "a") [.giveUp "no"]).IsRefused world := by
  intro world
  have isMoment : world ∈ World.start Files.empty :: moments (World.start Files.empty) sharing :=
    after_take_mem sharing.length sharing (World.start Files.empty)
  have schemaPaths : firstPaths world .schema = some ["a"] := by decide +kernel
  have dispatchPaths : firstPaths world .dispatch = some ["a"] := by decide +kernel
  have isSchema : world.IsTaken (.int 0) (.text "a") .schema :=
    isTaken_of_firstPaths (by decide +kernel) schemaPaths (by rfl) (List.mem_singleton_self _)
  have isDispatch : world.IsTaken (.int 0) (.text "a") .dispatch :=
    isTaken_of_firstPaths (by decide +kernel) dispatchPaths (by rfl) (List.mem_singleton_self _)
  exact ((repetition_refused Files.empty sharing isMoment).1 _ (.dispatch isDispatch)).1 fun lacks => lacks isSchema

/-- A dispatch with a body is refused as declared twice, but its schema was declared before. -/
theorem schema_left_referring :
    let world := after (World.start Files.empty) referring
    let step := Step.dispatch (.int 0) (.text "a") [.field (.text "x") (.text "uint") false]
    let ref : SchemaRef := ⟨⟨.builder 0, Name.defaultSpace⟩, "a"⟩
    world ∈ World.start Files.empty :: moments (World.start Files.empty) referring ∧ step.Repeats world ∧
      (perform world step).1 = .error (.duplicate .dispatch (.text "@default/a") none) ∧
      world.schema? ref = none ∧
      ((perform world step).2.schema? ref).map (fun schema => schema.fields.length) = some 1 ∧
      ¬step.IsRefused world := by
  intro world step ref
  have dispatchPaths : firstPaths world .dispatch = some ["a"] := by decide +kernel
  have isDispatch : world.IsTaken (.int 0) (.text "a") .dispatch :=
    isTaken_of_firstPaths (by decide +kernel) dispatchPaths (by rfl) (List.mem_singleton_self _)
  have absent : (world.schema? ref).isSome = false := by decide +kernel
  have left : ((perform world step).2.schema? ref).map (fun schema => schema.fields.length) = some 1 := by
    decide +kernel
  refine ⟨after_take_mem referring.length referring (World.start Files.empty), .dispatch isDispatch, ?_, ?_, left, ?_⟩
  · rfl
  · exact Option.isNone_iff_eq_none.mp (Option.isSome_eq_false_iff.mp absent)
  · rintro ⟨kind, name, refused⟩
    have whole : perform world step = (_, world) := refused [.field (.text "x") (.text "uint") false]
    rw [whole] at left
    rw [Option.isSome_eq_false_iff, Option.isNone_iff_eq_none] at absent
    rw [absent] at left
    cases left

end Session

end SpecGraph
