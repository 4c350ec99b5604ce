import SpecGraph.Proofs.Document.Fields
import SpecGraph.Proofs.World.Frozen

/-!
# Declaring the pieces of a document

Every declaration of a document puts its piece into the graph of an open builder if the piece is admitted. Otherwise
something is declared twice: the declaration fails with an error that tells this, and what it added before stays at
the end. So a document is declared as a whole if its names are told apart and none is taken, and this is the only way
in which a document without problems fails on an open builder.
-/

namespace SpecGraph

namespace Namespace

variable {space : Namespace} {name : String} {schemas : List Schema}

/-- A piece is admitted if its schemas, its collections and its dispatches are. -/
theorem admits_iff {piece : Namespace} :
    space.Admits piece ↔ space.Frees piece.schemas ∧
      ((piece.paths .collection).Nodup ∧ ∀ path ∈ piece.paths .collection, path ∉ space.taken .collection) ∧
      ((piece.paths .dispatch).Nodup ∧ ∀ path ∈ piece.paths .dispatch, path ∉ space.taken .dispatch) := by
  constructor
  · exact fun admits => ⟨admits .schema, admits .collection, admits .dispatch⟩
  · rintro ⟨ofSchemas, ofCollections, ofDispatches⟩ kind
    cases kind with
    | schema => exact ofSchemas
    | collection => exact ofCollections
    | dispatch => exact ofDispatches
    | field => exact ⟨List.nodup_nil, List.forall_mem_nil _⟩

theorem admits_schemas : space.Admits ⟨name, schemas, [], [], []⟩ ↔ space.Frees schemas := by
  rw [admits_iff]
  simp [paths]

theorem admits_collection {collection : Collection} : space.Admits ⟨name, schemas, [collection], [], []⟩ ↔
    space.Frees schemas ∧ collection.path ∉ space.taken .collection := by
  rw [admits_iff]
  simp [paths]

theorem admits_dispatch {dispatch : Dispatch} : space.Admits ⟨name, schemas, [], [dispatch], []⟩ ↔
    space.Frees schemas ∧ dispatch.path ∉ space.taken .dispatch := by
  rw [admits_iff]
  simp [paths]

theorem put_schemas : space.put ⟨name, schemas, [], [], []⟩ = { space with schemas := space.schemas ++ schemas } := by
  rw [put, List.append_nil, List.append_nil]

theorem put_collection {collection : Collection} : space.put ⟨name, schemas, [collection], [], []⟩ =
    { space.addCollection collection with schemas := space.schemas ++ schemas } := by
  rw [put, List.append_nil]
  rfl

theorem put_dispatch {dispatch : Dispatch} : space.put ⟨name, schemas, [], [dispatch], []⟩ =
    ({ space with schemas := space.schemas ++ schemas } : Namespace).addDispatch dispatch := by
  rw [put, List.append_nil]
  rfl

/-- The key of a collection that was added is set. -/
theorem modifyCollection_addCollection (space : Namespace) {path : String} (fresh : path ∉ space.taken .collection)
    (first key : List Data) :
    (space.addCollection ⟨path, first⟩).modifyCollection path (fun collection => { collection with key }) =
      space.addCollection ⟨path, key⟩ := by
  have absent : space.collections.find? (fun collection => collection.path == path) = none := collection?_of_free fresh
  unfold modifyCollection addCollection
  dsimp only
  rw [replaceFirst_append, absent, Option.isSome_none, if_neg Bool.false_ne_true, replaceFirst,
    if_pos (beq_self_eq_true path)]

end Namespace

namespace Run

open Effect Document

/-- An operation comes to a namespace with a piece if the piece is admitted by it. Otherwise it fails since something
is declared twice, with more in the namespace than at first. It may start when a part of the piece is there already. -/
structure Lays (number : Nat) (operation : Run Unit) (first space piece : Namespace) : Prop where
  /-- It comes to what is admitted. -/
  admitted : first.Admits piece → Fills number operation space (.ok ()) (first.put piece)
  /-- It fails if something is not admitted. -/
  refused : ¬first.Admits piece → ∃ kind name later,
    first.Extends later ∧ Fills number operation space (.error (.duplicate kind name none)) later

section Lays

variable {number : Nat} {space after piece : Namespace}

/-- An operation that needs a part of what is admitted is followed by one that needs the rest. -/
theorem Lays.bind {α : Type} {operation : Run α} {next : α → Run Unit} {value : α} {fits : Prop} {between : Namespace}
    (needed : space.Admits piece → fits) (succeeds : fits → Fills number operation after (.ok value) between)
    (fails : ¬fits → ∃ kind name later,
      space.Extends later ∧ Fills number operation after (.error (.duplicate kind name none)) later)
    (rest : fits → Lays number (next value) space between piece) :
    Lays number (operation >>= next) space after piece := by
  refine ⟨fun admits => ?_, fun refuses => ?_⟩
  · have isFit := needed admits
    exact (succeeds isFit).bind ((rest isFit).admitted admits)
  · by_cases isFit : fits
    · rcases (rest isFit).refused refuses with ⟨kind, name, later, extended, failed⟩
      exact ⟨kind, name, later, extended, (succeeds isFit).bind failed⟩
    · rcases fails isFit with ⟨kind, name, later, extended, failed⟩
      exact ⟨kind, name, later, extended, failed.bind_error⟩

/-- A schema of the piece is registered first. -/
theorem lays_addSchema {made : Schema} {next : SchemaRef → Run Unit} (part : made.path ∈ piece.paths .schema)
    (rest : made.path ∉ space.taken .schema →
      Lays number (next ⟨⟨.builder number, space.name⟩, made.path⟩) space (space.addSchema made) piece) :
    Lays number (addSchema ⟨.builder number, space.name⟩ made >>= next) space space piece := by
  refine Lays.bind (fun admits => (admits .schema).2 made.path part) (fills_addSchema made) (fun taken => ?_) rest
  exact ⟨_, _, space, .refl space, fills_addSchema_of_taken made (not_not.mp taken)⟩

section Body

variable {path : String} {compact : Data} {keyed : Bool} {fields : List FieldDecl} (named : after.name = space.name)
  (added : after.schemas = space.schemas ++ [Schema.empty path compact keyed]) (guests : after.guests = space.guests)
  (fresh : path ∉ space.taken .schema) (valid : FieldDecl.AreValid fields)
include added fresh

theorem grow_body (others : List Field) (nested : List Schema) :
    after.grow path others nested =
      { after with schemas := space.schemas ++ (Schema.empty path compact keyed).extend others :: nested } :=
  Namespace.grow_concat added fresh others nested

include named valid

variable (number) in
theorem grows_body :
    Grows number (declareFields ⟨⟨.builder number, space.name⟩, path⟩ fields) after path
      (fields.map (FieldDecl.toField ⟨space.name, path⟩)) (FieldDecl.allNested ⟨space.name, path⟩ fields) := by
  rw [← named]
  exact grows_declareFields fields valid (Namespace.schema?_concat added fresh) fun field _ => rfl

include guests

/-- The fields of a schema that was added last are declared if nothing in them is taken. -/
theorem fills_body (frees : space.Frees (FieldDecl.schemas ⟨space.name, path⟩ compact keyed fields)) :
    Fills number (declareFields ⟨⟨.builder number, space.name⟩, path⟩ fields) after (.ok ())
      { after with schemas := space.schemas ++ FieldDecl.schemas ⟨space.name, path⟩ compact keyed fields } := by
  have filled := (grows_body number named added fresh valid).free ((Namespace.frees_cons added guests rfl).mp frees).2
  rwa [grow_body added fresh] at filled

/-- The fields of a schema that was added last are not all declared if something in them is taken. -/
theorem fills_body_of_taken (collections : space.collections <+: after.collections)
    (dispatches : space.dispatches <+: after.dispatches)
    (taken : ¬space.Frees (FieldDecl.schemas ⟨space.name, path⟩ compact keyed fields)) :
    ∃ kind name later, space.Extends later ∧
      Fills number (declareFields ⟨⟨.builder number, space.name⟩, path⟩ fields) after
        (.error (.duplicate kind name none)) later := by
  have notFree : ¬after.Frees (FieldDecl.allNested ⟨space.name, path⟩ fields) :=
    fun free => taken ((Namespace.frees_cons added guests rfl).mpr ⟨fresh, free⟩)
  rcases (grows_body number named added fresh valid).taken notFree with ⟨kind, name, others, nested, failed⟩
  rw [grow_body added fresh] at failed
  refine ⟨kind, name, _, ?_, failed⟩
  exact ⟨named, List.prefix_append _ _, collections, dispatches, guests⟩

end Body

variable {path : String} {fields : List FieldDecl}

/-- A schema is declared with its fields. -/
theorem lays_schema (valid : FieldDecl.AreValid fields) (compact : Data) :
    Lays number (do
        let ref ← addSchema ⟨.builder number, space.name⟩ (Schema.empty path compact false)
        declareFields ref fields) space space
      ⟨space.name, FieldDecl.schemas ⟨space.name, path⟩ compact false fields, [], [], []⟩ := by
  refine lays_addSchema List.mem_cons_self fun fresh => ⟨fun admits => ?_, fun refuses => ?_⟩
  · rw [Namespace.put_schemas]
    exact fills_body rfl rfl rfl fresh valid (Namespace.admits_schemas.mp admits)
  · rw [Namespace.admits_schemas] at refuses
    exact fills_body_of_taken rfl rfl rfl fresh valid (List.prefix_refl _) (List.prefix_refl _) refuses

/-- A dispatch is declared after the schema of its requests. -/
theorem lays_inlineDispatch (valid : FieldDecl.AreValid fields) :
    Lays number (do
        let ref ← addSchema ⟨.builder number, space.name⟩ (Schema.empty path (.bool false) false)
        declareFields ref fields
        addDispatch ⟨.builder number, space.name⟩ ⟨path, ref.address⟩) space space
      ⟨space.name, FieldDecl.schemas ⟨space.name, path⟩ (.bool false) false fields, [],
        [⟨path, Name.format ⟨space.name, path⟩⟩], []⟩ := by
  refine lays_addSchema List.mem_cons_self fun fresh => ?_
  refine Lays.bind (fun admits => (Namespace.admits_dispatch.mp admits).1) (fills_body rfl rfl rfl fresh valid)
    (fills_body_of_taken rfl rfl rfl fresh valid (List.prefix_refl _) (List.prefix_refl _)) fun frees => ?_
  let dispatch : Dispatch := ⟨path, Name.format ⟨space.name, path⟩⟩
  let declared : Namespace :=
    { space with schemas := space.schemas ++ FieldDecl.schemas ⟨space.name, path⟩ (.bool false) false fields }
  refine ⟨fun admits => ?_, fun refuses => ?_⟩
  · rw [Namespace.put_dispatch]
    exact fills_register_of_free (.ofDispatch dispatch) (Namespace.admits_dispatch.mp admits).2
  · rw [Namespace.admits_dispatch, and_iff_right frees, not_not] at refuses
    have extended : space.Extends declared :=
      ⟨rfl, List.prefix_append _ _, List.prefix_refl _, List.prefix_refl _, rfl⟩
    exact ⟨_, _, declared, extended, fills_register_of_taken (.ofDispatch dispatch) refuses⟩

/-- A dispatch is registered for the requests of a schema. -/
theorem lays_dispatch (dispatch : Dispatch) :
    Lays number (addDispatch ⟨.builder number, space.name⟩ dispatch) space space
      ⟨space.name, [], [], [dispatch], []⟩ := by
  refine ⟨fun admits => ?_, fun refuses => ?_⟩
  · rw [Namespace.put_dispatch, List.append_nil]
    exact fills_register_of_free (.ofDispatch dispatch) (Namespace.admits_dispatch.mp admits).2
  · rw [Namespace.admits_dispatch, and_iff_right Namespace.frees_nil, not_not] at refuses
    exact ⟨_, _, space, .refl space, fills_register_of_taken (.ofDispatch dispatch) refuses⟩

/-- The key of a collection that was registered is set, if there is one. -/
theorem fills_setKey {found : Schema} (here : after.schema? path = some found) (isKeyed : found.keyed = true)
    (named : after.name = space.name) (key : List Data) :
    Fills number (setKey ⟨⟨.builder number, space.name⟩, path⟩ key) after (.ok ())
      (after.modifyCollection path fun collection => { collection with key }) := by
  rw [← named]
  unfold setKey
  refine (fills_schema here).bind ?_
  rw [isKeyed]
  exact fills_ensureOpen.bind (fills_modifySpace (fun space => space.modifyCollection path _) rfl)

/-- A collection is declared with the fields of its schema, after its key. -/
theorem lays_collection (valid : FieldDecl.AreValid fields) (key : List Data) :
    Lays number (do
        let ref ← addKeyedSchema ⟨.builder number, space.name⟩ path
        if !key.isEmpty then setKey ref key
        declareFields ref fields) space space
      ⟨space.name, FieldDecl.schemas ⟨space.name, path⟩ (.bool false) true fields, [⟨path, key⟩], [], []⟩ := by
  unfold addKeyedSchema
  simp only [bind_assoc, pure_bind]
  refine lays_addSchema List.mem_cons_self fun fresh => ?_
  let made := Schema.empty path (.bool false) true
  have registers (free : path ∉ space.taken .collection) :
      Fills number (addCollection ⟨.builder number, space.name⟩ ⟨path, []⟩) (space.addSchema made) (.ok ())
        ((space.addSchema made).addCollection ⟨path, []⟩) :=
    fills_register_of_free (.ofCollection ⟨path, []⟩) free
  have refuses (taken : path ∈ space.taken .collection) :
      Fills number (addCollection ⟨.builder number, space.name⟩ ⟨path, []⟩) (space.addSchema made)
        (.error (.duplicate .collection _ none)) (space.addSchema made) :=
    fills_register_of_taken (.ofCollection ⟨path, []⟩) taken
  refine Lays.bind (fun admits => (Namespace.admits_collection.mp admits).2) registers
    (fun taken => ⟨_, _, _, ?_, refuses (not_not.mp taken)⟩) fun freshCollection => ?_
  · exact ⟨rfl, List.prefix_append _ _, List.prefix_refl _, List.prefix_refl _, rfl⟩
  have body : Lays number (declareFields ⟨⟨.builder number, space.name⟩, path⟩ fields) space
      ((space.addSchema made).addCollection ⟨path, key⟩)
      ⟨space.name, FieldDecl.schemas ⟨space.name, path⟩ (.bool false) true fields, [⟨path, key⟩], [], []⟩ := by
    have added : ((space.addSchema made).addCollection ⟨path, key⟩).schemas = space.schemas ++ [made] := rfl
    refine ⟨fun admits => ?_, fun refuses => ?_⟩
    · rw [Namespace.put_collection]
      exact fills_body rfl added rfl fresh valid (Namespace.admits_collection.mp admits).1
    · rw [Namespace.admits_collection, and_iff_left freshCollection] at refuses
      exact fills_body_of_taken rfl added rfl fresh valid (List.prefix_append _ _) (List.prefix_refl _) refuses
  cases noKey : key.isEmpty with
  | true =>
      rw [List.isEmpty_iff] at noKey
      subst noKey
      exact body
  | false =>
      have here : ((space.addSchema made).addCollection ⟨path, []⟩).schema? path = some made :=
        Namespace.schema?_concat rfl fresh
      have isSet := (space.addSchema made).modifyCollection_addCollection freshCollection [] key
      have sets : Fills number (setKey ⟨⟨.builder number, space.name⟩, path⟩ key) _ _ _ := fills_setKey here rfl rfl key
      rw [isSet] at sets
      refine ⟨fun admits => ?_, fun refuses => ?_⟩
      · exact sets.bind (body.admitted admits)
      · rcases body.refused refuses with ⟨kind, name, later, extended, failed⟩
        exact ⟨kind, name, later, extended, sets.bind failed⟩

end Lays

/-- An operation puts pieces into the graph of an open builder if they are admitted. Otherwise it fails since something
is declared twice, with more in the graph than before. -/
structure Adds (number : Nat) (operation : Run Unit) (pieces : List Namespace) (graph : Graph) : Prop where
  /-- It puts what is admitted. -/
  admitted : graph.Admits (Graph.namesOf pieces) → Turns number operation graph (.ok ()) (pieces.foldl Graph.put graph)
  /-- It fails if something is not admitted. -/
  refused : ¬graph.Admits (Graph.namesOf pieces) → ∃ kind name later,
    graph.Extends later ∧ Turns number operation graph (.error (.duplicate kind name none)) later

section Adds

variable {number : Nat} {graph : Graph}

theorem adds_pure (graph : Graph) : Adds number (pure ()) [] graph := by
  refine ⟨fun _ => turns_pure (), fun refuses => (refuses fun _ => ?_).elim⟩
  exact ⟨List.nodup_nil, List.forall_mem_nil _⟩

theorem Adds.bind {first rest : Run Unit} {pieces more : List Namespace} (head : Adds number first pieces graph)
    (tail : Adds number rest more (pieces.foldl Graph.put graph)) :
    Adds number (do first; rest) (pieces ++ more) graph := by
  refine ⟨fun admits => ?_, fun refuses => ?_⟩
  · rcases Graph.admits_append.mp admits with ⟨admitsFirst, admitsRest⟩
    rw [List.foldl_append]
    exact (head.admitted admitsFirst).bind (tail.admitted admitsRest)
  · by_cases admitsFirst : graph.Admits (Graph.namesOf pieces)
    · rcases tail.refused fun admitsRest => refuses (Graph.admits_append.mpr ⟨admitsFirst, admitsRest⟩) with
        ⟨kind, name, later, extended, failed⟩
      have grown := Graph.extends_foldl_put graph pieces
      exact ⟨kind, name, later, grown.trans extended, (head.admitted admitsFirst).bind failed⟩
    · rcases head.refused admitsFirst with ⟨kind, name, later, extended, failed⟩
      exact ⟨kind, name, later, extended, failed.bind_error⟩

/-- Each of several declarations adds a piece. -/
theorem adds_forM {α : Type} {items : List α} {declare : α → Run Unit} {pieceOf : α → Namespace}
    (each : ∀ item ∈ items, ∀ graph, Adds number (declare item) [pieceOf item] graph) :
    ∀ graph, Adds number (items.forM declare) (items.map pieceOf) graph := by
  induction items with
  | nil => exact adds_pure
  | cons item rest ih =>
      rw [List.forall_mem_cons] at each
      exact fun graph => (each.1 graph).bind (ih each.2 _)

/-- A declaration adds a piece if it lays it into the namespace of its name. -/
theorem adds_of_lays {reference : Data} (isName : reference.IsName) {declare : SpaceRef × String → Run Unit}
    {piece : Namespace} (named : piece.name = reference.toName.space)
    (lays : ∀ space : Namespace, space.name = reference.toName.space →
      Lays number (declare (⟨.builder number, space.name⟩, reference.toName.path)) space space piece) (graph : Graph) :
    Adds number (do
        ensureBuilderOpen number
        let opened ← resolve number reference
        declare opened) [piece] graph := by
  let space := (graph.space? piece.name).getD (Namespace.empty piece.name)
  have found : (graph.ensure piece.name).space? piece.name = some space := by rw [Graph.space?_ensure, if_pos rfl]
  have sameName : space.name = piece.name := Graph.name_of_space? found
  have decides : graph.Admits (Graph.namesOf [piece]) ↔ space.Admits piece := by
    have single : Graph.namesOf [piece] = piece.names := funext fun kind => List.flatMap_singleton _ _
    rw [single]
    exact Graph.admits_names_iff found
  have declares := lays space (sameName.trans named)
  have turns {outcome : Except Error Unit} {later : Namespace}
      (fills : Fills number (declare (⟨.builder number, space.name⟩, reference.toName.path)) space outcome later) :
      Turns number (do
        ensureBuilderOpen number
        let opened ← resolve number reference
        declare opened) graph outcome ((graph.ensure piece.name).setSpace later) := by
    have opens : Turns number (resolve number reference) graph _ _ := turns_resolve isName.parse
    rw [← named] at opens
    have filled := fills.2 (graph.ensure piece.name) (sameName ▸ found)
    rw [sameName] at filled
    exact turns_ensureBuilderOpen.bind (opens.bind filled)
  refine ⟨fun admits => ?_, fun refuses => ?_⟩
  · rw [List.foldl_cons, List.foldl_nil, Graph.put_eq_setSpace found]
    exact turns (declares.admitted (decides.mp admits))
  · rw [decides] at refuses
    rcases declares.refused refuses with ⟨kind, name, later, extended, failed⟩
    refine ⟨kind, name, _, (Graph.extends_ensure graph piece.name).trans ?_, turns failed⟩
    refine Graph.extends_setSpace ?_ extended
    rw [extended.name, sameName]
    exact found

end Adds

/-- A dispatch for the requests of the schema of a name is registered at once. -/
theorem discard_declareDispatch (number : Nat) (reference : Data) {target : Data} (isName : target.IsName) :
    discard (declareDispatch number reference target) = (do
      ensureBuilderOpen number
      let opened ← resolve number reference
      addDispatch opened.1 ⟨opened.2, target.toName.format⟩) := by
  have normalized := isName.normalize
  rcases isName with ⟨text, rfl, _⟩
  have isText : ¬(Data.text text).text?.isNone = true := Bool.false_ne_true
  have read : ofExcept (.ok (Data.text text).toName.format) = (pure (Data.text text).toName.format : Run String) := rfl
  rw [discard_eq]
  unfold declareDispatch openDispatch
  simp only [bind_assoc]
  refine congrArg _ (funext fun _ => congrArg _ (funext fun opened => ?_))
  rcases opened with ⟨space, path⟩
  dsimp only
  rw [if_neg isText, normalized, read]
  simp only [bind_assoc, pure_bind]
  exact bind_pure_unit

end Run

namespace Document

open Effect Run

variable {number : Nat}

/-- A schema of a document adds its piece. -/
theorem adds_declareSchema {schema : SchemaDecl} (isName : schema.name.IsName)
    (valid : FieldDecl.AreValid schema.fields) (graph : Graph) :
    Adds number (declareSchema number schema) [schema.piece] graph := by
  unfold declareSchema Run.declareSchema
  simp only [bind_assoc]
  refine adds_of_lays isName rfl (fun space named => ?_) graph
  have same : schema.piece = ⟨space.name, FieldDecl.schemas ⟨space.name, schema.name.toName.path⟩ schema.compact false
      schema.fields, [], [], []⟩ := by rw [named]; rfl
  rw [same]
  exact lays_schema valid schema.compact

/-- A collection of a document adds its piece. -/
theorem adds_declareCollection {collection : CollectionDecl} (isName : collection.name.IsName)
    (valid : FieldDecl.AreValid collection.fields) (graph : Graph) :
    Adds number (declareCollection number collection) [collection.piece] graph := by
  unfold declareCollection Run.declareCollection
  simp only [bind_assoc]
  refine adds_of_lays isName rfl (fun space named => ?_) graph
  have same : collection.piece = ⟨space.name, FieldDecl.schemas ⟨space.name, collection.name.toName.path⟩ (.bool false)
      true collection.fields, [⟨collection.name.toName.path, collection.key⟩], [], []⟩ := by rw [named]; rfl
  rw [same]
  exact lays_collection valid collection.key

/-- A dispatch of a document adds its piece. -/
theorem adds_declareDispatch {dispatch : DispatchDecl} (valid : dispatch.IsValid) (graph : Graph) :
    Adds number (declareDispatch number dispatch) [dispatch.piece] graph := by
  rcases dispatch with ⟨name, request, fields⟩
  rcases valid.request with ⟨rfl, fields, rfl⟩ | ⟨isRequest, rfl⟩
  · unfold declareDispatch Run.openDispatch
    simp only [bind_assoc]
    refine adds_of_lays valid.name rfl (fun space named => ?_) graph
    have same : DispatchDecl.piece ⟨name, .null, some fields⟩ =
        ⟨space.name, FieldDecl.schemas ⟨space.name, name.toName.path⟩ (.bool false) false fields, [],
          [⟨name.toName.path, Name.format ⟨space.name, name.toName.path⟩⟩], []⟩ := by rw [named]; rfl
    rw [same]
    exact lays_inlineDispatch valid.fields
  · have shape : declareDispatch number ⟨name, request, none⟩ = discard (Run.declareDispatch number name request) := by
      rcases isRequest with ⟨text, rfl, _⟩
      rfl
    rw [shape, discard_declareDispatch number name isRequest]
    refine adds_of_lays valid.name rfl (fun space named => ?_) graph
    have piece : DispatchDecl.piece ⟨name, request, none⟩ =
        ⟨space.name, [], [], [⟨name.toName.path, request.toName.format⟩], []⟩ := by rw [named]; rfl
    rw [piece]
    exact lays_dispatch _

section Apply

variable {value : Data} {document : Document} (read : ofData value = .ok document)
include read

/-- A document without problems adds its pieces. -/
theorem adds_apply (noProblems : document.problems = .ok []) (graph : Graph) :
    Adds number (document.apply number) document.pieces graph := by
  have valid := isValid_of_problems (isRead_of_ofData read) noProblems
  have shape : document.apply number = (do
      document.schemas.forM (declareSchema number)
      document.collections.forM (declareCollection number)
      document.dispatches.forM (declareDispatch number)) := by
    unfold apply
    rw [noProblems]
    rfl
  rw [shape, pieces, List.append_assoc]
  refine (adds_forM (fun schema schemaMem => ?_) graph).bind ((adds_forM (fun collection collectionMem => ?_) _).bind
    (adds_forM (fun dispatch dispatchMem => ?_) _))
  · exact adds_declareSchema (valid.schemaNames schema schemaMem) (valid.schemaFields schema schemaMem)
  · exact adds_declareCollection (valid.collectionNames collection collectionMem)
      (valid.collectionFields collection collectionMem)
  · exact adds_declareDispatch (valid.dispatches dispatch dispatchMem)

end Apply

/-- A collection has the name of its schema. -/
theorem collections_sublist (document : Document) :
    (document.names .collection).Sublist (document.names .schema) := by
  refine Graph.namesOf_sublist fun piece pieceMem => ?_
  unfold pieces at pieceMem
  rw [List.mem_append, List.mem_append, List.mem_map, List.mem_map, List.mem_map] at pieceMem
  rcases pieceMem with (⟨schema, _, rfl⟩ | ⟨collection, _, rfl⟩) | ⟨⟨name, request, fields⟩, _, rfl⟩
  · exact List.nil_sublist _
  · exact (List.nil_sublist _).cons_cons _
  · cases fields <;> exact List.nil_sublist _

/-- A new builder admits a document if its schemas have distinct names, and so do its dispatches. -/
theorem admits_initial_iff {document : Document} :
    Graph.initial.Admits document.names ↔
      (document.names .schema).Nodup ∧ (document.names .dispatch).Nodup := by
  rw [Graph.admits_initial]
  constructor
  · exact fun distinct => ⟨distinct .schema, distinct .dispatch⟩
  · rintro ⟨schemas, dispatches⟩ kind
    cases kind with
    | schema => exact schemas
    | collection => exact schemas.sublist document.collections_sublist
    | dispatch => exact dispatches
    | field => exact schemas.sublist (Graph.namesOf_sublist fun _ _ => List.nil_sublist _)

/-- A document without problems is declared in a new builder if and only if its schemas have distinct names, and so do
its dispatches. Then the builder has the graph that the document describes. Otherwise something is declared twice. -/
theorem apply_eq_flatten {value : Data} {document : Document} (read : ofData value = .ok document)
    (noProblems : document.problems = .ok []) {world : World} {builder : Builder}
    (found : world.builders[number]? = some builder) (isOpen : builder.frozen = false)
    (isNew : builder.graph = Graph.initial) :
    ∃ outcome after, perform (document.apply number) world = (outcome, after) ∧
      (outcome = .ok () ↔ (document.names .schema).Nodup ∧ (document.names .dispatch).Nodup) ∧
      (outcome = .ok () ∨ ∃ kind name, outcome = .error (.duplicate kind name none)) ∧
      (outcome = .ok () → ∃ later, after.builders[number]? = some later ∧
        later = { builder with graph := document.flatten } ∧ later.toData =
          .object [("spec_root", .text builder.specRoot.text), ("namespaces", document.flatten.toData)]) := by
  have adds : Adds number (document.apply number) document.pieces Graph.initial := adds_apply read noProblems _
  rw [← admits_initial_iff]
  by_cases admits : Graph.initial.Admits document.names
  · rcases adds.admitted admits world builder found isOpen isNew with ⟨log, performed⟩
    rw [foldl_put_pieces] at performed
    exact ⟨_, _, performed, iff_of_true rfl admits, Or.inl rfl,
      fun _ => ⟨_, World.getElem?_withGraph found _, rfl, rfl⟩⟩
  · rcases adds.refused admits with ⟨kind, name, later, _, fails⟩
    rcases fails world builder found isOpen isNew with ⟨log, performed⟩
    refine ⟨_, _, performed, iff_of_false (fun succeeded => ?_) admits, Or.inr ⟨kind, name, rfl⟩, fun succeeded => ?_⟩
    · cases succeeded
    · cases succeeded

/-- The world of one new builder. -/
def newWorld : World :=
  { World.start Files.empty with builders := [Builder.create ⟨"", ["spec"]⟩ Settings.default none] }

/-- A document with declarations of all kinds in two namespaces. -/
def hello : Data :=
  .object [
    ("schemas", .list [.object [("name", .text "@hello/full-name"), ("fields", .list [
      .object [("name", .text "first-name"), ("type", .text "string")]])]]),
    ("collections", .list [.object [("name", .text "@hello/users"), ("key", .list [.text "id"]), ("fields", .list [
      .object [("name", .text "id"), ("type", .text "uint")],
      .object [("name", .text "name"), ("struct", .text "@hello/full-name")],
      .object [("name", .text "address"), ("optional", .bool true), ("struct", .object [("fields", .list [
        .object [("name", .text "city"), ("type", .text "string")]])])]])]]),
    ("dispatches", .list [
      .object [("name", .text "@hello/change-name"), ("request", .text "@hello/full-name")],
      .object [("name", .text "ping"), ("fields", .list [])]])]

theorem apply_eq_flatten_hello :
    ∃ document after, ofData hello = .ok document ∧ document.problems = .ok [] ∧
      perform (document.apply 0) newWorld = (.ok (), after) ∧
      ∃ later, after.builders[0]? = some later ∧ later.graph = document.flatten ∧
        later.graph.spaces.map Namespace.name = ["default", "hello"] := by
  have valid : (ofData hello).toOption.any (fun document => document.problems.toOption == some [] &&
      decide ((document.names .schema).Nodup ∧ (document.names .dispatch).Nodup) &&
      document.flatten.spaces.map Namespace.name == ["default", "hello"]) = true := by decide +kernel
  rcases (Option.any_eq_true _ _).mp valid with ⟨document, isDocument, valid⟩
  simp only [Bool.and_eq_true, beq_iff_eq, decide_eq_true_eq] at valid
  rcases valid with ⟨⟨noProblems, distinct⟩, spaces⟩
  have read := eq_ok_of_toOption isDocument
  have noProblems := eq_ok_of_toOption noProblems
  have found : newWorld.builders[0]? = some (Builder.create ⟨"", ["spec"]⟩ Settings.default none) := rfl
  rcases apply_eq_flatten read noProblems found rfl rfl with ⟨outcome, after, performed, succeeds, -, flat⟩
  obtain rfl := succeeds.mpr distinct
  rcases flat rfl with ⟨later, there, rfl, -⟩
  exact ⟨document, after, read, noProblems, performed, _, there, rfl, spaces⟩

/-- A document that declares one schema twice. -/
def repeating : Data := .object [("schemas", .list [.object [("name", .text "a")], .object [("name", .text "a")]])]

end Document

end SpecGraph
