import SpecGraph.Proofs.Document.Valid

/-!
# Reported problems

The problems of a document are told in messages that show the names, the types and the requests of its declarations.
They are found unless a number in one of these has too many digits to be shown, or a field holds a list in the place
of its schema that is not empty: the items of the list are taken for fields. Any other value in that place that is no
name is reported at the place of the field, at any depth.
-/

namespace SpecGraph

/-- A value that is a text has no number with too many digits, also in a store. -/
theorem Data.hasLongNumeral_of_bare_text {value : Data} {word : String} (isText : value.bare = .text word) :
    value.hasLongNumeral = false := by
  cases value with
  | text => rfl
  | marked mark value =>
      change value = .text word at isText
      rw [isText]
      rfl
  | shared store place =>
      have isLeaf : store.layer place = .leaf (.text word) := by
        rw [bare] at isText
        split at isText
        next isLeaf => rw [isLeaf, isText]
        all_goals cases isText
      have met : ∀ other ∈ (store.searchFrom place).places, other = place := by
        unfold Store.searchFrom Store.limit Store.search
        dsimp only
        split
        · exact List.forall_mem_nil _
        · split
          · exact List.forall_mem_nil _
          · rw [isLeaf]
            exact List.forall_mem_singleton.mpr rfl
      change store.anyLeaf place isLongNumeral = false
      rw [Store.anyLeaf, List.any_eq_false]
      intro other otherMem
      rw [met other otherMem, isLeaf]
      simp [Layer.leaves, isLongNumeral]
  | _ => cases isText

mutual

/-- A field whose name and type can be shown, without a list in the place of its schema that is not empty. -/
def FieldDecl.IsTellable : FieldDecl → Prop
  | .plain name type struct _ =>
      name.hasLongNumeral = false ∧ type.hasLongNumeral = false ∧ ∀ first rest, struct.bare ≠ .list (first :: rest)
  | .inline name type _ fields =>
      name.hasLongNumeral = false ∧ type.hasLongNumeral = false ∧ FieldDecl.AreTellable fields

def FieldDecl.AreTellable : List FieldDecl → Prop
  | [] => True
  | field :: rest => field.IsTellable ∧ FieldDecl.AreTellable rest

end

/-- A document whose names and requests can be shown, with tellable fields. -/
structure Document.IsTellable (document : Document) : Prop where
  /-- The names of the schemas can be shown. -/
  schemaNames : ∀ schema ∈ document.schemas, schema.name.hasLongNumeral = false
  /-- The fields of the schemas are tellable. -/
  schemaFields : ∀ schema ∈ document.schemas, FieldDecl.AreTellable schema.fields
  /-- The names of the collections can be shown. -/
  collectionNames : ∀ collection ∈ document.collections, collection.name.hasLongNumeral = false
  /-- The fields of the collections are tellable. -/
  collectionFields : ∀ collection ∈ document.collections, FieldDecl.AreTellable collection.fields
  /-- The names of the dispatches can be shown. -/
  dispatchNames : ∀ dispatch ∈ document.dispatches, dispatch.name.hasLongNumeral = false
  /-- The requests can be shown. -/
  requests : ∀ dispatch ∈ document.dispatches, dispatch.request.hasLongNumeral = false
  /-- The fields of the dispatches are tellable. -/
  dispatchFields : ∀ dispatch ∈ document.dispatches, FieldDecl.AreTellable (dispatch.fields.getD [])

/-- A field stands at a place, among the fields of another place or inside them. -/
inductive FieldDecl.IsAt : String → List FieldDecl → String → FieldDecl → Prop where
  | here {place : String} {fields : List FieldDecl} {field : FieldDecl} (fieldMem : field ∈ fields) :
      IsAt place fields place field
  | inside {place innerPlace : String} {fields inner : List FieldDecl} {name type optional : Data} {field : FieldDecl}
      (holderMem : inline name type optional inner ∈ fields)
      (isAt : IsAt (place ++ "/" ++ name.display) inner innerPlace field) : IsAt place fields innerPlace field

/-- A field stands at a place of a document. -/
inductive Document.HasAt (document : Document) (place : String) (field : FieldDecl) : Prop where
  | schema {schema : SchemaDecl} (schemaMem : schema ∈ document.schemas)
      (isAt : FieldDecl.IsAt ("schema " ++ Message.inQuotes schema.name.display) schema.fields place field)
  | collection {collection : CollectionDecl} (collectionMem : collection ∈ document.collections)
      (isAt : FieldDecl.IsAt ("collection " ++ Message.inQuotes collection.name.display) collection.fields place field)
  | dispatch {dispatch : DispatchDecl} (dispatchMem : dispatch ∈ document.dispatches)
      (isAt : FieldDecl.IsAt ("dispatch " ++ Message.inQuotes dispatch.name.display) (dispatch.fields.getD []) place
        field)

/-- The message that reports what a field of a place gives for its schema. -/
def Document.structMessage (place : String) (name : Data) : String :=
  place ++ ": field " ++ Message.inQuotes name.display ++ ": struct must be a schema name or a mapping with 'fields'"

namespace Document

section Values

theorem shown_eq_ok {value : Data} {text : String} :
    shown value = .ok text ↔ value.hasLongNumeral = false ∧ text = value.display := by
  unfold shown Data.shown
  cases value.hasLongNumeral with
  | true => exact iff_of_false (fun found => by cases found) fun both => Bool.noConfusion both.1
  | false => exact ⟨fun found => ⟨rfl, (Except.ok.inj found).symm⟩, fun both => congrArg Except.ok both.2.symm⟩

theorem exists_shown {value : Data} : (∃ text, shown value = .ok text) ↔ value.hasLongNumeral = false :=
  ⟨fun ⟨_, found⟩ => (shown_eq_ok.mp found).1, fun short => ⟨_, shown_eq_ok.mpr ⟨short, rfl⟩⟩⟩

theorem exists_nameProblems {name : Data} {place : String} :
    (∃ messages, nameProblems name place = .ok messages) ↔ name.hasLongNumeral = false := by
  refine ⟨fun ⟨messages, found⟩ => ?_, fun short => ?_⟩
  · rcases bind_eq_ok.mp found with ⟨text, isShown, _⟩
    exact (shown_eq_ok.mp isShown).1
  · have isShown : shown name = .ok name.display := shown_eq_ok.mpr ⟨short, rfl⟩
    cases name with
    | text word =>
        cases isRead : Name.parse word with
        | ok name => exact ⟨_, bind_eq_ok.mpr ⟨_, isShown, by dsimp only; rw [isRead]; rfl⟩⟩
        | error fault => exact ⟨_, bind_eq_ok.mpr ⟨_, isShown, by dsimp only; rw [isRead]; rfl⟩⟩
    | _ => exact ⟨_, bind_eq_ok.mpr ⟨_, isShown, rfl⟩⟩

theorem exists_typeProblems {type : Data} {label : String} :
    (∃ messages, typeProblems label type = .ok messages) ↔ type.hasLongNumeral = false := by
  cases type with
  | null => exact iff_of_true ⟨_, rfl⟩ rfl
  | text tag =>
      refine iff_of_true ?_ rfl
      unfold typeProblems
      dsimp only
      cases FieldTag.isTag tag with
      | true => exact ⟨_, rfl⟩
      | false => exact ⟨_, rfl⟩
  | _ =>
      refine Iff.trans ⟨fun ⟨messages, found⟩ => ?_, fun ⟨text, found⟩ => ?_⟩ exists_shown
      · rcases bind_eq_ok.mp found with ⟨text, isShown, _⟩
        exact ⟨text, isShown⟩
      · exact ⟨_, bind_eq_ok.mpr ⟨text, found, rfl⟩⟩

theorem exists_structProblems {struct : Data} {label : String} :
    (∃ messages, structProblems label struct = .ok messages) ↔ ∀ first rest, struct.bare ≠ .list (first :: rest) := by
  unfold structProblems
  split
  next isNull => exact iff_of_true ⟨_, rfl⟩ fun _ _ => by simp [isNull]
  next isText =>
    refine iff_of_true (exists_nameProblems.mpr (Data.hasLongNumeral_of_bare_text isText)) fun _ _ => ?_
    simp [isText]
  next first rest isList =>
    exact iff_of_false (fun ⟨_, found⟩ => by cases found) fun noList => noList first rest isList
  next isEmpty => exact iff_of_true ⟨_, rfl⟩ fun _ _ => by simp [isEmpty]
  next noItems _ => exact iff_of_true ⟨_, rfl⟩ fun first rest isList => noItems first rest isList

end Values

mutual

/-- The problems of a tellable field are found, and those of no other. -/
theorem exists_fieldProblems : ∀ (field : FieldDecl) (place : String),
    (∃ messages, fieldProblems place field = .ok messages) ↔ field.IsTellable
  | .plain name type struct optional, place => by
      refine ⟨fun ⟨messages, found⟩ => ?_, fun ⟨ofName, ofType, ofStruct⟩ => ?_⟩
      · rcases bind_eq_ok.mp found with ⟨label, isLabel, found⟩
        rcases bind_eq_ok.mp isLabel with ⟨text, isShown, _⟩
        rcases bind_eq_ok.mp found with ⟨ofType, isType, found⟩
        rcases bind_eq_ok.mp found with ⟨ofStruct, isStruct, _⟩
        exact ⟨exists_shown.mp ⟨text, isShown⟩, exists_typeProblems.mp ⟨ofType, isType⟩,
          exists_structProblems.mp ⟨ofStruct, isStruct⟩⟩
      · rcases exists_shown.mpr ofName with ⟨text, isShown⟩
        rcases exists_typeProblems.mpr ofType with ⟨ofType, isType⟩
        rcases exists_structProblems.mpr ofStruct with ⟨ofStruct, isStruct⟩
        exact ⟨_, bind_eq_ok.mpr ⟨_, bind_eq_ok.mpr ⟨text, isShown, rfl⟩, bind_eq_ok.mpr
          ⟨ofType, isType, bind_eq_ok.mpr ⟨ofStruct, isStruct, rfl⟩⟩⟩⟩
  | .inline name type optional fields, place => by
      refine ⟨fun ⟨messages, found⟩ => ?_, fun ⟨ofName, ofType, ofFields⟩ => ?_⟩
      · rcases bind_eq_ok.mp found with ⟨label, isLabel, found⟩
        rcases bind_eq_ok.mp found with ⟨ofType, isType, found⟩
        rcases bind_eq_ok.mp found with ⟨text, isShown, found⟩
        rcases bind_eq_ok.mp found with ⟨inner, isInner, _⟩
        exact ⟨exists_shown.mp ⟨text, isShown⟩, exists_typeProblems.mp ⟨ofType, isType⟩,
          (exists_fieldsProblems fields _ _).mp ⟨inner, isInner⟩⟩
      · rcases exists_shown.mpr ofName with ⟨text, isShown⟩
        rcases exists_typeProblems.mpr ofType with ⟨ofType, isType⟩
        rcases (exists_fieldsProblems fields (place ++ "/" ++ text) []).mpr ofFields with ⟨inner, isInner⟩
        exact ⟨_, bind_eq_ok.mpr ⟨_, bind_eq_ok.mpr ⟨text, isShown, rfl⟩, bind_eq_ok.mpr
          ⟨ofType, isType, bind_eq_ok.mpr ⟨text, isShown, bind_eq_ok.mpr ⟨inner, isInner, rfl⟩⟩⟩⟩⟩

theorem exists_fieldsProblems : ∀ (fields : List FieldDecl) (place : String) (seen : List Data),
    (∃ messages, fieldsProblems place seen fields = .ok messages) ↔ FieldDecl.AreTellable fields
  | [], _, _ => iff_of_true ⟨_, rfl⟩ trivial
  | field :: rest, place, seen => by
      refine ⟨fun ⟨messages, found⟩ => ?_, fun ⟨ofField, ofRest⟩ => ?_⟩
      · rcases bind_eq_ok.mp found with ⟨own, isOwn, found⟩
        rcases bind_eq_ok.mp found with ⟨others, areOthers, _⟩
        exact ⟨(exists_fieldProblems field place).mp ⟨own, isOwn⟩,
          (exists_fieldsProblems rest place _).mp ⟨others, areOthers⟩⟩
      · rcases (exists_fieldProblems field place).mpr ofField with ⟨own, isOwn⟩
        rcases (exists_fieldsProblems rest place (field.name :: seen)).mpr ofRest with ⟨others, areOthers⟩
        exact ⟨_, bind_eq_ok.mpr ⟨own, isOwn, bind_eq_ok.mpr ⟨others, areOthers, rfl⟩⟩⟩

end

/-- Something is found for every element of a list exactly if it is found for each of them. -/
theorem exists_mapM_iff {α : Type} {find : α → Except Error (List String)} {elements : List α} :
    (∃ results, elements.mapM find = .ok results) ↔ ∀ element ∈ elements, ∃ result, find element = .ok result := by
  induction elements with
  | nil => exact iff_of_true ⟨[], rfl⟩ (List.forall_mem_nil _)
  | cons element rest ih =>
      rw [List.forall_mem_cons, ← ih, List.mapM_cons]
      refine ⟨fun ⟨results, found⟩ => ?_, fun ⟨⟨result, isResult⟩, ⟨others, areOthers⟩⟩ => ?_⟩
      · rcases bind_eq_ok.mp found with ⟨result, isResult, found⟩
        rcases bind_eq_ok.mp found with ⟨others, areOthers, _⟩
        exact ⟨⟨result, isResult⟩, ⟨others, areOthers⟩⟩
      · exact ⟨_, bind_eq_ok.mpr ⟨result, isResult, bind_eq_ok.mpr ⟨others, areOthers, rfl⟩⟩⟩

section Declarations

theorem exists_schemaProblems {schema : SchemaDecl} :
    (∃ messages, schemaProblems schema = .ok messages) ↔
      schema.name.hasLongNumeral = false ∧ FieldDecl.AreTellable schema.fields := by
  refine ⟨fun ⟨messages, found⟩ => ?_, fun ⟨ofName, ofFields⟩ => ?_⟩
  · rcases bind_eq_ok.mp found with ⟨ofName, isName, found⟩
    rcases bind_eq_ok.mp found with ⟨ofFields, areFields, _⟩
    exact ⟨exists_nameProblems.mp ⟨ofName, isName⟩, (exists_fieldsProblems _ _ _).mp ⟨ofFields, areFields⟩⟩
  · rcases exists_nameProblems.mpr ofName with ⟨ofName, isName⟩
    rcases (exists_fieldsProblems _ ("schema " ++ Message.inQuotes schema.name.display) []).mpr ofFields with
      ⟨ofFields, areFields⟩
    exact ⟨_, bind_eq_ok.mpr ⟨ofName, isName, bind_eq_ok.mpr ⟨ofFields, areFields, rfl⟩⟩⟩

theorem exists_collectionProblems {collection : CollectionDecl} :
    (∃ messages, collectionProblems collection = .ok messages) ↔
      collection.name.hasLongNumeral = false ∧ FieldDecl.AreTellable collection.fields := by
  refine ⟨fun ⟨messages, found⟩ => ?_, fun ⟨ofName, ofFields⟩ => ?_⟩
  · rcases bind_eq_ok.mp found with ⟨ofName, isName, found⟩
    rcases bind_eq_ok.mp found with ⟨ofFields, areFields, _⟩
    exact ⟨exists_nameProblems.mp ⟨ofName, isName⟩, (exists_fieldsProblems _ _ _).mp ⟨ofFields, areFields⟩⟩
  · rcases exists_nameProblems.mpr ofName with ⟨ofName, isName⟩
    rcases (exists_fieldsProblems _ ("collection " ++ Message.inQuotes collection.name.display) []).mpr ofFields with
      ⟨ofFields, areFields⟩
    exact ⟨_, bind_eq_ok.mpr ⟨ofName, isName, bind_eq_ok.mpr ⟨ofFields, areFields, rfl⟩⟩⟩

/-- The problem of the request of a dispatch, if it has one. -/
def requestProblems (dispatch : DispatchDecl) : Except Error (List String) :=
  if isGiven dispatch.request then
    nameProblems dispatch.request ("dispatch " ++ Message.inQuotes dispatch.name.display ++ ": request")
  else pure []

theorem dispatchProblems_eq (dispatch : DispatchDecl) :
    dispatchProblems dispatch = (do
      let ofName ← nameProblems dispatch.name "dispatch"
      let ofRequest ← requestProblems dispatch
      let place := "dispatch " ++ Message.inQuotes dispatch.name.display
      return ofName ++
        reportIf (isGiven dispatch.request == dispatch.fields.isSome)
          (place ++ " needs exactly one of 'request' or 'fields'") ++
        ofRequest ++ (← fieldsProblems place [] (dispatch.fields.getD []))) := by
  unfold dispatchProblems requestProblems
  refine congrArg _ (funext fun ofName => ?_)
  dsimp only
  cases isGiven dispatch.request
  · rfl
  · rfl

theorem exists_requestProblems {dispatch : DispatchDecl} :
    (∃ messages, requestProblems dispatch = .ok messages) ↔ dispatch.request.hasLongNumeral = false := by
  unfold requestProblems
  cases given : isGiven dispatch.request with
  | true => exact exists_nameProblems
  | false =>
      rw [eq_null_of_isGiven given]
      exact iff_of_true ⟨[], rfl⟩ rfl

theorem exists_dispatchProblems {dispatch : DispatchDecl} :
    (∃ messages, dispatchProblems dispatch = .ok messages) ↔
      dispatch.name.hasLongNumeral = false ∧ dispatch.request.hasLongNumeral = false ∧
        FieldDecl.AreTellable (dispatch.fields.getD []) := by
  rw [dispatchProblems_eq]
  refine ⟨fun ⟨messages, found⟩ => ?_, fun ⟨ofName, isShort, ofFields⟩ => ?_⟩
  · rcases bind_eq_ok.mp found with ⟨ofName, isName, found⟩
    rcases bind_eq_ok.mp found with ⟨ofRequest, isRequest, found⟩
    rcases bind_eq_ok.mp found with ⟨ofFields, areFields, _⟩
    exact ⟨exists_nameProblems.mp ⟨ofName, isName⟩, exists_requestProblems.mp ⟨ofRequest, isRequest⟩,
      (exists_fieldsProblems _ _ _).mp ⟨ofFields, areFields⟩⟩
  · rcases exists_nameProblems.mpr ofName with ⟨ofName, isName⟩
    rcases exists_requestProblems.mpr isShort with ⟨ofRequest, isRequest⟩
    rcases (exists_fieldsProblems _ ("dispatch " ++ Message.inQuotes dispatch.name.display) []).mpr ofFields with
      ⟨ofFields, areFields⟩
    exact ⟨_, bind_eq_ok.mpr ⟨ofName, isName, bind_eq_ok.mpr ⟨ofRequest, isRequest, bind_eq_ok.mpr
      ⟨ofFields, areFields, rfl⟩⟩⟩⟩

/-- The problems of a tellable document are found, and those of no other. -/
theorem exists_problems {document : Document} :
    (∃ messages, document.problems = .ok messages) ↔ document.IsTellable := by
  refine ⟨fun ⟨messages, found⟩ => ?_, fun tellable => ?_⟩
  · rcases bind_eq_ok.mp found with ⟨ofSchemas, areSchemas, found⟩
    rcases bind_eq_ok.mp found with ⟨ofCollections, areCollections, found⟩
    rcases bind_eq_ok.mp found with ⟨ofDispatches, areDispatches, _⟩
    have schemas (schema : SchemaDecl) (schemaMem : schema ∈ document.schemas) :=
      exists_schemaProblems.mp (exists_mapM_iff.mp ⟨ofSchemas, areSchemas⟩ schema schemaMem)
    have collections (collection : CollectionDecl) (collectionMem : collection ∈ document.collections) :=
      exists_collectionProblems.mp (exists_mapM_iff.mp ⟨ofCollections, areCollections⟩ collection collectionMem)
    have dispatches (dispatch : DispatchDecl) (dispatchMem : dispatch ∈ document.dispatches) :=
      exists_dispatchProblems.mp (exists_mapM_iff.mp ⟨ofDispatches, areDispatches⟩ dispatch dispatchMem)
    exact {
      schemaNames := fun schema schemaMem => (schemas schema schemaMem).1
      schemaFields := fun schema schemaMem => (schemas schema schemaMem).2
      collectionNames := fun collection collectionMem => (collections collection collectionMem).1
      collectionFields := fun collection collectionMem => (collections collection collectionMem).2
      dispatchNames := fun dispatch dispatchMem => (dispatches dispatch dispatchMem).1
      requests := fun dispatch dispatchMem => (dispatches dispatch dispatchMem).2.1
      dispatchFields := fun dispatch dispatchMem => (dispatches dispatch dispatchMem).2.2 }
  · rcases exists_mapM_iff.mpr fun schema schemaMem => exists_schemaProblems.mpr
      ⟨tellable.schemaNames schema schemaMem, tellable.schemaFields schema schemaMem⟩ with ⟨ofSchemas, areSchemas⟩
    rcases exists_mapM_iff.mpr fun collection collectionMem => exists_collectionProblems.mpr
      ⟨tellable.collectionNames collection collectionMem, tellable.collectionFields collection collectionMem⟩ with
      ⟨ofCollections, areCollections⟩
    rcases exists_mapM_iff.mpr fun dispatch dispatchMem => exists_dispatchProblems.mpr
      ⟨tellable.dispatchNames dispatch dispatchMem, tellable.requests dispatch dispatchMem,
        tellable.dispatchFields dispatch dispatchMem⟩ with ⟨ofDispatches, areDispatches⟩
    exact ⟨_, bind_eq_ok.mpr ⟨ofSchemas, areSchemas, bind_eq_ok.mpr ⟨ofCollections, areCollections, bind_eq_ok.mpr
      ⟨ofDispatches, areDispatches, rfl⟩⟩⟩⟩

end Declarations

section Places

variable {place innerPlace : String} {fields : List FieldDecl} {field : FieldDecl} {messages : List String}

/-- The problems of one of the fields of a place are among those of all. -/
theorem subset_of_fieldsProblems {seen : List Data} (found : fieldsProblems place seen fields = .ok messages)
    (fieldMem : field ∈ fields) : ∃ own, fieldProblems place field = .ok own ∧ own ⊆ messages := by
  induction fields generalizing seen messages with
  | nil => cases fieldMem
  | cons first rest ih =>
      rcases bind_eq_ok.mp found with ⟨ofFirst, isFirst, found⟩
      rcases bind_eq_ok.mp found with ⟨ofRest, isRest, found⟩
      cases found
      rcases List.mem_cons.mp fieldMem with rfl | fieldMem
      · exact ⟨ofFirst, isFirst, fun message messageMem =>
          List.mem_append_left _ (List.mem_append_right _ messageMem)⟩
      · rcases ih isRest fieldMem with ⟨own, isOwn, among⟩
        exact ⟨own, isOwn, fun message messageMem => List.mem_append_right _ (among messageMem)⟩

/-- The problems of inline fields are among those of the field that has them. -/
theorem subset_of_inlineProblems {name type optional : Data}
    (found : fieldProblems place (.inline name type optional fields) = .ok messages) :
    ∃ inner, fieldsProblems (place ++ "/" ++ name.display) [] fields = .ok inner ∧ inner ⊆ messages := by
  rcases bind_eq_ok.mp found with ⟨label, _, found⟩
  rcases bind_eq_ok.mp found with ⟨ofType, _, found⟩
  rcases bind_eq_ok.mp found with ⟨text, isShown, found⟩
  rcases bind_eq_ok.mp found with ⟨inner, isInner, found⟩
  cases found
  rw [(shown_eq_ok.mp isShown).2] at isInner
  exact ⟨inner, isInner, List.subset_append_right _ _⟩

/-- The problems of a field are among those of the fields it stands in, at any depth. -/
theorem subset_of_isAt (isAt : FieldDecl.IsAt place fields innerPlace field) {seen : List Data}
    (found : fieldsProblems place seen fields = .ok messages) :
    ∃ own, fieldProblems innerPlace field = .ok own ∧ own ⊆ messages := by
  -- by induction on where the field stands, from the outermost field that holds it inwards
  induction isAt generalizing seen messages with
  | here fieldMem => exact subset_of_fieldsProblems found fieldMem
  | inside holderMem _ ih =>
      rcases subset_of_fieldsProblems found holderMem with ⟨ofHolder, isHolder, amongAll⟩
      rcases subset_of_inlineProblems isHolder with ⟨ofInner, isInner, amongHolder⟩
      rcases ih isInner with ⟨own, isOwn, amongInner⟩
      exact ⟨own, isOwn, fun _ messageMem => amongAll (amongHolder (amongInner messageMem))⟩

/-- A field that stands in fields that were read was read. -/
theorem isRead_of_isAt (isAt : FieldDecl.IsAt place fields innerPlace field) (areRead : FieldDecl.AreRead fields) :
    field.IsRead := by
  induction isAt with
  | here fieldMem => exact FieldDecl.areRead_iff.mp areRead _ fieldMem
  | inside holderMem _ ih => exact ih (FieldDecl.areRead_iff.mp areRead _ holderMem)

/-- What a field gives for its schema is no value, or a text, or an empty list, or it is reported. -/
theorem struct_told {name type struct optional : Data}
    (found : fieldProblems place (.plain name type struct optional) = .ok messages) :
    struct.bare = .null ∨ (∃ text, struct.bare = .text text) ∨ struct.bare = .list [] ∨
      structMessage place name ∈ messages := by
  rcases bind_eq_ok.mp found with ⟨label, isLabel, found⟩
  rcases bind_eq_ok.mp isLabel with ⟨text, isShown, isLabel⟩
  rcases bind_eq_ok.mp found with ⟨ofType, _, found⟩
  rcases bind_eq_ok.mp found with ⟨ofStruct, isStruct, found⟩
  cases found
  cases isLabel
  rw [(shown_eq_ok.mp isShown).2] at isStruct
  unfold structProblems at isStruct
  split at isStruct
  next isNull => exact Or.inl isNull
  next text isText => exact Or.inr (Or.inl ⟨text, isText⟩)
  · cases isStruct
  next isEmpty => exact Or.inr (Or.inr (Or.inl isEmpty))
  · cases isStruct
    exact Or.inr (Or.inr (Or.inr (List.mem_append_right _ List.mem_cons_self)))

end Places

/-- The problems of an element are among those of all. -/
theorem subset_of_mapM {α : Type} {find : α → Except Error (List String)} {elements : List α}
    {results : List (List String)} (mapped : elements.mapM find = .ok results) {element : α}
    (elementMem : element ∈ elements) : ∃ own, find element = .ok own ∧ own ⊆ results.flatten := by
  rcases Json.forall₂_exists_of_mem (Json.forall₂_of_mapM_ok mapped) elementMem with ⟨own, ownMem, found⟩
  exact ⟨own, found, fun message messageMem => List.mem_flatten.mpr ⟨own, ownMem, messageMem⟩⟩

/-- The problems of a field are among those of the document it stands in, at any depth. -/
theorem subset_of_hasAt {document : Document} {place : String} {field : FieldDecl} (hasAt : document.HasAt place field)
    {messages : List String} (found : document.problems = .ok messages) :
    ∃ own, fieldProblems place field = .ok own ∧ own ⊆ messages := by
  rcases bind_eq_ok.mp found with ⟨ofSchemas, areSchemas, found⟩
  rcases bind_eq_ok.mp found with ⟨ofCollections, areCollections, found⟩
  rcases bind_eq_ok.mp found with ⟨ofDispatches, areDispatches, found⟩
  cases found
  cases hasAt with
  | schema schemaMem isAt =>
      rcases subset_of_mapM areSchemas schemaMem with ⟨ofSchema, isSchema, amongAll⟩
      rcases bind_eq_ok.mp isSchema with ⟨ofName, _, isSchema⟩
      rcases bind_eq_ok.mp isSchema with ⟨ofFields, areFields, isSchema⟩
      cases isSchema
      rcases subset_of_isAt isAt areFields with ⟨own, isOwn, among⟩
      exact ⟨own, isOwn, fun message messageMem => List.mem_append_left _ (List.mem_append_left _
        (amongAll (List.mem_append_right _ (among messageMem))))⟩
  | collection collectionMem isAt =>
      rcases subset_of_mapM areCollections collectionMem with ⟨ofCollection, isCollection, amongAll⟩
      rcases bind_eq_ok.mp isCollection with ⟨ofName, _, isCollection⟩
      rcases bind_eq_ok.mp isCollection with ⟨ofFields, areFields, isCollection⟩
      cases isCollection
      rcases subset_of_isAt isAt areFields with ⟨own, isOwn, among⟩
      exact ⟨own, isOwn, fun message messageMem => List.mem_append_left _ (List.mem_append_right _
        (amongAll (List.mem_append_right _ (among messageMem))))⟩
  | dispatch dispatchMem isAt =>
      rcases subset_of_mapM areDispatches dispatchMem with ⟨ofDispatch, isDispatch, amongAll⟩
      rw [dispatchProblems_eq] at isDispatch
      rcases bind_eq_ok.mp isDispatch with ⟨ofName, _, isDispatch⟩
      rcases bind_eq_ok.mp isDispatch with ⟨ofRequest, _, isDispatch⟩
      rcases bind_eq_ok.mp isDispatch with ⟨ofFields, areFields, isDispatch⟩
      cases isDispatch
      rcases subset_of_isAt isAt areFields with ⟨own, isOwn, among⟩
      exact ⟨own, isOwn, fun message messageMem => List.mem_append_right _
        (amongAll (List.mem_append_right _ (among messageMem)))⟩

/-- A field that stands in a document that was read was read. -/
theorem isRead_of_hasAt {document : Document} {place : String} {field : FieldDecl} (hasAt : document.HasAt place field)
    (isRead : document.IsRead) : field.IsRead := by
  cases hasAt with
  | schema schemaMem isAt => exact isRead_of_isAt isAt (isRead.schemas _ schemaMem)
  | collection collectionMem isAt => exact isRead_of_isAt isAt (isRead.collections _ collectionMem)
  | dispatch dispatchMem isAt => exact isRead_of_isAt isAt (isRead.dispatches _ dispatchMem)

/-- The problems of a document that a value gives are found exactly if it is tellable. Then what a field gives for its
schema, at any depth, is no value, or a text, or it is reported. -/
theorem problems_told {value : Data} {document : Document} (found : ofData value = .ok document) :
    ((∃ messages, document.problems = .ok messages) ↔ document.IsTellable) ∧
      ∀ messages, document.problems = .ok messages →
        ∀ place name type struct optional, document.HasAt place (.plain name type struct optional) →
          struct.bare = .null ∨ (∃ text, struct.bare = .text text) ∨ structMessage place name ∈ messages := by
  refine ⟨exists_problems, fun messages areFound place name type struct optional hasAt => ?_⟩
  have notEmpty : struct.bare ≠ .list [] := isRead_of_hasAt hasAt (isRead_of_ofData found)
  rcases subset_of_hasAt hasAt areFound with ⟨own, isOwn, among⟩
  rcases struct_told isOwn with isNull | isText | isEmpty | isReported
  · exact Or.inl isNull
  · exact Or.inr (Or.inl isText)
  · exact absurd isEmpty notEmpty
  · exact Or.inr (Or.inr (among isReported))

/-- The entry of a field with a value for its schema. -/
def structEntry (name : String) (struct : Data) : Data := .object [("name", .text name), ("struct", struct)]

/-- A value of a document with one schema, whose one field has a value for its schema. -/
def structSource (struct : Data) : Data :=
  .object [("schemas", .list [.object [("name", .text "a"), ("fields", .list [structEntry "x" struct])]])]

/-- The document with one schema of one field. -/
def ofField (field : FieldDecl) : Document := ⟨[⟨.text "a", [field], .bool false⟩], [], []⟩

theorem problems_told_number :
    let source := structSource (.object [("fields", .list [structEntry "y" (.int 5)])])
    let document := ofField (.inline (.text "x") .null (.bool false)
      [.plain (.text "y") .null (.int 5) (.bool false)])
    ofData source = .ok document ∧ document.IsTellable ∧ ∃ messages, document.problems = .ok messages ∧
      "schema 'a'/x: field 'y': struct must be a schema name or a mapping with 'fields'" ∈ messages := by
  intro source document
  have isRead : ofData source = .ok document := by cbv
  have isFound : document.problems = .ok
      ["schema 'a'/x: field 'y': struct must be a schema name or a mapping with 'fields'"] := by cbv
  have hasAt : document.HasAt "schema 'a'/x" (.plain (.text "y") .null (.int 5) (.bool false)) :=
    .schema List.mem_cons_self (.inside List.mem_cons_self (.here List.mem_cons_self))
  rcases problems_told isRead with ⟨tellable, told⟩
  rcases told _ isFound _ _ _ _ _ hasAt with isNull | ⟨text, isText⟩ | isReported
  · cases isNull
  · cases isText
  · exact ⟨isRead, tellable.mp ⟨_, isFound⟩, _, isFound, isReported⟩

/-- The items of a list in the place of a schema are taken for fields, and an empty list is not reported. -/
theorem listStruct_untold :
    let listed := ofField (.plain (.text "x") .null (.list [.int 1]) (.bool false))
    let emptied := ofField (.inline (.text "x") .null (.bool false) [])
    (ofData (structSource (.list [.int 1])) = .ok listed ∧ listed.problems = .error (.fault .missingMember)) ∧
      ofData (structSource (.list [])) = .ok emptied ∧ emptied.problems = .ok [] := by
  refine ⟨⟨?_, ?_⟩, ?_, ?_⟩
  all_goals cbv

end Document

end SpecGraph
