import SpecGraph.Document.Check
import SpecGraph.Document.Reader
import SpecGraph.Proofs.Data.Table
import SpecGraph.Proofs.Graph.Problems
import SpecGraph.Proofs.Json.RoundTrip

/-!
# Documents without problems

A document without problems gives names where names are asked for, and each field and each dispatch gives one of its
two alternatives. No two fields of one list have one name. What an empty list stands for is settled when the document
is read.
-/

namespace SpecGraph

/-- A value is a name. -/
def Data.IsName (value : Data) : Prop := ∃ text, value = .text text ∧ Name.IsLegible text

/-- A value is a text that a field can have for its name. -/
def Data.IsFieldName (value : Data) : Prop := ∃ text, value = .text text ∧ text ≠ ""

mutual

/-- A field has a name, and either a primitive type, or the name of a schema, or valid fields. -/
def FieldDecl.IsValid : FieldDecl → Prop
  | .plain name type struct _ =>
      name.IsFieldName ∧ ((∃ tag, type = .text tag ∧ FieldTag.isTag tag = true) ∨ (type = .null ∧ struct.IsName))
  | .inline name type _ fields => name.IsFieldName ∧ type = .null ∧ FieldDecl.AreValid fields

/-- Fields are valid, and no two of them have one name. -/
def FieldDecl.AreValid : List FieldDecl → Prop
  | [] => True
  | field :: rest => field.IsValid ∧ (∀ other ∈ rest, other.name ≠ field.name) ∧ FieldDecl.AreValid rest

end

/-- A dispatch has a name, and either the name of a schema or valid fields. -/
structure DispatchDecl.IsValid (dispatch : DispatchDecl) : Prop where
  /-- The name is a name. -/
  name : dispatch.name.IsName
  /-- It gives one of its alternatives. -/
  request : (dispatch.request = .null ∧ ∃ fields, dispatch.fields = some fields) ∨
    (dispatch.request.IsName ∧ dispatch.fields = none)
  /-- The fields are valid. -/
  fields : FieldDecl.AreValid (dispatch.fields.getD [])

/-- A document with valid declarations. -/
structure Document.IsValid (document : Document) : Prop where
  /-- The schemas have names. -/
  schemaNames : ∀ schema ∈ document.schemas, schema.name.IsName
  /-- The fields of the schemas are valid. -/
  schemaFields : ∀ schema ∈ document.schemas, FieldDecl.AreValid schema.fields
  /-- The collections have names. -/
  collectionNames : ∀ collection ∈ document.collections, collection.name.IsName
  /-- The keys of the collections are texts. -/
  keys : ∀ collection ∈ document.collections, ∀ name ∈ collection.key, ∃ text, name = .text text
  /-- The fields of the collections are valid. -/
  collectionFields : ∀ collection ∈ document.collections, FieldDecl.AreValid collection.fields
  /-- The dispatches are valid. -/
  dispatches : ∀ dispatch ∈ document.dispatches, dispatch.IsValid

mutual

/-- What a field gives for its schema is not an empty list, which stands for no fields. -/
def FieldDecl.IsRead : FieldDecl → Prop
  | .plain _ _ struct _ => struct.bare ≠ .list []
  | .inline _ _ _ fields => FieldDecl.AreRead fields

def FieldDecl.AreRead : List FieldDecl → Prop
  | [] => True
  | field :: rest => field.IsRead ∧ FieldDecl.AreRead rest

end

/-- The fields of a document were read. -/
structure Document.IsRead (document : Document) : Prop where
  /-- Those of the schemas were. -/
  schemas : ∀ schema ∈ document.schemas, FieldDecl.AreRead schema.fields
  /-- Those of the collections were. -/
  collections : ∀ collection ∈ document.collections, FieldDecl.AreRead collection.fields
  /-- Those of the dispatches were. -/
  dispatches : ∀ dispatch ∈ document.dispatches, FieldDecl.AreRead (dispatch.fields.getD [])

/-- A result of a list is that of one of the elements. -/
theorem exists_of_mem_mapM {α β ε : Type} {image : α → Except ε β} {elements : List α} {results : List β}
    (mapped : elements.mapM image = .ok results) {result : β} (resultMem : result ∈ results) :
    ∃ element ∈ elements, image element = .ok result :=
  forall₂_exists_of_mem_right (Json.forall₂_of_mapM_ok mapped) resultMem

/-- What is made of a result comes from one. -/
theorem exists_of_bind_ok {α β ε : Type} {first : Except ε α} {next : α → Except ε β} {result : β}
    (done : first >>= next = .ok result) : ∃ value, first = .ok value ∧ next value = .ok result := by
  cases first with
  | error error => cases done
  | ok value => exact ⟨value, rfl, done⟩

namespace FieldDecl

theorem IsValid.isFieldName {field : FieldDecl} (valid : field.IsValid) : field.name.IsFieldName := by
  cases field
  · exact valid.1
  · exact valid.1

theorem areRead_iff {fields : List FieldDecl} : AreRead fields ↔ ∀ field ∈ fields, field.IsRead := by
  induction fields with
  | nil => simp [AreRead]
  | cons field rest ih => rw [AreRead, ih, List.forall_mem_cons]

/-- A field that was read keeps no empty list. -/
theorem isRead_of_read {depth : Nat} {entry : Data} {field : FieldDecl} (found : read depth entry = .ok field) :
    field.IsRead := by
  induction depth generalizing entry field with
  | zero => cases found
  | succ depth ih =>
      have areRead {items : List Data} {fields : List FieldDecl} (read : items.mapM (read depth) = .ok fields) :
          AreRead fields :=
        areRead_iff.mpr fun field fieldMem => by
          rcases exists_of_mem_mapM read fieldMem with ⟨item, _, found⟩
          exact ih found
      unfold read at found
      split at found
      · dsimp only at found
        split at found
        · split at found
          · rcases exists_of_bind_ok found with ⟨inner, isInner, made⟩
            rcases exists_of_bind_ok isInner with ⟨fields, isFields, some_⟩
            cases some_
            cases made
            exact areRead isFields
          · cases found
        · cases found
          trivial
        next notEmpty =>
          cases found
          exact notEmpty
      · cases found

theorem areRead_of_readList {value : Data} {fields : List FieldDecl} {room : Nat}
    (found : readList room value = .ok fields) :
    AreRead fields := by
  unfold readList at found
  split at found
  · exact areRead_iff.mpr fun field fieldMem => by
      rcases exists_of_mem_mapM found fieldMem with ⟨item, _, isField⟩
      exact isRead_of_read isField
  · cases found

end FieldDecl

namespace Document

theorem areRead_of_readSchema {entry : Data} {schema : SchemaDecl} {room : Nat}
    (found : readSchema room entry = .ok schema) :
    FieldDecl.AreRead schema.fields := by
  rcases exists_of_bind_ok found with ⟨name, _, found⟩
  rcases exists_of_bind_ok found with ⟨value, _, found⟩
  rcases exists_of_bind_ok found with ⟨fields, isFields, found⟩
  rcases exists_of_bind_ok found with ⟨compact, _, found⟩
  cases found
  exact FieldDecl.areRead_of_readList isFields

theorem areRead_of_readCollection {entry : Data} {collection : CollectionDecl}
    {room : Nat} (found : readCollection room entry = .ok collection) : FieldDecl.AreRead collection.fields := by
  rcases exists_of_bind_ok found with ⟨key, _, found⟩
  rcases exists_of_bind_ok found with ⟨name, _, found⟩
  rcases exists_of_bind_ok found with ⟨value, _, found⟩
  rcases exists_of_bind_ok found with ⟨fields, isFields, found⟩
  cases found
  exact FieldDecl.areRead_of_readList isFields

theorem areRead_of_readDispatch {entry : Data} {dispatch : DispatchDecl}
    {room : Nat} (found : readDispatch room entry = .ok dispatch) : FieldDecl.AreRead (dispatch.fields.getD []) := by
  rcases exists_of_bind_ok found with ⟨name, _, found⟩
  rcases exists_of_bind_ok found with ⟨request, _, found⟩
  rcases exists_of_bind_ok found with ⟨value, _, found⟩
  split at found
  · cases found
    trivial
  · rcases exists_of_bind_ok found with ⟨fields, isFields, found⟩
    cases found
    exact FieldDecl.areRead_of_readList isFields

/-- The fields of a document that a value gives were read. -/
theorem isRead_of_ofData {value : Data} {document : Document} (found : ofData value = .ok document) :
    document.IsRead := by
  unfold ofData ofDataWithin at found
  split at found
  · cases found
    constructor
    all_goals simp [empty]
  · rcases exists_of_bind_ok found with ⟨unknown, _, found⟩
    dsimp only at found
    split at found
    · cases found
    · rcases exists_of_bind_ok found with ⟨schemaEntries, _, found⟩
      rcases exists_of_bind_ok found with ⟨schemas, areSchemas, found⟩
      rcases exists_of_bind_ok found with ⟨collectionEntries, _, found⟩
      rcases exists_of_bind_ok found with ⟨collections, areCollections, found⟩
      rcases exists_of_bind_ok found with ⟨dispatchEntries, _, found⟩
      rcases exists_of_bind_ok found with ⟨dispatches, areDispatches, found⟩
      cases found
      exact {
        schemas := fun schema schemaMem => by
          rcases exists_of_mem_mapM areSchemas schemaMem with ⟨entry, _, isSchema⟩
          exact areRead_of_readSchema isSchema
        collections := fun collection collectionMem => by
          rcases exists_of_mem_mapM areCollections collectionMem with ⟨entry, _, isCollection⟩
          exact areRead_of_readCollection isCollection
        dispatches := fun dispatch dispatchMem => by
          rcases exists_of_mem_mapM areDispatches dispatchMem with ⟨entry, _, isDispatch⟩
          exact areRead_of_readDispatch isDispatch }
  · cases found

section Checks

theorem reportIf_eq_nil {condition : Bool} {text : String} : reportIf condition text = [] ↔ condition = false := by
  cases condition <;> simp [reportIf]

theorem isName_of_nameProblems {value : Data} {place : String} (found : nameProblems value place = .ok []) :
    value.IsName := by
  rcases exists_of_bind_ok found with ⟨shown, _, found⟩
  dsimp only at found
  split at found
  · split at found
    next text name read => exact ⟨_, rfl, name, read⟩
    · cases found
  · cases found

theorem isFieldName_of_fieldNameProblems {place label : String} {name : Data}
    (found : fieldNameProblems place label name = []) : name.IsFieldName := by
  unfold fieldNameProblems at found
  split at found
  next text => exact ⟨text, rfl, by simpa using reportIf_eq_nil.mp found⟩
  · cases found

/-- A type that is given is primitive. -/
theorem isTag_of_typeProblems {label : String} {type : Data} (found : typeProblems label type = .ok [])
    (given : isGiven type = true) : ∃ tag, type = .text tag ∧ FieldTag.isTag tag = true := by
  unfold typeProblems at found
  dsimp only at found
  rw [given, Bool.true_and] at found
  cases type with
  | text tag =>
      cases isTag : FieldTag.isTag tag with
      | true => exact ⟨tag, rfl, isTag⟩
      | false =>
          simp only [isTag, Bool.not_false, if_true] at found
          rcases exists_of_bind_ok found with ⟨shown, _, reported⟩
          cases reported
  | null => cases given
  | _ =>
      rcases exists_of_bind_ok found with ⟨shown, _, reported⟩
      cases reported

theorem eq_null_of_isGiven {value : Data} (absent : isGiven value = false) : value = .null := by
  cases value with
  | null => rfl
  | _ => cases absent

/-- A field whose schema is given without fields names it. -/
theorem isName_of_structProblems {label : String} {struct : Data} (found : structProblems label struct = .ok [])
    (given : isGiven struct.bare = true) (isRead : struct.bare ≠ .list []) : struct.IsName := by
  unfold structProblems at found
  split at found
  next isNull =>
    rw [isNull] at given
    cases given
  · exact isName_of_nameProblems found
  · cases found
  next isEmpty => exact absurd isEmpty isRead
  · cases found

/-- Where no problem is found in all elements together, none is found in any of them. -/
theorem eq_nil_of_mapM {α : Type} {find : α → Except Error (List String)} {elements : List α}
    {results : List (List String)} (mapped : elements.mapM find = .ok results) (none_ : results.flatten = [])
    {element : α} (elementMem : element ∈ elements) : find element = .ok [] := by
  rcases Json.forall₂_exists_of_mem (Json.forall₂_of_mapM_ok mapped) elementMem with ⟨result, resultMem, found⟩
  rw [found, List.flatten_eq_nil_iff.mp none_ result resultMem]

/-- A name that is not reported is none of those before it. -/
theorem ne_of_repeatProblems {place : String} {seen : List Data} {name : Data} (isFieldName : name.IsFieldName)
    (found : repeatProblems place seen name = []) : ∀ other ∈ seen, name ≠ other := by
  rcases isFieldName with ⟨text, rfl, _⟩
  rintro other otherMem rfl
  have fresh := reportIf_eq_nil.mp found
  rw [Data.isText, Bool.true_and, List.any_eq_false] at fresh
  refine fresh _ otherMem ?_
  rw [Data.same_text]
  exact beq_self_eq_true text

end Checks

mutual

/-- A field without problems is valid. -/
theorem isValid_of_fieldProblems : ∀ (field : FieldDecl) (place : String), field.IsRead →
    fieldProblems place field = .ok [] → field.IsValid
  | .plain name type struct optional, place, isRead, found => by
      rcases exists_of_bind_ok found with ⟨label, _, found⟩
      rcases exists_of_bind_ok found with ⟨ofType, isType, found⟩
      rcases exists_of_bind_ok found with ⟨ofStruct, isStruct, found⟩
      simp only [pure, Except.pure, Except.ok.injEq, List.append_eq_nil_iff] at found
      obtain ⟨⟨⟨ofName, alternative⟩, rfl⟩, rfl⟩ := found
      refine ⟨isFieldName_of_fieldNameProblems ofName, ?_⟩
      have one : isGiven type ≠ isGiven struct.bare := by simpa using reportIf_eq_nil.mp alternative
      cases given : isGiven type with
      | true => exact Or.inl (isTag_of_typeProblems isType given)
      | false =>
          rw [given] at one
          exact Or.inr ⟨eq_null_of_isGiven given,
            isName_of_structProblems isStruct (Bool.not_eq_false _ ▸ one.symm) isRead⟩
  | .inline name type optional fields, place, areRead, found => by
      rcases exists_of_bind_ok found with ⟨label, _, found⟩
      rcases exists_of_bind_ok found with ⟨ofType, isType, found⟩
      rcases exists_of_bind_ok found with ⟨shown, _, found⟩
      rcases exists_of_bind_ok found with ⟨inner, isInner, found⟩
      simp only [pure, Except.pure, Except.ok.injEq, List.append_eq_nil_iff] at found
      obtain ⟨⟨⟨ofName, alternative⟩, rfl⟩, rfl⟩ := found
      refine ⟨isFieldName_of_fieldNameProblems ofName, ?_, (areValid_of_fieldsProblems fields _ _ areRead isInner).1⟩
      exact eq_null_of_isGiven (by simpa using reportIf_eq_nil.mp alternative)

/-- Fields without problems are valid, and their names are none of those before them. -/
theorem areValid_of_fieldsProblems : ∀ (fields : List FieldDecl) (place : String) (seen : List Data),
    FieldDecl.AreRead fields → fieldsProblems place seen fields = .ok [] →
      FieldDecl.AreValid fields ∧ ∀ field ∈ fields, ∀ name ∈ seen, field.name ≠ name
  | [], _, _, _, _ => ⟨trivial, List.forall_mem_nil _⟩
  | field :: rest, place, seen, areRead, found => by
      rcases exists_of_bind_ok found with ⟨ofField, isField, found⟩
      rcases exists_of_bind_ok found with ⟨ofRest, isRest, found⟩
      simp only [pure, Except.pure, Except.ok.injEq, List.append_eq_nil_iff] at found
      obtain ⟨⟨repeats, rfl⟩, rfl⟩ := found
      have valid := isValid_of_fieldProblems field place areRead.1 isField
      rcases areValid_of_fieldsProblems rest place _ areRead.2 isRest with ⟨areValid, fresh⟩
      refine ⟨⟨valid, fun other otherMem => fresh other otherMem _ List.mem_cons_self, areValid⟩, ?_⟩
      refine List.forall_mem_cons.mpr ⟨?_, fun other otherMem name nameMem =>
        fresh other otherMem name (List.mem_cons_of_mem _ nameMem)⟩
      exact ne_of_repeatProblems valid.isFieldName repeats

end

theorem isValid_of_schemaProblems {schema : SchemaDecl} (areRead : FieldDecl.AreRead schema.fields)
    (found : schemaProblems schema = .ok []) : schema.name.IsName ∧ FieldDecl.AreValid schema.fields := by
  rcases exists_of_bind_ok found with ⟨ofName, isName, found⟩
  rcases exists_of_bind_ok found with ⟨ofFields, areFields, found⟩
  simp only [pure, Except.pure, Except.ok.injEq, List.append_eq_nil_iff] at found
  obtain ⟨rfl, rfl⟩ := found
  exact ⟨isName_of_nameProblems isName, (areValid_of_fieldsProblems _ _ _ areRead areFields).1⟩

theorem isValid_of_collectionProblems {collection : CollectionDecl} (areRead : FieldDecl.AreRead collection.fields)
    (found : collectionProblems collection = .ok []) :
    collection.name.IsName ∧ (∀ name ∈ collection.key, ∃ text, name = .text text) ∧
      FieldDecl.AreValid collection.fields := by
  rcases exists_of_bind_ok found with ⟨ofName, isName, found⟩
  rcases exists_of_bind_ok found with ⟨ofFields, areFields, found⟩
  simp only [pure, Except.pure, Except.ok.injEq, List.append_eq_nil_iff] at found
  obtain ⟨⟨rfl, areKeys⟩, rfl⟩ := found
  refine ⟨isName_of_nameProblems isName, fun name nameMem => ?_, (areValid_of_fieldsProblems _ _ _ areRead areFields).1⟩
  have all : collection.key.all Data.isText = true := by simpa using reportIf_eq_nil.mp areKeys
  have isText := List.all_eq_true.mp all name nameMem
  cases name with
  | text text => exact ⟨text, rfl⟩
  | _ => cases isText

theorem isValid_of_dispatchProblems {dispatch : DispatchDecl} (areRead : FieldDecl.AreRead (dispatch.fields.getD []))
    (found : dispatchProblems dispatch = .ok []) : dispatch.IsValid := by
  rcases exists_of_bind_ok found with ⟨ofName, isName, found⟩
  dsimp only at found
  cases given : isGiven dispatch.request with
  | true =>
      rw [given, if_pos rfl] at found
      rcases exists_of_bind_ok found with ⟨ofRequest, isRequest, found⟩
      rcases exists_of_bind_ok found with ⟨ofFields, areFields, found⟩
      simp only [pure, Except.pure, Except.ok.injEq, List.append_eq_nil_iff, reportIf_eq_nil] at found
      obtain ⟨⟨⟨rfl, alternative⟩, rfl⟩, rfl⟩ := found
      exact ⟨isName_of_nameProblems isName,
        Or.inr ⟨isName_of_nameProblems isRequest, by simpa using alternative⟩,
        (areValid_of_fieldsProblems _ _ _ areRead areFields).1⟩
  | false =>
      rw [given, if_neg Bool.false_ne_true, pure_bind] at found
      rcases exists_of_bind_ok found with ⟨ofFields, areFields, found⟩
      simp only [pure, Except.pure, Except.ok.injEq, List.append_eq_nil_iff, reportIf_eq_nil] at found
      obtain ⟨⟨⟨rfl, alternative⟩, -⟩, rfl⟩ := found
      exact ⟨isName_of_nameProblems isName,
        Or.inl ⟨eq_null_of_isGiven given, Option.isSome_iff_exists.mp (by simpa using alternative)⟩,
        (areValid_of_fieldsProblems _ _ _ areRead areFields).1⟩

/-- A document without problems is valid. -/
theorem isValid_of_problems {document : Document} (isRead : document.IsRead) (found : document.problems = .ok []) :
    document.IsValid := by
  rcases exists_of_bind_ok found with ⟨ofSchemas, areSchemas, found⟩
  rcases exists_of_bind_ok found with ⟨ofCollections, areCollections, found⟩
  rcases exists_of_bind_ok found with ⟨ofDispatches, areDispatches, found⟩
  simp only [pure, Except.pure, Except.ok.injEq, List.append_eq_nil_iff] at found
  obtain ⟨⟨noneOfSchemas, noneOfCollections⟩, noneOfDispatches⟩ := found
  have schemas (schema : SchemaDecl) (schemaMem : schema ∈ document.schemas) : schemaProblems schema = .ok [] :=
    eq_nil_of_mapM areSchemas noneOfSchemas schemaMem
  have collections (collection : CollectionDecl) (collectionMem : collection ∈ document.collections) :
      collectionProblems collection = .ok [] := eq_nil_of_mapM areCollections noneOfCollections collectionMem
  have dispatches (dispatch : DispatchDecl) (dispatchMem : dispatch ∈ document.dispatches) :
      dispatchProblems dispatch = .ok [] := eq_nil_of_mapM areDispatches noneOfDispatches dispatchMem
  exact {
    schemaNames := fun schema schemaMem => (isValid_of_schemaProblems (isRead.schemas schema schemaMem)
      (schemas schema schemaMem)).1
    schemaFields := fun schema schemaMem => (isValid_of_schemaProblems (isRead.schemas schema schemaMem)
      (schemas schema schemaMem)).2
    collectionNames := fun collection collectionMem => (isValid_of_collectionProblems
      (isRead.collections collection collectionMem) (collections collection collectionMem)).1
    keys := fun collection collectionMem => (isValid_of_collectionProblems
      (isRead.collections collection collectionMem) (collections collection collectionMem)).2.1
    collectionFields := fun collection collectionMem => (isValid_of_collectionProblems
      (isRead.collections collection collectionMem) (collections collection collectionMem)).2.2
    dispatches := fun dispatch dispatchMem => isValid_of_dispatchProblems
      (isRead.dispatches dispatch dispatchMem) (dispatches dispatch dispatchMem) }

end Document

end SpecGraph
