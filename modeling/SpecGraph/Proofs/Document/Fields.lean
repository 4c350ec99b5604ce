import SpecGraph.Document.Apply
import SpecGraph.Proofs.Document.Flat
import SpecGraph.Proofs.Document.Valid
import SpecGraph.Proofs.World.Turns

/-!
# Declaring the fields of a document

The fields of a document are declared in a schema of a namespace. The schema gets the fields, and the schemas that are
nested in them come after those of the namespace. This fails only where the path of a nested schema is taken: then the
schema has got some of the fields, and some of the nested schemas were declared.
-/

namespace SpecGraph

theorem modify_concat {α : Type} (front : List α) (last : α) (change : α → α) :
    (front ++ [last]).modify front.length change = front ++ [change last] := by
  induction front with
  | nil => rfl
  | cons first rest ih => exact congrArg (first :: ·) ih

/-- The schema with more fields. -/
def Schema.extend (schema : Schema) (fields : List Field) : Schema :=
  { schema with fields := schema.fields ++ fields }

namespace Namespace

/-- The namespace with more fields in the schema of a path, and with more schemas. -/
def grow (space : Namespace) (path : String) (fields : List Field) (schemas : List Schema) : Namespace :=
  let grown := space.modifySchema path (·.extend fields)
  { grown with schemas := grown.schemas ++ schemas }

/-- The paths of schemas are told apart, and none is taken in the namespace. -/
def Frees (space : Namespace) (schemas : List Schema) : Prop :=
  (schemas.map Schema.path).Nodup ∧ ∀ path ∈ schemas.map Schema.path, path ∉ space.taken .schema

section Grow

variable {space : Namespace} {path : String} {schema : Schema}

theorem schema?_of_free (free : path ∉ space.taken .schema) : space.schema? path = none :=
  schema?_of_isTaken (by rw [isTaken_eq, decide_eq_false free])

theorem collection?_of_free (free : path ∉ space.taken .collection) : space.collection? path = none :=
  collection?_of_isTaken (by rw [isTaken_eq, decide_eq_false free])

theorem taken_grow (space : Namespace) (path : String) (fields : List Field) (schemas : List Schema) :
    (space.grow path fields schemas).taken .schema = space.taken .schema ++ schemas.map Schema.path := by
  have same (schema : Schema) : (schema.extend fields).path = schema.path := rfl
  change _ ++ List.map _ (replaceFirst _ _ space.schemas ++ schemas) = _
  rw [List.map_append, map_replaceFirst same, ← List.append_assoc]
  rfl

/-- More schemas are free exactly if the first ones are, and the others are beside them. -/
theorem frees_append {fields : List Field} {schemas more : List Schema} :
    space.Frees (schemas ++ more) ↔ space.Frees schemas ∧ (space.grow path fields schemas).Frees more := by
  unfold Frees
  rw [taken_grow, List.map_append, List.nodup_append, List.forall_mem_append]
  constructor
  · rintro ⟨⟨first, second, apart⟩, free, freeMore⟩
    refine ⟨⟨first, free⟩, second, fun path pathMem => ?_⟩
    rw [List.mem_append, not_or]
    exact ⟨freeMore path pathMem, fun inFirst => apart path inFirst path pathMem rfl⟩
  · rintro ⟨⟨first, free⟩, second, freeMore⟩
    refine ⟨⟨first, second, ?_⟩, free, fun path pathMem taken => freeMore path pathMem (List.mem_append_left _ taken)⟩
    rintro path inFirst other otherMem rfl
    exact freeMore path otherMem (List.mem_append_right _ inFirst)

theorem frees_nil : space.Frees [] := ⟨List.nodup_nil, List.forall_mem_nil _⟩

/-- A schema and others are free exactly if its path is, and the others are beside one of this path. -/
theorem frees_cons {after : Namespace} {first other : Schema} {more : List Schema}
    (added : after.schemas = space.schemas ++ [other]) (guests : after.guests = space.guests)
    (same : other.path = first.path) :
    space.Frees (first :: more) ↔ first.path ∉ space.taken .schema ∧ after.Frees more := by
  have taken : after.taken .schema = space.taken .schema ++ [first.path] := by
    unfold Namespace.taken Namespace.paths
    dsimp only
    rw [added, guests, List.map_append, List.map_singleton, same, List.append_assoc]
  unfold Frees
  rw [taken, List.map_cons, List.nodup_cons, List.forall_mem_cons]
  constructor
  · rintro ⟨⟨notLater, distinct⟩, free, freeMore⟩
    refine ⟨free, distinct, fun path pathMem => ?_⟩
    rw [List.mem_append, List.mem_singleton, not_or]
    exact ⟨freeMore path pathMem, fun isFirst => notLater (isFirst ▸ pathMem)⟩
  · rintro ⟨free, distinct, freeMore⟩
    refine ⟨⟨fun isLater => freeMore _ isLater ?_, distinct⟩, free, fun path pathMem taken =>
      freeMore path pathMem (List.mem_append_left _ taken)⟩
    exact List.mem_append_right _ (List.mem_singleton_self _)

variable (found : space.schema? path = some schema)
include found

/-- The schema of the path has got the fields. -/
theorem schema?_grow (fields : List Field) (schemas : List Schema) :
    (space.grow path fields schemas).schema? path = some (schema.extend fields) := by
  have kept (schema : Schema) (isPath : (schema.path == path) = true) : ((schema.extend fields).path == path) = true :=
    isPath
  change List.find? _ (replaceFirst _ _ space.schemas ++ schemas) = _
  rw [List.find?_append, find?_replaceFirst kept]
  change ((space.schema? path).map _).or _ = _
  rw [found]
  rfl

theorem grow_grow (first second : List Field) (schemas more : List Schema) :
    (space.grow path first schemas).grow path second more = space.grow path (first ++ second) (schemas ++ more) := by
  have kept (schema : Schema) (isPath : (schema.path == path) = true) : ((schema.extend first).path == path) = true :=
    isPath
  have here : ((replaceFirst (fun schema => schema.path == path) (·.extend first) space.schemas).find?
      (fun schema => schema.path == path)).isSome = true := by
    rw [find?_replaceFirst kept]
    change ((space.schema? path).map _).isSome = true
    rw [found]
    rfl
  have both : (fun schema : Schema => schema.extend second) ∘ (fun schema : Schema => schema.extend first) =
      fun schema : Schema => schema.extend (first ++ second) := by
    funext schema
    simp [Schema.extend]
  change ({ space with schemas := replaceFirst _ _ (replaceFirst _ _ space.schemas ++ schemas) ++ more } : Namespace) =
    { space with schemas := replaceFirst _ _ space.schemas ++ (schemas ++ more) }
  rw [replaceFirst_append, if_pos here, replaceFirst_replaceFirst kept, both, List.append_assoc]

theorem grow_nil (schemas : List Schema) :
    space.grow path [] schemas = { space with schemas := space.schemas ++ schemas } := by
  have same : replaceFirst (fun schema => schema.path == path) (·.extend []) space.schemas = space.schemas := by
    refine (replaceFirst_congr fun other isOther => ?_).trans (replaceFirst_self found)
    cases found.symm.trans isOther
    simp [Schema.extend]
  change ({ space with schemas := replaceFirst _ _ space.schemas ++ schemas } : Namespace) = _
  rw [same]

omit found in
/-- A schema that was added gets its fields, and what is nested in it comes after it. -/
theorem grow_concat {after : Namespace} {made : Schema} (added : after.schemas = space.schemas ++ [made])
    (fresh : made.path ∉ space.taken .schema) (fields : List Field) (schemas : List Schema) :
    after.grow made.path fields schemas =
      { after with schemas := space.schemas ++ made.extend fields :: schemas } := by
  have absent := schema?_of_free fresh
  unfold schema? at absent
  change ({ after with schemas := replaceFirst _ _ after.schemas ++ schemas } : Namespace) = _
  rw [added]
  rw [replaceFirst_append, absent, Option.isSome_none, if_neg Bool.false_ne_true, replaceFirst,
    if_pos (beq_self_eq_true made.path), List.append_assoc, List.singleton_append]

omit found in
theorem schema?_concat {after : Namespace} {made : Schema} (added : after.schemas = space.schemas ++ [made])
    (fresh : made.path ∉ space.taken .schema) : after.schema? made.path = some made := by
  have absent := schema?_of_free fresh
  unfold schema? at absent ⊢
  rw [added, List.find?_append, absent, Option.none_or, List.find?_cons, beq_self_eq_true]

/-- A field that was added may be left out afterwards. -/
theorem relax_grow (field : Field) :
    (space.grow path [field] []).modifySchema path (·.relax schema.fields.length) =
      space.grow path [field.relaxed] [] := by
  have kept (schema : Schema) (isPath : (schema.path == path) = true) : ((schema.extend [field]).path == path) = true :=
    isPath
  change ({ space with schemas := replaceFirst _ _ (replaceFirst _ _ space.schemas ++ []) } : Namespace) =
    { space with schemas := replaceFirst _ _ space.schemas ++ [] }
  rw [List.append_nil, List.append_nil, replaceFirst_replaceFirst kept]
  refine congrArg (fun schemas => { space with schemas }) (replaceFirst_congr fun other isOther => ?_)
  cases found.symm.trans isOther
  simp [Schema.extend, Schema.relax, modify_concat]

end Grow

theorem modifySchema_append (space : Namespace) (path : String) (field : Field) :
    space.modifySchema path (·.append field) = space.grow path [field] [] := by
  change _ = ({ space with schemas := replaceFirst _ _ space.schemas ++ [] } : Namespace)
  rw [List.append_nil]
  rfl

end Namespace

theorem Data.IsName.parse {value : Data} (isName : value.IsName) : Reference.parse value = .ok value.toName := by
  rcases isName with ⟨text, rfl, name, read⟩
  have parsed := Reference.parse_text.mpr read
  rw [toName, parsed]

theorem Data.IsName.normalize {value : Data} (isName : value.IsName) :
    Reference.normalize value = .ok value.toName.format := by
  rw [Reference.normalize, isName.parse]
  rfl

/-- The type of a tag has the tag. -/
theorem Reference.exists_fieldType {tag : String} (isTag : FieldTag.isTag tag = true) :
    ∃ type, Reference.fieldType (.text tag) = .ok type ∧ type.tag = tag := by
  rcases Option.isSome_iff_exists.mp isTag with ⟨type, found⟩
  refine ⟨type, ?_, by simpa using List.find?_some found⟩
  rw [Reference.fieldType, found]
  rfl

namespace Run

open Effect Document

variable {number : Nat} {space : Namespace} {path : String} {schema : Schema}

theorem fills_ensureOpen : Fills number (ensureOpen ⟨.builder number, space.name⟩) space (.ok ()) space :=
  fills_of_look fun _ isOpen here => perform_ensureOpen isOpen here

/-- An entry is registered if its path is free. -/
theorem fills_register_of_free (entry : Registration) (fresh : entry.path ∉ space.taken entry.kind) :
    Fills number (register ⟨.builder number, space.name⟩ entry) space (.ok ()) (entry.change space) :=
  fills_of_perform (entry.name_change space) fun _ isOpen here =>
    perform_register_of_free isOpen here ((space.isTaken_eq _ _).trans (decide_eq_false fresh))

theorem fills_register_of_taken (entry : Registration) (there : entry.path ∈ space.taken entry.kind) :
    Fills number (register ⟨.builder number, space.name⟩ entry) space
      (.error (.duplicate entry.kind (.text (space.address entry.path)) none)) space :=
  fills_of_look fun _ isOpen here =>
    perform_register_of_taken isOpen here ((space.isTaken_eq _ _).trans (decide_eq_true there))

/-- A schema is registered if its path is free. -/
theorem fills_addSchema (made : Schema) (fresh : made.path ∉ space.taken .schema) :
    Fills number (addSchema ⟨.builder number, space.name⟩ made) space
      (.ok ⟨⟨.builder number, space.name⟩, made.path⟩) (space.addSchema made) := by
  have registers : Fills number (register _ (.ofSchema made)) space (.ok ()) (space.addSchema made) :=
    fills_register_of_free _ fresh
  rw [addSchema_eq]
  exact registers.bind (fills_pure _)

theorem fills_addSchema_of_taken (made : Schema) (there : made.path ∈ space.taken .schema) :
    Fills number (addSchema ⟨.builder number, space.name⟩ made) space
      (.error (.duplicate .schema (.text (space.address made.path)) none)) space := by
  have refuses : Fills number (register _ (.ofSchema made)) space (.error (.duplicate .schema _ none)) space :=
    fills_register_of_taken _ there
  rw [addSchema_eq]
  exact refuses.bind_error

section Fields

variable (found : space.schema? path = some schema)
include found

theorem fills_schema : Fills number (Run.schema ⟨⟨.builder number, space.name⟩, path⟩) space (.ok schema) space :=
  fills_of_look fun world _ here => by
    unfold Run.schema
    rw [perform_bind_of_ok (perform_space here)]
    dsimp only
    rw [found]
    rfl

variable {name : Data} (free : schema.hasField name = false)
include free

theorem fills_checkFieldName :
    Fills number (checkFieldName ⟨⟨.builder number, space.name⟩, path⟩ name) space (.ok ()) space := by
  unfold checkFieldName
  refine fills_ensureOpen.bind ((fills_schema found).bind ?_)
  rw [free]
  exact fills_pure ()

theorem fills_addField (type : String) :
    Fills number (addField ⟨⟨.builder number, space.name⟩, path⟩ name type) space
      (.ok ⟨⟨⟨.builder number, space.name⟩, path⟩, schema.fields.length⟩) (space.grow path [⟨name, type, true⟩] []) := by
  unfold addField
  refine (fills_checkFieldName found free).bind ((fills_schema found).bind ?_)
  rw [← Namespace.modifySchema_append]
  exact (fills_modifySpace _ rfl).bind (fills_pure _)

omit free in
/-- A field that was added may be left out if this is so in the document. -/
theorem fills_relaxIf (name : Data) (type : String) (optional : Data) :
    Fills number (relaxIf optional ⟨⟨⟨.builder number, space.name⟩, path⟩, schema.fields.length⟩)
      (space.grow path [⟨name, type, true⟩] []) (.ok ()) (space.grow path [⟨name, type, !optional.isTruthy⟩] []) := by
  unfold relaxIf
  cases optional.isTruthy with
  | false => exact fills_pure ()
  | true =>
      have relaxed := Namespace.relax_grow found ⟨name, type, true⟩
      rw [if_pos rfl]
      change Fills number (relax _) _ _ (space.grow path [Field.relaxed ⟨name, type, true⟩] [])
      rw [← relaxed]
      exact fills_modifySpace (fun space => space.modifySchema path (·.relax schema.fields.length)) rfl

/-- A field of a type that is given by its tag is added. -/
theorem fills_addPrimitive {tag : String} (isTag : FieldTag.isTag tag = true) :
    Fills number (addPrimitive ⟨⟨.builder number, space.name⟩, path⟩ name (.text tag)) space
      (.ok ⟨⟨⟨.builder number, space.name⟩, path⟩, schema.fields.length⟩) (space.grow path [⟨name, tag, true⟩] []) := by
  rcases Reference.exists_fieldType isTag with ⟨type, isType, rfl⟩
  unfold addPrimitive
  dsimp only
  rw [isType]
  exact (fills_pure type).bind (fills_addField found free type.tag)

/-- A field that holds the schema of a name is added. -/
theorem fills_addReference {target : Data} (isName : target.IsName) :
    Fills number (addReference ⟨⟨.builder number, space.name⟩, path⟩ name target) space
      (.ok ⟨⟨⟨.builder number, space.name⟩, path⟩, schema.fields.length⟩)
      (space.grow path [⟨name, target.toName.format, true⟩] []) := by
  unfold addReference
  refine (fills_checkFieldName found free).bind ?_
  rw [isName.normalize]
  rcases isName with ⟨text, rfl, _⟩
  exact (fills_pure _).bind (fills_addField found free _)

/-- A nested schema is registered if its path is free. -/
theorem fills_declareNested {text : String} (isText : name = .text text)
    (fresh : path ++ "/" ++ text ∉ space.taken .schema) :
    Fills number (declareNested ⟨⟨.builder number, space.name⟩, path⟩ name) space
      (.ok ⟨⟨.builder number, space.name⟩, path ++ "/" ++ text⟩)
      (space.addSchema (Schema.empty (path ++ "/" ++ text) (.bool false) false)) := by
  unfold declareNested
  refine (fills_checkFieldName found free).bind ?_
  subst isText
  dsimp only
  exact fills_addSchema (Schema.empty _ _ _) fresh

theorem fills_declareNested_of_taken {text : String} (isText : name = .text text)
    (taken : path ++ "/" ++ text ∈ space.taken .schema) :
    Fills number (declareNested ⟨⟨.builder number, space.name⟩, path⟩ name) space
      (.error (.duplicate .schema (.text (space.address (path ++ "/" ++ text))) none)) space := by
  unfold declareNested
  refine (fills_checkFieldName found free).bind ?_
  subst isText
  dsimp only
  exact fills_addSchema_of_taken (Schema.empty _ _ _) taken

end Fields

/-- An operation adds fields to the schema of a path, and schemas to its namespace, if the schemas are free. Otherwise
it fails since one is declared twice, with some fields and schemas added. -/
structure Grows (number : Nat) (operation : Run Unit) (space : Namespace) (path : String) (fields : List Field)
    (schemas : List Schema) : Prop where
  /-- It adds what is free. -/
  free : space.Frees schemas → Fills number operation space (.ok ()) (space.grow path fields schemas)
  /-- It fails if something is taken. -/
  taken : ¬space.Frees schemas → ∃ kind name added nested,
    Fills number operation space (.error (.duplicate kind name none)) (space.grow path added nested)

theorem Grows.bind {first rest : Run Unit} {fields added : List Field} {schemas more : List Schema}
    (found : space.schema? path = some schema) (head : Grows number first space path fields schemas)
    (tail : Grows number rest (space.grow path fields schemas) path added more) :
    Grows number (do first; rest) space path (fields ++ added) (schemas ++ more) := by
  refine ⟨fun free => ?_, fun notFree => ?_⟩
  · rcases Namespace.frees_append.mp free with ⟨freeFirst, freeRest⟩
    rw [← Namespace.grow_grow found]
    exact (head.free freeFirst).bind (tail.free freeRest)
  · by_cases freeFirst : space.Frees schemas
    · rcases tail.taken fun freeRest => notFree (Namespace.frees_append.mpr ⟨freeFirst, freeRest⟩) with
        ⟨kind, name, others, nested, failed⟩
      rw [Namespace.grow_grow found] at failed
      exact ⟨kind, name, _, _, (head.free freeFirst).bind failed⟩
    · rcases head.taken freeFirst with ⟨kind, name, others, nested, failed⟩
      exact ⟨kind, name, others, nested, failed.bind_error⟩

end Run

/-- A schema has a field of a name after more fields exactly if it had one or one of these has the name. -/
theorem Schema.hasField_extend (schema : Schema) (fields : List Field) (name : Data) :
    (schema.extend fields).hasField name = (schema.hasField name || fields.any fun field => field.name.same name) := by
  simp [Schema.hasField, Schema.position?, Schema.extend, List.findIdx?_isSome]

theorem FieldDecl.isValid_of_mem {fields : List FieldDecl} (valid : AreValid fields) :
    ∀ field ∈ fields, field.IsValid := by
  induction fields with
  | nil => exact List.forall_mem_nil _
  | cons field rest ih => exact List.forall_mem_cons.mpr ⟨valid.1, ih valid.2.2⟩

/-- The name of a field is not the name of another one. -/
theorem FieldDecl.same_eq_false {field other : FieldDecl} (isField : field.IsValid) (isOther : other.IsValid)
    (apart : other.name ≠ field.name) : field.name.same other.name = false := by
  rcases isField.isFieldName with ⟨text, isText, _⟩
  rcases isOther.isFieldName with ⟨another, isAnother, _⟩
  rw [isText, isAnother] at apart ⊢
  rw [Data.same_text, beq_eq_false_iff_ne]
  rintro rfl
  exact apart rfl

theorem FieldDecl.name_toField (schema : Name) (field : FieldDecl) : (field.toField schema).name = field.name := by
  cases field
  · rfl
  · rfl

namespace Document

open Run

variable {number : Nat} {space : Namespace} {path : String} {schema : Schema}

/-- A field that gives a type or the name of a schema is added. -/
theorem grows_declareField_plain {name type struct optional : Data}
    (valid : (FieldDecl.plain name type struct optional).IsValid) (found : space.schema? path = some schema)
    (free : schema.hasField name = false) :
    Grows number (declareField ⟨⟨.builder number, space.name⟩, path⟩ (.plain name type struct optional)) space path
      [(FieldDecl.plain name type struct optional).toField ⟨space.name, path⟩] [] := by
  refine ⟨fun _ => ?_, fun notFree => (notFree Namespace.frees_nil).elim⟩
  rcases valid.2 with ⟨tag, rfl, isTag⟩ | ⟨rfl, isName⟩
  · exact (fills_addPrimitive found free isTag).bind (fills_relaxIf found name tag optional)
  · exact (fills_addReference found free isName).bind (fills_relaxIf found name _ optional)

/-- A field with fields of its own is added after the schema that is nested in it, if the fields of this are. -/
theorem grows_declareField_inline {text : String} {optional : Data} {fields : List FieldDecl}
    (found : space.schema? path = some schema) (free : schema.hasField (.text text) = false)
    (inner : ∀ {space : Namespace} {path : String} {schema : Schema}, space.schema? path = some schema →
      schema.fields = [] → Grows number (declareFields ⟨⟨.builder number, space.name⟩, path⟩ fields) space path
        (fields.map (FieldDecl.toField ⟨space.name, path⟩)) (FieldDecl.allNested ⟨space.name, path⟩ fields)) :
    Grows number (declareField ⟨⟨.builder number, space.name⟩, path⟩ (.inline (.text text) .null optional fields)) space
      path [(FieldDecl.inline (.text text) .null optional fields).toField ⟨space.name, path⟩]
      ((FieldDecl.inline (.text text) .null optional fields).nested ⟨space.name, path⟩) := by
  have shape : declareField ⟨⟨.builder number, space.name⟩, path⟩ (.inline (.text text) .null optional fields) = (do
      let nested ← declareNested ⟨⟨.builder number, space.name⟩, path⟩ (.text text)
      declareFields nested fields
      let field ← addField ⟨⟨.builder number, space.name⟩, path⟩ (.text text) nested.address
      relaxIf optional field) := by
    rw [declareField]
  rw [shape]
  let made := Schema.empty (path ++ "/" ++ text) (.bool false) false
  have frees : space.Frees ((FieldDecl.inline (.text text) .null optional fields).nested ⟨space.name, path⟩) ↔
      made.path ∉ space.taken .schema ∧
        (space.addSchema made).Frees (FieldDecl.allNested ⟨space.name, made.path⟩ fields) :=
    Namespace.frees_cons rfl rfl rfl
  by_cases there : made.path ∈ space.taken .schema
  · refine ⟨fun isFree => ((frees.mp isFree).1 there).elim, fun _ => ⟨.schema, .text (space.address made.path), [], [], ?_⟩⟩
    rw [Namespace.grow_nil found, List.append_nil]
    exact (fills_declareNested_of_taken found free rfl there).bind_error
  · have foundMade : (space.addSchema made).schema? made.path = some made := Namespace.schema?_concat rfl there
    have grows := inner foundMade rfl
    have grown (added : List Field) (nested : List Schema) :
        (space.addSchema made).grow made.path added nested = space.grow path [] (made.extend added :: nested) := by
      rw [Namespace.grow_nil found]
      exact Namespace.grow_concat rfl there added nested
    have declared : Fills number (declareNested ⟨⟨.builder number, space.name⟩, path⟩ (.text text)) space
        (.ok ⟨⟨.builder number, space.name⟩, made.path⟩) (space.addSchema made) :=
      fills_declareNested found free rfl there
    refine ⟨fun isFree => ?_, fun notFree => ?_⟩
    · have declares := grows.free (frees.mp isFree).2
      rw [grown] at declares
      have foundAfter := Namespace.schema?_grow found []
        (made.extend (fields.map (FieldDecl.toField ⟨space.name, made.path⟩)) ::
          FieldDecl.allNested ⟨space.name, made.path⟩ fields)
      have freeAfter : (schema.extend []).hasField (.text text) = false := by
        rw [Schema.hasField_extend, free]
        rfl
      have last := Namespace.grow_grow found []
        [(FieldDecl.inline (.text text) .null optional fields).toField ⟨space.name, path⟩]
        (made.extend (fields.map (FieldDecl.toField ⟨space.name, made.path⟩)) ::
          FieldDecl.allNested ⟨space.name, made.path⟩ fields) []
      rw [List.nil_append, List.append_nil] at last
      refine declared.bind (declares.bind ((fills_addField foundAfter freeAfter _).bind ?_))
      exact last ▸ fills_relaxIf foundAfter (.text text) _ optional
    · rcases grows.taken fun isFree => notFree (frees.mpr ⟨there, isFree⟩) with ⟨kind, name, added, nested, failed⟩
      rw [grown] at failed
      exact ⟨kind, name, _, _, declared.bind failed.bind_error⟩

mutual

/-- A valid field is added to a schema, with the schemas nested in it. -/
theorem grows_declareField : ∀ field : FieldDecl, field.IsValid → ∀ {space : Namespace} {path : String} {schema : Schema},
    space.schema? path = some schema → schema.hasField field.name = false →
      Grows number (declareField ⟨⟨.builder number, space.name⟩, path⟩ field) space path
        [field.toField ⟨space.name, path⟩] (field.nested ⟨space.name, path⟩)
  | .plain name type struct optional, valid, space, path, schema, found, free =>
      grows_declareField_plain valid found free
  | .inline name type optional fields, valid, space, path, schema, found, free => by
      rcases valid with ⟨⟨text, rfl, _⟩, rfl, areValid⟩
      exact grows_declareField_inline found free fun found noFields =>
        grows_declareFields fields areValid found fun field _ => by
          rw [Schema.hasField, Schema.position?, noFields]
          rfl

/-- Valid fields are added to a schema one after the other, with the schemas nested in them. -/
theorem grows_declareFields : ∀ fields : List FieldDecl, FieldDecl.AreValid fields →
    ∀ {space : Namespace} {path : String} {schema : Schema}, space.schema? path = some schema →
      (∀ field ∈ fields, schema.hasField field.name = false) →
      Grows number (declareFields ⟨⟨.builder number, space.name⟩, path⟩ fields) space path
        (fields.map (FieldDecl.toField ⟨space.name, path⟩)) (FieldDecl.allNested ⟨space.name, path⟩ fields)
  | [], _, space, path, schema, found, _ => by
      refine ⟨fun _ => ?_, fun notFree => (notFree Namespace.frees_nil).elim⟩
      rw [List.map_nil, FieldDecl.allNested, Namespace.grow_nil found, List.append_nil]
      exact fills_pure ()
  | field :: rest, valid, space, path, schema, found, free => by
      rw [List.forall_mem_cons] at free
      have head := grows_declareField field valid.1 found free.1
      refine head.bind found ?_
      refine grows_declareFields rest valid.2.2 (Namespace.schema?_grow found _ _) fun other otherMem => ?_
      have isOther := FieldDecl.isValid_of_mem valid.2.2 other otherMem
      rw [Schema.hasField_extend, free.2 other otherMem, List.any_cons, List.any_nil, FieldDecl.name_toField,
        FieldDecl.same_eq_false valid.1 isOther (valid.2.1 other otherMem)]
      rfl

end

end Document

end SpecGraph
