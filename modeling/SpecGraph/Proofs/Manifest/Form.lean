import Mathlib.Data.List.Forall2
import SpecGraph.Manifest.Diff
import SpecGraph.Proofs.Data.Table

/-!
# The forms of entries

A manifest is plain data, and the forms are what its entries say: a field has a name, a type and a flag, a
schema has an address, a flag and fields, and so on. A form is read from plain data; what else an entry
has, such as its version, does not count. The comparison of two manifests is about the forms of their
entries.
-/

namespace SpecGraph

/-- The values under two relations in turn. -/
theorem forall₂_of_mapM {α β : Type} {read : α → Option β} {values : List α} {results : List β} :
    values.mapM read = some results ↔
      List.Forall₂ (fun value result => read value = some result) values results := by
  induction values generalizing results with
  | nil => simp [List.forall₂_nil_left_iff, eq_comm]
  | cons value rest ih =>
      rw [List.mapM_cons, List.forall₂_cons_left_iff]
      cases first : read value with
      | none => simp
      | some result =>
          cases others : rest.mapM read with
          | none =>
              simp only [Option.bind_eq_bind, Option.bind_some, Option.bind_none, Option.some.injEq]
              constructor
              · intro none
                cases none
              · rintro ⟨_, results, _, all, _⟩
                rw [← ih, others] at all
                cases all
          | some tail =>
              simp only [Option.bind_eq_bind, Option.bind_some, Option.some.injEq]
              constructor
              · intro same
                exact ⟨result, tail, rfl, ih.mp others, (Option.some.inj same).symm⟩
              · rintro ⟨_, results, rfl, all, rfl⟩
                rw [← ih, others] at all
                rw [← Option.some.inj all]
                rfl

namespace Data

/-- The truth value that a value is. -/
def bool? : Data → Option Bool
  | .bool value => some value
  | _ => none

/-- The integer that a value is. -/
def int? : Data → Option Int
  | .int value => some value
  | _ => none

/-- The items of a value that is a list. -/
def list? : Data → Option (List Data)
  | .list items => some items
  | _ => none

theorem text?_eq_some {value : Data} {text : String} :
    value.text? = some text ↔ value = .text text := by
  cases value <;> simp [text?]

theorem bool?_eq_some {value : Data} {flag : Bool} :
    value.bool? = some flag ↔ value = .bool flag := by
  cases value <;> simp [bool?]

theorem int?_eq_some {value : Data} {number : Int} :
    value.int? = some number ↔ value = .int number := by
  cases value <;> simp [int?]

theorem list?_eq_some {value : Data} {items : List Data} :
    value.list? = some items ↔ value = .list items := by
  cases value <;> simp [list?]

@[simp]
theorem items_list (items : List Data) : (Data.list items).items = .ok items := rfl

@[simp]
theorem get?_object (entries : List (String × Data)) (name : String) :
    (object entries).get? name = entries.lookup name :=
  Table.get?_textual entries name

theorem member_of_get? {value found : Data} {name : String} (there : value.get? name = some found) :
    value.member name = .ok found := by
  unfold get? at there
  unfold member
  split at there
  · next entries bare => simp only [there]; rfl
  · cases there

theorem memberOr_of_get? {value found : Data} {name : String} (there : value.get? name = some found)
    (default : Data) : value.memberOr name default = .ok found := by
  unfold get? at there
  unfold memberOr
  split at there
  · next entries bare => simp only [there]; rfl
  · cases there

/-- The member of a mapping, read as a value of some kind. -/
def read? {β : Type} (value : Data) (name : String) (kind : Data → Option β) : Option β :=
  (value.get? name).bind kind

theorem read?_eq_some {β : Type} {value : Data} {name : String} {kind : Data → Option β} {result : β} :
    value.read? name kind = some result ↔ ∃ found, value.get? name = some found ∧
      kind found = some result :=
  Option.bind_eq_some_iff

/-- The values of a list in some form. -/
def listOf? {β : Type} (form : Data → Option β) (value : Data) : Option (List β) :=
  value.list?.bind fun items => items.mapM form

theorem listOf?_eq_some {β : Type} {form : Data → Option β} {value : Data} {results : List β} :
    value.listOf? form = some results ↔ ∃ items, value = .list items ∧
      List.Forall₂ (fun item result => form item = some result) items results := by
  unfold listOf?
  rw [Option.bind_eq_some_iff]
  simp only [list?_eq_some, forall₂_of_mapM]

end Data

/-- What a field says. -/
structure FieldForm where
  /-- The name of the field. -/
  name : String
  /-- A primitive tag or the address of a schema. -/
  type : String
  /-- The field has to be given. -/
  required : Bool
deriving DecidableEq

/-- What a schema says. -/
structure SchemaForm where
  /-- The full name of the schema. -/
  address : String
  /-- The flag that asks for a denser encoding. -/
  compact : Bool
  /-- The fields in their order. -/
  fields : List FieldForm
deriving DecidableEq

/-- What a collection says. -/
structure CollectionForm where
  /-- The full name of the collection. -/
  address : String
  /-- The full name of its schema. -/
  schema : String
  /-- The names of its key fields. -/
  key : List String
deriving DecidableEq

/-- What a dispatch says. -/
structure DispatchForm where
  /-- The full name of the dispatch. -/
  address : String
  /-- The full name of the schema of its requests. -/
  requestType : String
deriving DecidableEq

/-- The form of a field. -/
def FieldForm.of? (value : Data) : Option FieldForm := do
  let name ← value.read? "name" Data.text?
  let type ← value.read? "type" Data.text?
  let required ← value.read? "required" Data.bool?
  return ⟨name, type, required⟩

/-- The form of a schema. -/
def SchemaForm.of? (value : Data) : Option SchemaForm := do
  let address ← value.read? "fqn" Data.text?
  let compact ← value.read? "compact" Data.bool?
  let fields ← value.read? "fields" (Data.listOf? FieldForm.of?)
  return ⟨address, compact, fields⟩

/-- The form of a collection. -/
def CollectionForm.of? (value : Data) : Option CollectionForm := do
  let address ← value.read? "fqn" Data.text?
  let schema ← value.read? "schema" Data.text?
  let key ← value.read? "key" (Data.listOf? Data.text?)
  return ⟨address, schema, key⟩

/-- The form of a dispatch. -/
def DispatchForm.of? (value : Data) : Option DispatchForm := do
  let address ← value.read? "fqn" Data.text?
  let requestType ← value.read? "request_type" Data.text?
  return ⟨address, requestType⟩

theorem read?_text {value : Data} {name text : String} :
    value.read? name Data.text? = some text ↔ value.get? name = some (.text text) := by
  simp [Data.read?_eq_some, Data.text?_eq_some]

theorem read?_bool {value : Data} {name : String} {flag : Bool} :
    value.read? name Data.bool? = some flag ↔ value.get? name = some (.bool flag) := by
  simp [Data.read?_eq_some, Data.bool?_eq_some]

theorem read?_listOf {β : Type} {form : Data → Option β} {value : Data} {name : String}
    {results : List β} :
    value.read? name (Data.listOf? form) = some results ↔
      ∃ items, value.get? name = some (.list items) ∧
        List.Forall₂ (fun item result => form item = some result) items results := by
  simp only [Data.read?_eq_some, Data.listOf?_eq_some]
  constructor
  · rintro ⟨_, there, items, rfl, all⟩
    exact ⟨items, there, all⟩
  · rintro ⟨items, there, all⟩
    exact ⟨_, there, items, rfl, all⟩

theorem FieldForm.of?_eq_some {value : Data} {form : FieldForm} :
    FieldForm.of? value = some form ↔ value.get? "name" = some (.text form.name) ∧
      value.get? "type" = some (.text form.type) ∧
      value.get? "required" = some (.bool form.required) := by
  rw [← read?_text, ← read?_text, ← read?_bool]
  unfold FieldForm.of?
  rcases form with ⟨name, type, required⟩
  cases value.read? "name" Data.text? <;> cases value.read? "type" Data.text? <;>
    cases value.read? "required" Data.bool? <;> simp

theorem SchemaForm.of?_eq_some {value : Data} {form : SchemaForm} :
    SchemaForm.of? value = some form ↔ value.get? "fqn" = some (.text form.address) ∧
      value.get? "compact" = some (.bool form.compact) ∧
      ∃ items, value.get? "fields" = some (.list items) ∧
        List.Forall₂ (fun item field => FieldForm.of? item = some field) items form.fields := by
  rw [← read?_text, ← read?_bool, ← read?_listOf]
  unfold SchemaForm.of?
  rcases form with ⟨address, compact, fields⟩
  cases value.read? "fqn" Data.text? <;> cases value.read? "compact" Data.bool? <;>
    cases value.read? "fields" (Data.listOf? FieldForm.of?) <;> simp

theorem CollectionForm.of?_eq_some {value : Data} {form : CollectionForm} :
    CollectionForm.of? value = some form ↔ value.get? "fqn" = some (.text form.address) ∧
      value.get? "schema" = some (.text form.schema) ∧
      value.get? "key" = some (.list (form.key.map .text)) := by
  have texts {items : List Data} {names : List String} :
      List.Forall₂ (fun item name => Data.text? item = some name) items names ↔
        items = names.map .text := by
    simp only [Data.text?_eq_some]
    rw [← List.forall₂_eq_eq_eq, List.forall₂_map_right_iff]
  have key : value.read? "key" (Data.listOf? Data.text?) = some form.key ↔
      value.get? "key" = some (.list (form.key.map .text)) := by
    simp [read?_listOf, texts]
  rw [← read?_text, ← read?_text, ← key]
  unfold CollectionForm.of?
  rcases form with ⟨address, schema, key⟩
  cases value.read? "fqn" Data.text? <;> cases value.read? "schema" Data.text? <;>
    cases value.read? "key" (Data.listOf? Data.text?) <;> simp

theorem DispatchForm.of?_eq_some {value : Data} {form : DispatchForm} :
    DispatchForm.of? value = some form ↔ value.get? "fqn" = some (.text form.address) ∧
      value.get? "request_type" = some (.text form.requestType) := by
  rw [← read?_text, ← read?_text]
  unfold DispatchForm.of?
  rcases form with ⟨address, requestType⟩
  cases value.read? "fqn" Data.text? <;> cases value.read? "request_type" Data.text? <;> simp

end SpecGraph
