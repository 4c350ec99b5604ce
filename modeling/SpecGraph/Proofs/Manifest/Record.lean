import SpecGraph.Manifest.Entry
import SpecGraph.Proofs.Json.RoundTrip
import SpecGraph.Proofs.Manifest.Form

/-!
# Records of declarations

What is declared in a builder has texts for its names, types and references, and truth values for its flags.
Such a declaration has a form, and a stage makes a record of it, which is the entry of the manifest: the
form together with the numbers that the manifest keeps. A record is a mapping with plain keys, so it is read
back from the manifest as a record of the form with its texts joined.
-/

namespace SpecGraph

namespace Json

/-- Keys that are told apart, and that are read back as they were written. -/
structure AreKeys (names : List String) : Prop where
  /-- No key occurs twice. -/
  distinct : names.Nodup
  /-- No key changes when it is joined. -/
  settled : names.map Text.joined = names

instance (names : List String) : Decidable (AreKeys names) :=
  decidable_of_iff (names.Nodup ∧ names.map Text.joined = names)
    ⟨fun both => ⟨both.1, both.2⟩, fun keys => ⟨keys.distinct, keys.settled⟩⟩

/-- The keys of manifests, of their entries and of the fields in these. -/
def memberNames : List String :=
  ["version", "schema", "collections", "dispatches", "name", "namespace", "fqn", "compact", "fields", "type", "required",
    "key", "request_type", "id"]

theorem areKeys_memberNames : AreKeys memberNames := by decide +kernel

/-- Some of these keys are told apart and read back as well. -/
theorem areKeys_of_subset {names : List String} (distinct : names.Nodup) (inside : names ⊆ memberNames) :
    AreKeys names where
  distinct := distinct
  settled := by
    have each := List.map_inj_left.mp (areKeys_memberNames.settled.trans (List.map_id _).symm)
    exact (List.map_congr_left fun name nameMem => each name (inside nameMem)).trans (List.map_id _)

theorem lookup_perm {α : Type} {first second : List (String × α)} (same : first.Perm second)
    (distinct : (first.map Prod.fst).Nodup) (name : String) :
    first.lookup name = second.lookup name := by
  have distinctSecond : (second.map Prod.fst).Nodup :=
    (List.Perm.map (Prod.fst : String × α → String) same).nodup_iff.mp distinct
  cases found : first.lookup name with
  | none =>
      rw [Table.lookup_eq_none, (List.Perm.map (Prod.fst : String × α → String) same).mem_iff] at found
      exact (Table.lookup_eq_none.mpr found).symm
  | some value =>
      have there := same.mem_iff.mp (Table.mem_of_lookup found)
      exact (Table.lookup_of_mem distinctSecond there).symm

/-- The members of a mapping with plain keys are read back under the same keys. -/
theorem get?_reread (entries : List (String × Data)) (keys : AreKeys (entries.map Prod.fst))
    (layout : Layout) (name : String) :
    (reread layout (Data.object entries)).get? name = (entries.lookup name).map (reread layout) := by
  have same := ordered_perm layout entries
  have names : ((ordered layout entries).map fun entry => (Text.joined entry.1, reread layout entry.2)) =
      (ordered layout entries).map fun entry => (entry.1, reread layout entry.2) := by
    refine List.map_congr_left fun entry entryMem => ?_
    have settled := List.map_inj_left.mp (keys.settled.trans (List.map_id _).symm) entry.1
      (List.mem_map_of_mem (same.mem_iff.mp entryMem))
    rw [settled, id]
  have images : ((ordered layout entries).map fun entry => (entry.1, reread layout entry.2)).Perm
      (entries.map fun entry => (entry.1, reread layout entry.2)) :=
    List.Perm.map (fun entry : String × Data => (entry.1, reread layout entry.2)) same
  have distinct : (((ordered layout entries).map fun entry => (entry.1, reread layout entry.2)).map
      Prod.fst).Nodup := by
    rw [List.map_map]
    exact (List.Perm.map (Prod.fst : String × Data → String) same).nodup_iff.mpr keys.distinct
  rw [reread_object, names, Data.get?_object, lookup_perm images distinct]
  clear images distinct names same keys
  induction entries with
  | nil => rfl
  | cons entry rest ih =>
      rw [List.map_cons, List.lookup_cons, List.lookup_cons]
      cases name == entry.1
      · exact ih
      · rfl

theorem isTree_object {levels : Nat} {entries : List (String × Data)}
    (keys : AreKeys (entries.map Prod.fst)) (parts : ∀ entry ∈ entries, IsTree levels entry.2) :
    IsTree (levels + 1) (Data.object entries) := by
  refine .object parts ?_
  have names := keys.settled
  rw [List.map_map] at names
  exact names ▸ keys.distinct

end Json

/-- A field as a stage sees it. -/
def FieldForm.toSpec (field : FieldForm) : FieldSpec :=
  ⟨.text field.name, .text field.type, .bool field.required⟩

/-- A field with its version. -/
def FieldForm.record (field : FieldForm) (version : Int) : Data :=
  .object (field.toSpec.members ++ [("version", .int version)])

/-- A schema that is declared in a namespace. -/
structure SchemaSource where
  /-- The name of the namespace. -/
  space : String
  /-- The path of the schema in its namespace. -/
  path : String
  /-- The flag that asks for a denser encoding. -/
  compact : Bool
  /-- The fields in their order. -/
  fields : List FieldForm

/-- A collection that is declared in a namespace. -/
structure CollectionSource where
  /-- The name of the namespace. -/
  space : String
  /-- The path of the collection in its namespace. -/
  path : String
  /-- The full name of its schema. -/
  schema : String
  /-- The names of its key fields. -/
  key : List String

/-- A dispatch that is declared in a namespace. -/
structure DispatchSource where
  /-- The name of the namespace. -/
  space : String
  /-- The path of the dispatch in its namespace. -/
  path : String
  /-- The full name of the schema of its requests. -/
  requestType : String

namespace SchemaSource

/-- A declared schema as a stage sees it. -/
def entry (source : SchemaSource) : Entry SchemaSpec :=
  ⟨.text source.space, .text source.path, .bool source.compact, source.fields.map FieldForm.toSpec⟩

/-- What a declared schema says. -/
def form (source : SchemaSource) : SchemaForm :=
  ⟨Name.format ⟨source.space, source.path⟩, source.compact, source.fields⟩

/-- A declared schema with its version, and with its fields as they are given. -/
def record (source : SchemaSource) (fields : List Data) (version : Int) : Data :=
  .object (schemaMembers source.entry fields ++ [("version", .int version)])

end SchemaSource

namespace CollectionSource

/-- A declared collection as a stage sees it. -/
def entry (source : CollectionSource) : Entry CollectionSpec :=
  ⟨.text source.space, .text source.path, .text source.schema, source.key.map .text⟩

/-- What a declared collection says. -/
def form (source : CollectionSource) : CollectionForm :=
  ⟨Name.format ⟨source.space, source.path⟩, source.schema, source.key⟩

/-- A declared collection with its id. -/
def record (source : CollectionSource) (id : Int) : Data :=
  .object (collectionMembers source.entry ++ [("id", .int id)])

end CollectionSource

namespace DispatchSource

/-- A declared dispatch as a stage sees it. -/
def entry (source : DispatchSource) : Entry DispatchSpec :=
  ⟨.text source.space, .text source.path, .text source.requestType⟩

/-- What a declared dispatch says. -/
def form (source : DispatchSource) : DispatchForm :=
  ⟨Name.format ⟨source.space, source.path⟩, source.requestType⟩

/-- A declared dispatch with its id. -/
def record (source : DispatchSource) (id : Int) : Data :=
  .object (dispatchMembers source.entry ++ [("id", .int id)])

end DispatchSource

/-- A field with its texts joined. -/
def FieldForm.joined (field : FieldForm) : FieldForm :=
  ⟨Text.joined field.name, Text.joined field.type, field.required⟩

/-- A schema with its texts joined. -/
def SchemaForm.joined (schema : SchemaForm) : SchemaForm :=
  ⟨Text.joined schema.address, schema.compact, schema.fields.map FieldForm.joined⟩

/-- A collection with its texts joined. -/
def CollectionForm.joined (collection : CollectionForm) : CollectionForm :=
  ⟨Text.joined collection.address, Text.joined collection.schema, collection.key.map Text.joined⟩

/-- A dispatch with its texts joined. -/
def DispatchForm.joined (dispatch : DispatchForm) : DispatchForm :=
  ⟨Text.joined dispatch.address, Text.joined dispatch.requestType⟩

theorem FieldForm.joined_joined (field : FieldForm) : field.joined.joined = field.joined := by
  simp [joined, Text.joined_joined]

theorem SchemaForm.joined_joined (schema : SchemaForm) : schema.joined.joined = schema.joined := by
  simp [joined, Text.joined_joined, Function.comp_def, FieldForm.joined_joined]

theorem CollectionForm.joined_joined (collection : CollectionForm) :
    collection.joined.joined = collection.joined := by
  simp [joined, Text.joined_joined, Function.comp_def]

theorem DispatchForm.joined_joined (dispatch : DispatchForm) : dispatch.joined.joined = dispatch.joined := by
  simp [joined, Text.joined_joined]

/-- A value has a number under a name that is not negative and not beyond a bound. -/
def HasNumber (bound : Nat) (value : Data) (name : String) : Prop :=
  ∃ number : Nat, number ≤ bound ∧ value.get? name = some (.int number)

/-- An entry for a field with a version. -/
structure FieldRecord (bound : Nat) (value : Data) (field : FieldForm) : Prop where
  /-- The entry says what the field says. -/
  shows : FieldForm.of? value = some field
  /-- The entry has a version. -/
  version : HasNumber bound value "version"

/-- An entry for a schema with versions. -/
structure SchemaRecord (bound : Nat) (value : Data) (schema : SchemaForm) : Prop where
  /-- The entry has the address of the schema. -/
  address : value.get? "fqn" = some (.text schema.address)
  /-- The entry has the flag of the schema. -/
  compact : value.get? "compact" = some (.bool schema.compact)
  /-- The entry has the fields of the schema with versions. -/
  fields : ∃ items, value.get? "fields" = some (.list items) ∧
    List.Forall₂ (FieldRecord bound) items schema.fields
  /-- The entry has a version. -/
  version : HasNumber bound value "version"

/-- What an entry with an id says. -/
def numbered? {Form : Type} (of? : Data → Option Form) (value : Data) : Option (Form × Int) := do
  let form ← of? value
  let id ← value.read? "id" Data.int?
  return (form, id)

theorem numbered?_eq_some {Form : Type} {of? : Data → Option Form} {value : Data} {form : Form}
    {id : Int} :
    numbered? of? value = some (form, id) ↔ of? value = some form ∧ value.get? "id" = some (.int id) := by
  have number : value.read? "id" Data.int? = some id ↔ value.get? "id" = some (.int id) := by
    simp [Data.read?_eq_some, Data.int?_eq_some]
  rw [← number]
  unfold numbered?
  cases of? value <;> cases value.read? "id" Data.int? <;> simp

/-- An entry with an id that says what a form says. -/
structure NumberedRecord {Form : Type} (of? : Data → Option Form) (bound : Nat) (value : Data)
    (numbered : Form × Int) : Prop where
  /-- The entry says what the form says. -/
  shows : of? value = some numbered.1
  /-- The entry has the id. -/
  id : value.get? "id" = some (.int numbered.2)
  /-- The id is not negative and not beyond the bound. -/
  small : 0 ≤ numbered.2 ∧ numbered.2 ≤ bound

theorem HasNumber.mono {bound more : Nat} (less : bound ≤ more) {value : Data} {name : String}
    (number : HasNumber bound value name) : HasNumber more value name := by
  obtain ⟨number, small, there⟩ := number
  exact ⟨number, Nat.le_trans small less, there⟩

theorem FieldRecord.mono {bound more : Nat} (less : bound ≤ more) {value : Data} {field : FieldForm}
    (record : FieldRecord bound value field) : FieldRecord more value field :=
  ⟨record.shows, record.version.mono less⟩

theorem SchemaRecord.mono {bound more : Nat} (less : bound ≤ more) {value : Data} {schema : SchemaForm}
    (record : SchemaRecord bound value schema) : SchemaRecord more value schema := by
  obtain ⟨items, there, fields⟩ := record.fields
  exact ⟨record.address, record.compact,
    ⟨items, there, fields.imp fun _ _ field => field.mono less⟩, record.version.mono less⟩

theorem SchemaRecord.shows {bound : Nat} {value : Data} {schema : SchemaForm}
    (record : SchemaRecord bound value schema) : SchemaForm.of? value = some schema := by
  obtain ⟨items, there, fields⟩ := record.fields
  exact SchemaForm.of?_eq_some.mpr ⟨record.address, record.compact, items, there,
    fields.imp fun _ _ field => field.shows⟩

theorem NumberedRecord.mono {Form : Type} {of? : Data → Option Form} {bound more : Nat}
    (less : bound ≤ more) {value : Data} {numbered : Form × Int}
    (record : NumberedRecord of? bound value numbered) : NumberedRecord of? more value numbered :=
  ⟨record.shows, record.id, record.small.1, by have := record.small.2; omega⟩

theorem FieldForm.of?_members (field : FieldForm) :
    FieldForm.of? (.object field.toSpec.members) = some field := by
  rw [FieldForm.of?_eq_some]
  simp [List.lookup_cons, FieldSpec.members, FieldForm.toSpec]

theorem SchemaSource.of?_schemaData (source : SchemaSource) :
    SchemaForm.of? source.entry.schemaData = some source.form := by
  have fields : List.Forall₂ (fun item field => FieldForm.of? item = some field)
      ((source.fields.map FieldForm.toSpec).map fun field => .object field.members) source.fields := by
    rw [List.forall₂_map_left_iff, List.forall₂_map_left_iff]
    exact List.forall₂_same.mpr fun field _ => field.of?_members
  refine SchemaForm.of?_eq_some.mpr ⟨?_, ?_, _, ?_, fields⟩
  all_goals
    simp [List.lookup_cons, Entry.schemaData, schemaMembers, placeMembers, entry, form, addressOf, Data.display]

theorem SchemaSource.forall₂_schemaData (sources : List SchemaSource) :
    List.Forall₂ (fun item form => SchemaForm.of? item = some form)
      ((sources.map SchemaSource.entry).map Entry.schemaData) (sources.map SchemaSource.form) := by
  rw [List.forall₂_map_left_iff, List.forall₂_map_left_iff, List.forall₂_map_right_iff]
  exact List.forall₂_same.mpr fun source _ => source.of?_schemaData

theorem CollectionSource.of?_collectionData (source : CollectionSource) :
    CollectionForm.of? source.entry.collectionData = some source.form := by
  rw [CollectionForm.of?_eq_some]
  simp [List.lookup_cons, Entry.collectionData, collectionMembers, placeMembers, entry, form, addressOf, Data.display]

theorem DispatchSource.of?_dispatchData (source : DispatchSource) :
    DispatchForm.of? source.entry.dispatchData = some source.form := by
  rw [DispatchForm.of?_eq_some]
  simp [List.lookup_cons, Entry.dispatchData, dispatchMembers, placeMembers, entry, form, addressOf, Data.display]

section Reread

variable (layout : Json.Layout) {bound : Nat}

/-! What is read back of an entry has the members of the entry, whatever number it was given. -/

theorem FieldForm.get?_reread (field : FieldForm) (version : Data) (name : String) :
    (Json.reread layout (.object (field.toSpec.members ++ [("version", version)]))).get? name =
      ((field.toSpec.members ++ [("version", version)]).lookup name).map (Json.reread layout) :=
  Json.get?_reread (field.toSpec.members ++ [("version", version)])
    (show Json.AreKeys ["name", "type", "required", "version"] from
      Json.areKeys_of_subset (by decide) (by decide)) layout name

theorem SchemaSource.get?_reread (source : SchemaSource) (fields : List Data) (version : Data) (name : String) :
    (Json.reread layout (.object (schemaMembers source.entry fields ++ [("version", version)]))).get? name =
      ((schemaMembers source.entry fields ++ [("version", version)]).lookup name).map (Json.reread layout) :=
  Json.get?_reread (schemaMembers source.entry fields ++ [("version", version)])
    (show Json.AreKeys ["name", "namespace", "fqn", "compact", "fields", "version"] from
      Json.areKeys_of_subset (by decide) (by decide)) layout name

theorem CollectionSource.get?_reread (source : CollectionSource) (id : Data) (name : String) :
    (Json.reread layout (.object (collectionMembers source.entry ++ [("id", id)]))).get? name =
      ((collectionMembers source.entry ++ [("id", id)]).lookup name).map (Json.reread layout) :=
  Json.get?_reread (collectionMembers source.entry ++ [("id", id)])
    (show Json.AreKeys ["name", "namespace", "fqn", "schema", "key", "id"] from
      Json.areKeys_of_subset (by decide) (by decide)) layout name

theorem DispatchSource.get?_reread (source : DispatchSource) (id : Data) (name : String) :
    (Json.reread layout (.object (dispatchMembers source.entry ++ [("id", id)]))).get? name =
      ((dispatchMembers source.entry ++ [("id", id)]).lookup name).map (Json.reread layout) :=
  Json.get?_reread (dispatchMembers source.entry ++ [("id", id)])
    (show Json.AreKeys ["name", "namespace", "fqn", "request_type", "id"] from
      Json.areKeys_of_subset (by decide) (by decide)) layout name

/-! It says what was declared, with its texts joined. -/

theorem FieldForm.of?_reread (field : FieldForm) (version : Data) :
    FieldForm.of? (Json.reread layout (.object (field.toSpec.members ++ [("version", version)]))) =
      some field.joined := by
  refine FieldForm.of?_eq_some.mpr ⟨?_, ?_, ?_⟩
  all_goals
    rw [FieldForm.get?_reread]
    simp [List.lookup_cons, FieldSpec.members, FieldForm.toSpec, FieldForm.joined]

theorem SchemaSource.of?_reread (source : SchemaSource) {fields : List Data}
    (shows : List.Forall₂ (fun value field => FieldForm.of? (Json.reread layout value) = some (FieldForm.joined field))
      fields source.fields) (version : Data) :
    SchemaForm.of? (Json.reread layout (.object (schemaMembers source.entry fields ++ [("version", version)]))) =
      some source.form.joined := by
  refine SchemaForm.of?_eq_some.mpr ⟨?_, ?_, fields.map (Json.reread layout), ?_, ?_⟩
  case refine_4 => rwa [List.forall₂_map_left_iff, SchemaForm.joined, List.forall₂_map_right_iff]
  case refine_3 =>
    rw [SchemaSource.get?_reread, ← Json.reread_list]
    rfl
  all_goals
    rw [SchemaSource.get?_reread]
    simp [List.lookup_cons, schemaMembers, placeMembers, entry, form, SchemaForm.joined, addressOf, Data.display]

theorem CollectionSource.of?_reread (source : CollectionSource) (id : Data) :
    CollectionForm.of? (Json.reread layout (.object (collectionMembers source.entry ++ [("id", id)]))) =
      some source.form.joined := by
  refine CollectionForm.of?_eq_some.mpr ⟨?_, ?_, ?_⟩
  case refine_3 =>
    have key : (source.key.map Data.text).map (Json.reread layout) =
        (source.key.map Text.joined).map Data.text := by
      rw [List.map_map, List.map_map]
      rfl
    rw [CollectionSource.get?_reread]
    change some (Json.reread layout (.list (source.key.map Data.text))) = _
    rw [Json.reread_list, key]
    rfl
  all_goals
    rw [CollectionSource.get?_reread]
    simp [List.lookup_cons, collectionMembers, placeMembers, entry, form, CollectionForm.joined, addressOf,
      Data.display]

theorem DispatchSource.of?_reread (source : DispatchSource) (id : Data) :
    DispatchForm.of? (Json.reread layout (.object (dispatchMembers source.entry ++ [("id", id)]))) =
      some source.form.joined := by
  refine DispatchForm.of?_eq_some.mpr ⟨?_, ?_⟩
  all_goals
    rw [DispatchSource.get?_reread]
    simp [List.lookup_cons, dispatchMembers, placeMembers, entry, form, DispatchForm.joined, addressOf, Data.display]

/-- The record of a field is read back as one of the field with its texts joined. -/
theorem FieldForm.reread_record (field : FieldForm) {version : Nat} (small : version ≤ bound) :
    FieldRecord bound (Json.reread layout (field.record version)) field.joined := by
  refine ⟨field.of?_reread layout _, version, small, ?_⟩
  rw [record, field.get?_reread]
  simp [List.lookup_cons, FieldSpec.members]

/-- The record of a schema is read back as one of the schema with its texts joined. -/
theorem SchemaSource.reread_record (source : SchemaSource) {fields : List Data} {version : Nat}
    (versions : List.Forall₂ (fun value field => ∃ version : Nat, version ≤ bound ∧
      value = FieldForm.record field version) fields source.fields) (small : version ≤ bound) :
    SchemaRecord bound (Json.reread layout (source.record fields version)) source.form.joined := by
  have records : List.Forall₂ (fun value field =>
      FieldRecord bound (Json.reread layout value) (FieldForm.joined field)) fields source.fields := by
    refine versions.imp fun value field => ?_
    rintro ⟨version, small, rfl⟩
    exact field.reread_record layout small
  rcases SchemaForm.of?_eq_some.mp (source.of?_reread layout (records.imp fun _ _ record => record.shows) (.int version))
    with ⟨address, compact, _⟩
  refine ⟨address, compact, ⟨fields.map (Json.reread layout), ?_, ?_⟩, version, small, ?_⟩
  · rw [record, source.get?_reread, ← Json.reread_list]
    rfl
  · rwa [List.forall₂_map_left_iff, SchemaForm.joined, List.forall₂_map_right_iff]
  · rw [record, source.get?_reread]
    simp [List.lookup_cons, schemaMembers, placeMembers]

/-- The record of a collection is read back as one of the collection with its texts joined. -/
theorem CollectionSource.reread_record (source : CollectionSource) {id : Int}
    (small : 0 ≤ id ∧ id ≤ bound) :
    NumberedRecord CollectionForm.of? bound (Json.reread layout (source.record id))
      (source.form.joined, id) := by
  refine ⟨source.of?_reread layout _, ?_, small⟩
  rw [record, source.get?_reread]
  simp [List.lookup_cons, collectionMembers, placeMembers]

/-- The record of a dispatch is read back as one of the dispatch with its texts joined. -/
theorem DispatchSource.reread_record (source : DispatchSource) {id : Int}
    (small : 0 ≤ id ∧ id ≤ bound) :
    NumberedRecord DispatchForm.of? bound (Json.reread layout (source.record id))
      (source.form.joined, id) := by
  refine ⟨source.of?_reread layout _, ?_, small⟩
  rw [record, source.get?_reread]
  simp [List.lookup_cons, dispatchMembers, placeMembers]

end Reread

end SpecGraph
