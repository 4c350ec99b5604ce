import SpecGraph.Proofs.Manifest.Ids
import SpecGraph.Proofs.Manifest.Touched

/-!
# Versions in a series of compiles

A schema and each of its fields have the version of the manifest in which they last changed. What the next
compile finds unchanged keeps its version, whatever else it changes: the flag and the fields of a schema decide
about its version, and the type and the flag of a field about that of the field. This is so as long as no name
has the mark that stands before the name of a field in a path. Where a full name goes on with the mark after
another full name, a change of the first schema counts as one of the second schema.
-/

namespace SpecGraph

/-- The number that a value is, if it is not negative. -/
def Data.nat? : Data → Option Nat
  | .int (.ofNat number) => some number
  | _ => none

theorem Data.nat?_eq_some {value : Data} {number : Nat} : value.nat? = some number ↔ value = .int number := by
  constructor
  · intro isNumber
    unfold nat? at isNumber
    split at isNumber
    · cases isNumber
      rfl
    · cases isNumber
  · rintro rfl
    rfl

theorem read?_nat {value : Data} {name : String} {number : Nat} :
    value.read? name Data.nat? = some number ↔ value.get? name = some (.int number) := by
  simp [Data.read?_eq_some, Data.nat?_eq_some]

/-- A field with its version, as an entry has it. -/
def FieldForm.versioned? (value : Data) : Option (FieldForm × Nat) := do
  let form ← FieldForm.of? value
  let version ← value.read? "version" Data.nat?
  return (form, version)

theorem FieldForm.versioned?_eq_some {value : Data} {field : FieldForm × Nat} :
    FieldForm.versioned? value = some field ↔
      FieldForm.of? value = some field.1 ∧ value.get? "version" = some (.int field.2) := by
  rw [← read?_nat]
  unfold versioned?
  rcases field with ⟨form, version⟩
  cases FieldForm.of? value <;> cases value.read? "version" Data.nat? <;> simp

/-- A schema with its version and those of its fields. -/
structure VersionedSchema where
  /-- The full name of the schema. -/
  address : String
  /-- The flag that asks for a denser encoding. -/
  compact : Bool
  /-- The fields in their order with their versions. -/
  fields : List (FieldForm × Nat)
  /-- The version of the schema. -/
  version : Nat
deriving DecidableEq

namespace VersionedSchema

/-- What a schema says apart from its versions. -/
def form (schema : VersionedSchema) : SchemaForm :=
  ⟨schema.address, schema.compact, schema.fields.map Prod.fst⟩

/-- A schema with its texts joined. -/
def joined (schema : VersionedSchema) : VersionedSchema :=
  ⟨Text.joined schema.address, schema.compact, schema.fields.map fun field => (field.1.joined, field.2),
    schema.version⟩

theorem form_joined (schema : VersionedSchema) : schema.joined.form = schema.form.joined := by
  simp [joined, form, SchemaForm.joined, List.map_map, Function.comp_def]

/-- A schema with versions, as an entry has it. -/
def of? (value : Data) : Option VersionedSchema := do
  let address ← value.read? "fqn" Data.text?
  let compact ← value.read? "compact" Data.bool?
  let fields ← value.read? "fields" (Data.listOf? FieldForm.versioned?)
  let version ← value.read? "version" Data.nat?
  return ⟨address, compact, fields, version⟩

theorem of?_eq_some {value : Data} {schema : VersionedSchema} :
    of? value = some schema ↔ value.get? "fqn" = some (.text schema.address) ∧
      value.get? "compact" = some (.bool schema.compact) ∧
      (∃ items, value.get? "fields" = some (.list items) ∧
        List.Forall₂ (fun item field => FieldForm.versioned? item = some field) items schema.fields) ∧
      value.get? "version" = some (.int schema.version) := by
  rw [← read?_text, ← read?_bool, ← read?_listOf, ← read?_nat]
  unfold of?
  rcases schema with ⟨address, compact, fields, version⟩
  cases value.read? "fqn" Data.text? <;> cases value.read? "compact" Data.bool? <;>
    cases value.read? "fields" (Data.listOf? FieldForm.versioned?) <;>
    cases value.read? "version" Data.nat? <;> simp

end VersionedSchema

/-- An entry for a schema with some versions, none of which is beyond a bound. -/
structure VersionedRecord (bound : Nat) (value : Data) (schema : VersionedSchema) : Prop where
  /-- The entry has the schema with its versions. -/
  shows : VersionedSchema.of? value = some schema
  /-- The version of the schema is not beyond the bound. -/
  small : schema.version ≤ bound
  /-- The version of a field is not beyond the bound. -/
  fieldsSmall : ∀ field ∈ schema.fields, field.2 ≤ bound

theorem VersionedRecord.schemaRecord {bound : Nat} {value : Data} {schema : VersionedSchema}
    (record : VersionedRecord bound value schema) : SchemaRecord bound value schema.form := by
  rcases VersionedSchema.of?_eq_some.mp record.shows with ⟨address, compact, ⟨items, there, all⟩, version⟩
  refine ⟨address, compact, ⟨items, there, ?_⟩, _, record.small, version⟩
  rw [VersionedSchema.form, List.forall₂_map_right_iff]
  rw [List.forall₂_iff_zip] at all ⊢
  refine ⟨all.1, fun {item field} pairMem => ?_⟩
  rcases FieldForm.versioned?_eq_some.mp (all.2 pairMem) with ⟨shows, there⟩
  exact ⟨shows, _, record.fieldsSmall field (List.of_mem_zip pairMem).2, there⟩

namespace Manifest

theorem exists_forall₂ {α β : Type} {relation : α → β → Prop} {elements : List α}
    (each : ∀ element ∈ elements, ∃ result, relation element result) :
    ∃ results, List.Forall₂ relation elements results := by
  induction elements with
  | nil => exact ⟨[], List.Forall₂.nil⟩
  | cons element rest ih =>
      rw [List.forall_mem_cons] at each
      rcases each.1 with ⟨result, related⟩
      rcases ih each.2 with ⟨others, all⟩
      exact ⟨result :: others, List.Forall₂.cons related all⟩

/-- The record of a schema with its versions. -/
def versionedRecord (source : SchemaSource) (schema : VersionedSchema) : Data :=
  source.record (schema.fields.map fun field => field.1.record field.2) schema.version

/-- The record of a field is read back with its version and with its texts joined. -/
theorem reread_versionedField (field : FieldForm) (version : Nat) :
    FieldForm.versioned? (Json.reread layout (field.record version)) = some (field.joined, version) := by
  rw [FieldForm.versioned?_eq_some]
  refine ⟨(field.reread_record layout (Nat.le_refl version)).shows, ?_⟩
  rw [FieldForm.record, Json.get?_reread (field.toSpec.members ++ [("version", Data.int version)])
    (show Json.AreKeys ["name", "type", "required", "version"] from
      Json.areKeys_of_subset (by decide) (by decide))]
  simp [List.lookup_cons, FieldSpec.members]

/-- The record of a schema is read back with its versions and with its texts joined. -/
theorem reread_versionedRecord {bound : Nat} {source : SchemaSource} {schema : VersionedSchema}
    (same : schema.form = source.form) (small : schema.version ≤ bound)
    (fieldsSmall : ∀ field ∈ schema.fields, field.2 ≤ bound) :
    VersionedRecord bound (Json.reread layout (versionedRecord source schema)) schema.joined := by
  have members (name : String) := Json.get?_reread
    (schemaMembers source.entry (schema.fields.map fun field => field.1.record field.2) ++
      [("version", Data.int schema.version)])
    (show Json.AreKeys ["name", "namespace", "fqn", "compact", "fields", "version"] from
      Json.areKeys_of_subset (by decide) (by decide)) layout name
  have address : schema.address = addressOf source.entry.space source.entry.spec.name :=
    congrArg SchemaForm.address same
  have compact : schema.compact = source.compact := congrArg SchemaForm.compact same
  refine ⟨VersionedSchema.of?_eq_some.mpr ⟨?_, ?_, ⟨(schema.fields.map fun field =>
    field.1.record field.2).map (Json.reread layout), ?_, ?_⟩, ?_⟩, small, ?_⟩
  case refine_3 =>
    rw [versionedRecord, SchemaSource.record, members]
    change some (Json.reread layout (.list (schema.fields.map fun field => field.1.record field.2))) = _
    rw [Json.reread_list]
  case refine_4 =>
    rw [List.map_map, List.forall₂_map_left_iff, VersionedSchema.joined, List.forall₂_map_right_iff]
    exact List.forall₂_same.mpr fun field _ => reread_versionedField field.1 field.2
  case refine_6 =>
    rw [VersionedSchema.joined, List.forall_mem_map]
    exact fieldsSmall
  all_goals
    rw [versionedRecord, SchemaSource.record, members]
    simp [List.lookup_cons, schemaMembers, placeMembers, VersionedSchema.joined, address, compact,
      SchemaSource.entry]

/-- What is kept of the versions of an earlier schema, given the changes: what is not touched keeps its
version. -/
structure VersionsKept (changes : List Change) (old new : VersionedSchema) : Prop where
  /-- The schema keeps its version. -/
  schema : isTouched changes ("Schema:" ++ new.address) = false → new.version = old.version
  /-- A field keeps its version. -/
  fields : ∀ earlier ∈ old.fields, ∀ field ∈ new.fields, field.1.name = earlier.1.name →
    isTouched changes (fieldPath ("Schema:" ++ new.address) (.text field.1.name)) = false →
      field.2 = earlier.2

theorem exists_versions_of_records {limit : Nat} {Keeps : FieldForm → Nat → Prop} {values : List Data}
    {fields : List FieldForm}
    (records : List.Forall₂ (fun value field => ∃ version : Nat,
      (version ≤ limit ∧ value = FieldForm.record field version) ∧ Keeps field version) values fields) :
    ∃ versioned : List (FieldForm × Nat), versioned.map Prod.fst = fields ∧
      values = versioned.map (fun field => field.1.record field.2) ∧
      ∀ field ∈ versioned, Keeps field.1 field.2 := by
  induction records with
  | nil => exact ⟨[], rfl, rfl, by simp⟩
  | @cons value field _ _ here _ ih =>
      rcases here with ⟨version, ⟨_, rfl⟩, keeps⟩
      rcases ih with ⟨versioned, rfl, rfl, all⟩
      exact ⟨(field, version) :: versioned, rfl, rfl, List.forall_mem_cons.mpr ⟨keeps, all⟩⟩

/-- The fields of an earlier schema are found by their names. -/
theorem exists_earlierField {bound : Nat} {value : Data} {old : VersionedSchema}
    (record : VersionedRecord bound value old) (distinct : (old.form.fields.map FieldForm.name).Nodup)
    {oldFields : Table Data} (areFields : earlierFields (some value) = .ok oldFields) {field : FieldForm × Nat}
    (fieldMem : field ∈ old.fields) :
    ∃ item ∈ oldFields.get? (.text field.1.name), item.get? "version" = some (.int field.2) := by
  rcases VersionedSchema.of?_eq_some.mp record.shows with ⟨_, _, ⟨items, there, all⟩, _⟩
  rcases exists_pairs all with ⟨entries, rfl, areEntries, shows⟩
  have named : ∀ entry ∈ entries, entry.1.member "name" = .ok (.text entry.2.1.name) := fun entry entryMem =>
    Data.member_of_get? (FieldForm.of?_eq_some.mp (FieldForm.versioned?_eq_some.mp (shows entry entryMem)).1).1
  have keys : ((entries.map fun entry => (entry.2.1.name, entry.1)).map Prod.fst).Nodup := by
    rw [VersionedSchema.form, ← areEntries, List.map_map, List.map_map] at distinct
    rw [List.map_map]
    exact distinct
  rw [earlierFields, Data.member_of_get? there, ok_bind, Data.items_list, ok_bind, Table.keyedBy_map named,
    Table.insertTexts_of_nodup [] _ keys] at areFields
  cases areFields
  rw [← areEntries] at fieldMem
  rcases List.mem_map.mp fieldMem with ⟨entry, entryMem, rfl⟩
  refine ⟨entry.1, ?_, (FieldForm.versioned?_eq_some.mp (shows entry entryMem)).2⟩
  rw [Option.mem_def, Table.get?_textual]
  exact Table.lookup_of_mem keys (List.mem_map.mpr ⟨entry, entryMem, rfl⟩)

/-- The entry for a schema is its record with versions that are kept where nothing changed. -/
theorem exists_versioned {bound version : Nat} (small : version ≤ bound + 1) (changes : List Change)
    {oldSchemas : Table Data}
    (recorded : ∀ address : String, ∀ value ∈ oldSchemas.get? (.text address),
      ∃ old, VersionedRecord bound value old) (source : SchemaSource) :
    ∃ new : VersionedSchema, new.form = source.form ∧
      versionedSchema version changes oldSchemas source.entry = .ok (versionedRecord source new) ∧
      ∀ value ∈ oldSchemas.get? (.text new.address), ∀ old, VersionedRecord bound value old →
        (old.form.fields.map FieldForm.name).Nodup → VersionsKept changes old new := by
  rcases exists_versionedSchema small changes (fun address value found => by
    rcases recorded address value found with ⟨old, record⟩
    exact ⟨_, record.schemaRecord⟩) source with
    ⟨oldFields, values, own, areFields, versioned, ⟨_, ownKept⟩, records⟩
  rcases exists_versions_of_records records with ⟨fields, areForms, rfl, fieldsKept⟩
  refine ⟨⟨source.form.address, source.compact, fields, own⟩, ?_, versioned, ?_⟩
  · rw [VersionedSchema.form, areForms]
    rfl
  intro value found old record distinct
  dsimp only at found
  rw [Option.mem_def.mp found] at areFields
  refine ⟨fun untouched => ?_, fun earlier earlierMem field fieldMem sameName untouched => ?_⟩
  · have kept := ownKept untouched value found
    rw [(VersionedSchema.of?_eq_some.mp record.shows).2.2.2, Option.some.injEq, Data.int.injEq,
      Int.natCast_inj] at kept
    exact kept.symm
  · rcases exists_earlierField record distinct areFields earlierMem with ⟨item, isItem, there⟩
    have kept := fieldsKept field fieldMem untouched item (sameName ▸ isItem)
    rw [there, Option.some.injEq, Data.int.injEq, Int.natCast_inj] at kept
    exact kept.symm

theorem isTree_versionedRecord {source : SchemaSource} {schema : VersionedSchema}
    (same : schema.form = source.form) (small : schema.version ≤ Text.mostShown)
    (fieldsSmall : ∀ field ∈ schema.fields, field.2 ≤ Text.mostShown) :
    Json.IsTree 3 (versionedRecord source schema) := by
  have fields : schema.fields.map Prod.fst = source.fields := congrArg SchemaForm.fields same
  refine source.isTree_record Text.mostShown_lt ?_ small
  rw [← fields, List.forall₂_map_left_iff, List.forall₂_map_right_iff]
  exact List.forall₂_same.mpr fun field fieldMem => ⟨field.2, fieldsSmall field fieldMem, rfl⟩

/-- The numbers of a written record of a schema can be shown. -/
theorem small_of_versionedRecord {source : SchemaSource} {schema : VersionedSchema}
    (hasText : Json.HasText layout (versionedRecord source schema)) :
    schema.version ≤ Text.mostShown ∧ ∀ field ∈ schema.fields, field.2 ≤ Text.mostShown := by
  have own : Json.HasText layout (.int schema.version) :=
    hasText.entry (List.mem_append_right _ List.mem_cons_self)
  have values : Json.HasText layout (.list (schema.fields.map fun field => field.1.record field.2)) := by
    refine hasText.entry (List.mem_append_left _ (?_ : ("fields", _) ∈ schemaMembers _ _))
    simp [schemaMembers]
  refine ⟨by have small := own.le_mostShown (Int.natCast_nonneg _); omega, fun field fieldMem => ?_⟩
  have version : Json.HasText layout (.int field.2) :=
    (values.item (List.mem_map_of_mem fieldMem)).entry (List.mem_append_right _ List.mem_cons_self)
  have small := version.le_mostShown (Int.natCast_nonneg _)
  omega

/-- Schemas with versions that were declared after others: the versions are kept where nothing changed. -/
structure Revised (sources : List SchemaSource) (previous : Option Data) (olds news : List VersionedSchema)
    (changes : List Change) : Prop where
  /-- The schemas are the declared ones. -/
  forms : news.map VersionedSchema.form = sources.map SchemaSource.form
  /-- The changes are those of the declared schemas. -/
  compared : diffSchemas (orEmpty previous)
    (.object [("schema", .list ((sources.map SchemaSource.entry).map Entry.schemaData))]) = .ok changes
  /-- The versions are kept. -/
  kept : (olds.map VersionedSchema.address).Nodup → ∀ old ∈ olds, (old.form.fields.map FieldForm.name).Nodup →
    ∀ new ∈ news, new.address = old.address → VersionsKept changes old new

/-- The manifest of some declared schemas with their versions, as it is read back. -/
def versionedManifest (version : Nat) (pairs : List (SchemaSource × VersionedSchema)) : Data :=
  Json.reread layout (compose "schema" version (pairs.map fun pair => versionedRecord pair.1 pair.2))

theorem areKeys_schema : Json.AreKeys ["version", "schema"] := by decide +kernel

theorem get?_version_versionedManifest (version : Nat) (pairs : List (SchemaSource × VersionedSchema)) :
    (versionedManifest version pairs).get? "version" = some (.int version) :=
  get?_version_reread areKeys_schema version _

/-- Declared schemas with the versions that a plan gives them, given what was recorded before with versions up to a
bound. -/
structure VersionedPlan (bound : Nat) (previous : Option Data) (version : Nat) (changes : List Change)
    (oldSchemas : Table Data) (pairs : List (SchemaSource × VersionedSchema)) : Prop where
  /-- The changes are those of the declared schemas. -/
  compared : diffSchemas (orEmpty previous) (.object [("schema", .list
    (((pairs.map Prod.fst).map SchemaSource.entry).map Entry.schemaData))]) = .ok changes
  /-- The version follows that of the manifest before. -/
  isNext : nextVersion previous changes = .ok version
  /-- The schemas before are found by their full names. -/
  indexed : index (orEmpty previous) "schema" = .ok oldSchemas
  /-- The schemas say what is declared. -/
  forms : ∀ pair ∈ pairs, pair.2.form = pair.1.form
  /-- The versions are those that the changes leave. -/
  versioned : ∀ pair ∈ pairs,
    versionedSchema version changes oldSchemas pair.1.entry = .ok (versionedRecord pair.1 pair.2)
  /-- The versions are kept where nothing changed. -/
  kept : ∀ pair ∈ pairs, ∀ value ∈ oldSchemas.get? (.text pair.2.address), ∀ old, VersionedRecord bound value old →
    (old.form.fields.map FieldForm.name).Nodup → VersionsKept changes old pair.2

/-- The schemas of a manifest have their full names. -/
theorem VersionedRecord.addressed {bound : Nat} {value : Data} {schema : VersionedSchema}
    (record : VersionedRecord bound value schema) : value.get? "fqn" = some (.text schema.address) :=
  (VersionedSchema.of?_eq_some.mp record.shows).1

/-- What was recorded with versions is listed with what it says. -/
theorem Earlier.lists_forms {bound : Nat} {previous : Option Data} {olds : List VersionedSchema}
    (earlier : Earlier VersionedRecord "schema" bound previous olds) :
    Lists (fun value form => SchemaForm.of? value = some form) "schema" (orEmpty previous)
      (olds.map VersionedSchema.form) := by
  rcases earlier.entriesIn.lists with ⟨items, there, records⟩
  refine ⟨items, there, ?_⟩
  rw [List.forall₂_map_right_iff]
  exact records.imp fun _ _ record => record.schemaRecord.shows

/-- A plan for schemas gives them versions. -/
theorem exists_versionedPlan {bound : Nat} {allowBreaking : Bool} {sources : List SchemaSource}
    {previous : Option Data} {olds : List VersionedSchema} {version : Int} {items : List Data}
    (earlier : Earlier VersionedRecord "schema" bound previous olds)
    (planned : planSchemas allowBreaking (sources.map SchemaSource.entry) previous = .ok (version, items)) :
    ∃ (number : Nat) (changes : List Change) (oldSchemas : Table Data)
      (pairs : List (SchemaSource × VersionedSchema)), version = number ∧ pairs.map Prod.fst = sources ∧
        items = pairs.map (fun pair => versionedRecord pair.1 pair.2) ∧
        VersionedPlan bound previous number changes oldSchemas pairs := by
  rcases exists_versions planned with ⟨changes, oldSchemas, compared, isVersion, indexed, mapped⟩
  rcases exists_nextVersion earlier changes with ⟨number, isNumber, small⟩
  cases isVersion.symm.trans isNumber
  have recorded (address : String) (value : Data) (found : value ∈ oldSchemas.get? (.text address)) :
      ∃ old, VersionedRecord bound value old := by
    rcases exists_of_index VersionedSchema.address VersionedRecord.addressed earlier.entriesIn.lists indexed found with
      ⟨old, _, record⟩
    exact ⟨old, record⟩
  rcases exists_forall₂ fun source (_ : source ∈ sources) => exists_versioned small changes recorded source with
    ⟨news, all⟩
  rcases exists_pairs all with ⟨pairs, rfl, rfl, each⟩
  refine ⟨number, changes, oldSchemas, pairs, rfl, rfl, ?_, compared, isVersion, indexed,
    fun pair pairMem => (each pair pairMem).1, fun pair pairMem => (each pair pairMem).2.1,
    fun pair pairMem => (each pair pairMem).2.2⟩
  have ran : pairs.mapM (fun pair => versionedSchema number changes oldSchemas pair.1.entry) =
      pairs.mapM fun pair => pure (versionedRecord pair.1 pair.2) :=
    mapM_congr_left fun pair pairMem => (each pair pairMem).2.1
  rw [List.mapM_map, List.mapM_map] at mapped
  rw [List.mapM_pure] at ran
  exact Except.ok.inj (mapped.symm.trans ran)

namespace VersionedPlan

variable {bound version : Nat} {previous : Option Data} {olds : List VersionedSchema} {changes : List Change}
  {oldSchemas : Table Data} {pairs : List (SchemaSource × VersionedSchema)}
  (plan : VersionedPlan bound previous version changes oldSchemas pairs)
include plan

/-- The records of the schemas are read back with numbers up to a limit that none of them exceeds. -/
theorem records {limit : Nat} (small : ∀ pair ∈ pairs,
      pair.2.version ≤ limit ∧ ∀ field ∈ pair.2.fields, field.2 ≤ limit) :
    List.Forall₂ (fun item new => VersionedRecord limit (Json.reread layout item) new)
      (pairs.map fun pair => versionedRecord pair.1 pair.2) ((pairs.map Prod.snd).map VersionedSchema.joined) := by
  rw [List.map_map, List.forall₂_map_left_iff, List.forall₂_map_right_iff]
  refine List.forall₂_same.mpr fun pair pairMem => ?_
  exact reread_versionedRecord (plan.forms pair pairMem) (small pair pairMem).1 (small pair pairMem).2

/-- The text of the manifest has the schemas with their versions. -/
theorem isTextOf {text : String}
    (isText : Json.write layout (compose "schema" version (pairs.map fun pair => versionedRecord pair.1 pair.2)) =
      .ok text) :
    IsTextOf VersionedRecord "schema" (text ++ "\n") (versionedManifest version pairs)
      ((pairs.map Prod.snd).map VersionedSchema.joined) := by
  have hasText := Json.hasText_of_write isText
  have small (pair : SchemaSource × VersionedSchema) (pairMem : pair ∈ pairs) :=
    small_of_versionedRecord (hasText_item hasText (List.mem_map_of_mem pairMem))
  have versionSmall := (hasText_version hasText).le_mostShown (Int.natCast_nonneg version)
  have trees : ∀ item ∈ pairs.map fun pair => versionedRecord pair.1 pair.2, Json.IsTree 3 item := by
    rw [List.forall_mem_map]
    exact fun pair pairMem =>
      isTree_versionedRecord (plan.forms pair pairMem) (small pair pairMem).1 (small pair pairMem).2
  exact isTextOf_reread areKeys_schema (by omega) trees (plan.records small) isText

/-- The versions are kept where nothing changed. -/
theorem revised (earlier : Earlier VersionedRecord "schema" bound previous olds) :
    Revised (pairs.map Prod.fst) previous olds (pairs.map Prod.snd) changes := by
  refine ⟨?_, plan.compared, ?_⟩
  · rw [List.map_map, List.map_map]
    exact List.map_congr_left plan.forms
  · intro distinct old oldMem fieldsDistinct new newMem same
    rcases List.mem_map.mp newMem with ⟨pair, pairMem, rfl⟩
    rcases index_of_lists VersionedSchema.address VersionedRecord.addressed earlier.entriesIn.lists distinct with
      ⟨entries, rfl, related, isIndex⟩
    have isKept := plan.kept pair pairMem
    cases plan.indexed.symm.trans isIndex
    rcases List.mem_map.mp oldMem with ⟨entry, entryMem, rfl⟩
    refine isKept entry.1 ?_ entry.2 (related entry entryMem) fieldsDistinct
    rw [Option.mem_def, Table.get?_textual, same]
    refine Table.lookup_of_mem ?_ (List.mem_map.mpr ⟨entry, entryMem, rfl⟩)
    rw [keys_byAddress]
    rwa [List.map_map] at distinct

end VersionedPlan

/-- A written manifest of schemas has their versions, which are kept where nothing changed. -/
theorem exists_compiledSchemas {allowBreaking : Bool} {sources : List SchemaSource} {previous : Option Data}
    {olds : List VersionedSchema} {version : Int} {items : List Data} {text : String}
    (earlier : Earlier VersionedRecord "schema" Text.mostShown previous olds)
    (planned : planSchemas allowBreaking (sources.map SchemaSource.entry) previous = .ok (version, items))
    (isText : Json.write layout (compose "schema" version items) = .ok text) :
    ∃ manifest changes news,
      IsTextOf VersionedRecord "schema" (text ++ "\n") manifest (news.map VersionedSchema.joined) ∧
      Revised sources previous olds news changes := by
  rcases exists_versionedPlan earlier planned with ⟨number, changes, _, pairs, rfl, rfl, rfl, plan⟩
  exact ⟨_, changes, _, plan.isTextOf isText, plan.revised earlier⟩

/-- Schemas that say what they said keep their versions, and so do fields, where no name has the mark. -/
theorem Revised.versions_eq {sources : List SchemaSource} {previous : Option Data} {olds news : List VersionedSchema}
    {changes : List Change} (revised : Revised sources previous olds news changes)
    (earlier : Earlier VersionedRecord "schema" Text.mostShown previous olds)
    (oldDistinct : (olds.map VersionedSchema.address).Nodup)
    (newDistinct : (sources.map fun source => source.form.address).Nodup)
    (oldFields : ∀ old ∈ olds, (old.form.fields.map FieldForm.name).Nodup)
    (newFields : ∀ source ∈ sources, (source.fields.map FieldForm.name).Nodup)
    (bare : ∀ schema ∈ olds ++ news, ¬IsMarked schema.address) {old new : VersionedSchema} (oldMem : old ∈ olds)
    (newMem : new ∈ news) (same : new.address = old.address) :
    (new.form = old.form → new.version = old.version) ∧
    ((∀ field ∈ old.form.fields ++ new.form.fields, ¬IsMarked field.name) →
      ∀ earlier ∈ old.fields, ∀ field ∈ new.fields, field.1 = earlier.1 → field.2 = earlier.2) := by
  have oldAddresses : ((olds.map VersionedSchema.form).map SchemaForm.address).Nodup := by
    rw [List.map_map]
    exact oldDistinct
  have newAddresses : ((sources.map SchemaSource.form).map SchemaForm.address).Nodup := by
    rw [List.map_map]
    exact newDistinct
  have among (change : Change) (changeMem : change ∈ changes) :
      ChangeAmong (olds.map VersionedSchema.form) (news.map VersionedSchema.form) change := by
    rw [revised.forms]
    exact mem_diffSchemas earlier.lists_forms (lists_object _ (SchemaSource.forall₂_schemaData _)) oldAddresses
      newAddresses (List.forall_mem_map.mpr oldFields) (List.forall_mem_map.mpr newFields) revised.compared changeMem
  have bareForms : ∀ schema ∈ olds.map VersionedSchema.form ++ news.map VersionedSchema.form,
      ¬IsMarked schema.address := by
    rw [← List.map_append, List.forall_mem_map]
    exact bare
  rw [← revised.forms] at newAddresses
  have inOld := List.mem_map_of_mem (f := VersionedSchema.form) oldMem
  have inNew := List.mem_map_of_mem (f := VersionedSchema.form) newMem
  have kept := revised.kept oldDistinct old oldMem (oldFields old oldMem) new newMem same
  refine ⟨fun sameForm => kept.schema ?_, fun fieldsBare earlier' earlierMem field fieldMem sameField => ?_⟩
  · rw [same]
    exact isTouched_schema among bareForms oldAddresses newAddresses inOld inNew same
      (congrArg SchemaForm.compact sameForm) (congrArg SchemaForm.fields sameForm)
  · refine kept.fields earlier' earlierMem field fieldMem (congrArg FieldForm.name sameField) ?_
    rw [same]
    refine isTouched_field among bareForms oldAddresses newAddresses inOld inNew same ?_ ?_ fieldsBare
    · exact sameField ▸ List.mem_map_of_mem earlierMem
    · exact List.mem_map_of_mem fieldMem

end Manifest

theorem StageRequest.IsPlain.exists_sources {roots : Roots} {request : StageRequest} (plain : request.IsPlain roots)
    (isSchema : request.stage = .schema) :
    ∃ groups root, ∃ sources : List SchemaSource, request = .schema groups root ∧
      groups.entries = sources.map SchemaSource.entry := by
  cases plain with
  | schema sources entries => exact ⟨_, _, sources, rfl, entries⟩
  | storage => cases isSchema
  | dispatch => cases isSchema

namespace Compile

open Manifest (Earlier Recorded Revised VersionedPlan loaded versionedManifest)

/-- The schemas with their versions in the manifest that a compile leaves. -/
def schemas? (compile : Compile) : Option (List VersionedSchema) :=
  match loaded compile.after compile.request.file with
  | .ok (some manifest) => manifest.read? "schema" (Data.listOf? VersionedSchema.of?)
  | _ => none

theorem schemas?_of_recorded {compile : Compile} {manifest : Data} {bound : Nat} {schemas : List VersionedSchema}
    (isLoaded : loaded compile.after compile.request.file = .ok (some manifest))
    (recorded : Recorded VersionedRecord "schema" bound manifest schemas) : compile.schemas? = some schemas := by
  rcases recorded.records with ⟨items, there, records⟩
  unfold schemas?
  rw [isLoaded]
  exact read?_listOf.mpr ⟨items, there, records.imp fun _ _ record => record.shows⟩

/-- A compile of schemas gives them versions, and leaves a manifest with these. -/
theorem exists_versionedPlan (compile : Compile) {groups : Grouped SchemaSpec} {root : Path}
    {sources : List SchemaSource} (isRequest : compile.request = .schema groups root)
    (entries : groups.entries = sources.map SchemaSource.entry) {bound : Nat} {previous : Option Data}
    {olds : List VersionedSchema} (found : loaded compile.before compile.request.file = .ok previous)
    (earlier : Earlier VersionedRecord "schema" bound previous olds) :
    ∃ version changes oldSchemas pairs, pairs.map Prod.fst = sources ∧
      VersionedPlan bound previous version changes oldSchemas pairs ∧
      loaded compile.after compile.request.file = .ok (some (versionedManifest version pairs)) ∧
      Recorded VersionedRecord "schema" Text.mostShown (versionedManifest version pairs)
        ((pairs.map Prod.snd).map VersionedSchema.joined) := by
  rcases compile with ⟨request, allowBreaking, before, after, succeeds⟩
  subst isRequest
  rcases StageRequest.exists_written succeeds with ⟨_, _, text, opened, planned, isText, isWritten⟩
  rcases bind_eq_ok.mp planned with ⟨loadedBefore, isLoaded, planned⟩
  cases isLoaded.symm.trans found
  rw [entries] at planned
  rcases Manifest.exists_versionedPlan earlier planned with
    ⟨version, changes, oldSchemas, pairs, rfl, areSources, rfl, plan⟩
  have isTextOf := plan.isTextOf isText
  exact ⟨version, changes, oldSchemas, pairs, areSources, plan, isTextOf.loaded_of_write isWritten,
    isTextOf.recorded⟩

/-- A compile of schemas leaves a manifest with their versions. -/
theorem exists_revised (compile : Compile) {groups : Grouped SchemaSpec} {root : Path}
    {sources : List SchemaSource} (isRequest : compile.request = .schema groups root)
    (entries : groups.entries = sources.map SchemaSource.entry) {previous : Option Data}
    {olds : List VersionedSchema} (found : loaded compile.before compile.request.file = .ok previous)
    (earlier : Earlier VersionedRecord "schema" Text.mostShown previous olds) :
    ∃ manifest changes news, loaded compile.after compile.request.file = .ok (some manifest) ∧
      Recorded VersionedRecord "schema" Text.mostShown manifest (news.map VersionedSchema.joined) ∧
      Revised sources previous olds news changes := by
  rcases compile.exists_versionedPlan isRequest entries found earlier with
    ⟨_, changes, _, pairs, rfl, plan, isLoaded, recorded⟩
  exact ⟨_, changes, _, isLoaded, recorded, plan.revised earlier⟩

end Compile

namespace Series

open Manifest (Earlier Recorded loaded)

variable {path : Path}

/-- The last compile of a series leaves a manifest with versions. -/
theorem exists_recorded {compile : Compile} {compiles : List Compile}
    (series : Series .schema path (compile :: compiles))
    (plain : ∀ compile' ∈ compile :: compiles, ∃ roots, compile'.request.IsPlain roots) :
    ∃ manifest schemas, loaded compile.after path = .ok (some manifest) ∧
      Recorded VersionedRecord "schema" Text.mostShown manifest schemas := by
  let Holds (previous : Option Data) : Prop := ∃ schemas, Earlier VersionedRecord "schema" Text.mostShown previous schemas
  rcases series.exists_left Holds ⟨[], rfl⟩ fun next nextMem isStage previous found ⟨olds, earlier⟩ => by
    rcases plain next nextMem with ⟨roots, isPlain⟩
    rcases isPlain.exists_sources isStage with ⟨groups, root, sources, isRequest, entries⟩
    rcases next.exists_revised isRequest entries found earlier with ⟨manifest, _, _, isLoaded, recorded, _⟩
    exact ⟨manifest, isLoaded, _, recorded⟩ with ⟨manifest, isLoaded, schemas, recorded⟩
  exact ⟨manifest, schemas, isLoaded, recorded⟩

/-- In a series of compiles of schemas, whatever breaking changes they allow, the last compile keeps the version
of each schema that says what it said, and of each field that says what it said, as long as no full name and no
field name has the mark of a path. -/
theorem versions_kept {next last : Compile} {rest : List Compile}
    (series : Series .schema path (next :: last :: rest))
    (plain : ∀ compile ∈ last :: rest, ∃ roots, compile.request.IsPlain roots) {groups : Grouped SchemaSpec}
    {root : Path} {sources : List SchemaSource} (isRequest : next.request = .schema groups root)
    (entries : groups.entries = sources.map SchemaSource.entry)
    (distinct : (sources.map fun source => source.form.address).Nodup)
    (fieldsDistinct : ∀ source ∈ sources, (source.fields.map FieldForm.name).Nodup) :
    ∃ olds news, last.schemas? = some olds ∧ next.schemas? = some (news.map VersionedSchema.joined) ∧
      news.map VersionedSchema.form = sources.map SchemaSource.form ∧
      ((olds.map VersionedSchema.address).Nodup →
        (∀ old ∈ olds, (old.form.fields.map FieldForm.name).Nodup) →
        (∀ schema ∈ olds ++ news, ¬IsMarked schema.address) →
        ∀ old ∈ olds, ∀ new ∈ news, new.address = old.address →
          (new.form = old.form → new.version = old.version) ∧
          ((∀ field ∈ old.form.fields ++ new.form.fields, ¬IsMarked field.name) →
            ∀ earlier ∈ old.fields, ∀ field ∈ new.fields, field.1 = earlier.1 → field.2 = earlier.2)) := by
  cases series with
  | next _ series _ isPath same =>
      rcases series.exists_recorded plain with ⟨previous, olds, isFound, earlier⟩
      have lastPath := series.isAt.2
      subst isPath
      rcases next.exists_revised isRequest entries (same.trans isFound) earlier with
        ⟨manifest, changes, news, isLoaded, recorded, revised⟩
      refine ⟨olds, news, Compile.schemas?_of_recorded (lastPath.symm ▸ isFound) earlier,
        Compile.schemas?_of_recorded isLoaded recorded, revised.forms, ?_⟩
      intro oldDistinct oldFields bare old oldMem new newMem sameAddress
      exact revised.versions_eq earlier oldDistinct distinct oldFields fieldsDistinct bare oldMem newMem
        sameAddress

end Series

theorem Compile.schemas?_of_heldBy {compile : Compile} {manifests : Manifests} {schemas : List VersionedSchema}
    (held : manifests.HeldBy compile.after) (isPlain : compile.request.IsPlain specRoots)
    (areSchemas : (manifests.ofStage compile.request.stage).bind (fun manifest =>
      manifest.read? "schema" (Data.listOf? VersionedSchema.of?)) = some schemas) :
    compile.schemas? = some schemas := by
  rcases Option.bind_eq_some_iff.mp areSchemas with ⟨manifest, isManifest, isRead⟩
  unfold schemas?
  rw [Manifests.file_of_isPlain isPlain, held.loaded_eq, isManifest]
  exact isRead

/-- Schemas of the same fields. -/
def letterSources (names : List String) : List SchemaSource :=
  names.map fun name => ⟨"default", name, false, [⟨"id", "uint", true⟩]⟩

/-- The groups of these schemas. -/
def letterGroups (names : List String) : Grouped SchemaSpec :=
  [(.text "default", (letterSources names).map fun source => source.entry.spec)]

/-- A request to write these schemas. -/
def letterRequest (names : List String) : StageRequest := .schema (letterGroups names) specRoots.schema

theorem entries_letterGroups (names : List String) :
    (letterGroups names).entries = (letterSources names).map SchemaSource.entry := by
  simp [letterGroups, letterSources, Grouped.entries, Function.comp_def, SchemaSource.entry]

theorem fieldsDistinct_letterSources (names : List String) :
    ∀ source ∈ letterSources names, (source.fields.map FieldForm.name).Nodup :=
  List.forall_mem_map.mpr fun _ _ => List.nodup_singleton _

theorem isPlain_letterRequest (names : List String) : (letterRequest names).IsPlain specRoots :=
  .schema (letterSources names) (entries_letterGroups names) (fieldsDistinct_letterSources names)

/-- A versioned schema with the field. -/
def letterSchema (name : String) (version fieldVersion : Nat) : VersionedSchema :=
  ⟨Name.format ⟨"default", name⟩, false, [(⟨"id", "uint", true⟩, fieldVersion)], version⟩

/-- A compile of the schema `a` and another one that adds a schema. -/
theorem exists_letter_compiles (name : String) (schemas : List VersionedSchema)
    (done : ((letterRequest ["a", name]).runOn? false ((letterRequest ["a"]).nextOn false .empty)).map Prod.fst =
      some true)
    (areSchemas : ((letterRequest ["a", name]).nextOn false ((letterRequest ["a"]).nextOn false .empty)).schema.bind
      (fun manifest => manifest.read? "schema" (Data.listOf? VersionedSchema.of?)) = some schemas) :
    ∃ first second : Compile, first.request = letterRequest ["a"] ∧ second.request = letterRequest ["a", name] ∧
      Series .schema (specRoots.file .schema) [second, first] ∧
      first.schemas? = some [letterSchema "a" 1 1] ∧ second.schemas? = some schemas := by
  rcases exists_compiles (isPlain_letterRequest ["a"]) (isPlain_letterRequest ["a", name]) rfl (by decide +kernel) done
    with ⟨first, second, isFirst, isSecond, series, heldFirst, heldSecond⟩
  refine ⟨first, second, isFirst, isSecond, series, ?_, ?_⟩
  · refine Compile.schemas?_of_heldBy heldFirst (isFirst ▸ isPlain_letterRequest _) ?_
    rw [isFirst]
    decide +kernel
  · refine Compile.schemas?_of_heldBy heldSecond (isSecond ▸ isPlain_letterRequest _) ?_
    rw [isSecond]
    exact areSchemas

namespace Series

theorem versions_kept_letter :
    ∃ first second : Compile, ∃ news : List VersionedSchema,
      Series .schema (specRoots.file .schema) [second, first] ∧
      first.schemas? = some [letterSchema "a" 1 1] ∧ second.schemas? = some (news.map VersionedSchema.joined) ∧
      news.map VersionedSchema.form = (letterSources ["a", "b"]).map SchemaSource.form ∧
      ∀ new ∈ news, new.address = "@default/a" → new.version = 1 ∧ ∀ field ∈ new.fields, field.2 = 1 := by
  rcases exists_letter_compiles "b" [letterSchema "a" 1 1, letterSchema "b" 2 2] (by decide +kernel)
    (by decide +kernel) with ⟨first, second, isFirst, isSecond, series, firstSchemas, _⟩
  rcases series.versions_kept (by simpa using ⟨specRoots, isFirst ▸ isPlain_letterRequest ["a"]⟩) isSecond
    (entries_letterGroups _) (by decide +kernel) (fieldsDistinct_letterSources _) with
    ⟨olds, news, areOlds, areNews, forms, kept⟩
  refine ⟨first, second, news, series, firstSchemas, areNews, forms, fun new newMem isA => ?_⟩
  cases firstSchemas.symm.trans areOlds
  have declared (fine : SchemaForm → Prop) (all : ∀ form ∈ (letterSources ["a", "b"]).map SchemaSource.form, fine form)
      {new : VersionedSchema} (newMem : new ∈ news) : fine new.form :=
    all new.form (forms ▸ List.mem_map_of_mem newMem)
  have bare : ∀ schema ∈ [letterSchema "a" 1 1] ++ news, ¬IsMarked schema.address := by
    rw [List.forall_mem_append]
    exact ⟨by decide +kernel, fun new newMem =>
      declared (fun form => ¬IsMarked form.address) (by decide +kernel) newMem⟩
  have sameForm : new.form = (letterSchema "a" 1 1).form :=
    declared (fun form => form.address = "@default/a" → form = (letterSchema "a" 1 1).form)
      (by decide +kernel) newMem isA
  have versions := kept (by decide +kernel) (by decide +kernel) bare _ List.mem_cons_self new newMem isA
  refine ⟨versions.1 sameForm, fun field fieldMem => ?_⟩
  refine versions.2 (by rw [sameForm]; decide +kernel) _ List.mem_cons_self field fieldMem ?_
  have inForm : field.1 ∈ new.form.fields := List.mem_map_of_mem fieldMem
  rw [sameForm] at inForm
  exact List.mem_singleton.mp inForm

/-- A schema gets a new version because of a new schema whose full name goes on with the mark of a path. -/
theorem version_changed_marked :
    ∃ first second : Compile, Series .schema (specRoots.file .schema) [second, first] ∧
      first.request = letterRequest ["a"] ∧ second.request = letterRequest ["a", "a.field:x"] ∧
      first.schemas? = some [letterSchema "a" 1 1] ∧
      second.schemas? = some [letterSchema "a" 2 1, letterSchema "a.field:x" 2 2] := by
  rcases exists_letter_compiles "a.field:x" [letterSchema "a" 2 1, letterSchema "a.field:x" 2 2] (by decide +kernel)
    (by decide +kernel) with
    ⟨first, second, isFirst, isSecond, series, firstSchemas, secondSchemas⟩
  exact ⟨first, second, series, isFirst, isSecond, firstSchemas, secondSchemas⟩

end Series

end SpecGraph
