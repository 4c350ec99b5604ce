import SpecGraph.Proofs.Manifest.Changed
import SpecGraph.Proofs.Manifest.Versions

/-!
# New versions

A schema that is new or different has the version of the manifest that is written, and so has a field that is new in its
schema or different. Since a change is found then, this version is greater than that of the manifest before. No version
of a schema or of a field is ever beyond that of its manifest: this holds where there is no manifest, and every compile
of schemas keeps it, because a version is the new one or one of the manifest before.
-/

namespace SpecGraph

namespace VersionedSchema

/-- The last field of a name, which is the one that counts. -/
def field? (schema : VersionedSchema) (name : String) : Option (FieldForm × Nat) :=
  Table.lastOf? (fun field : FieldForm × Nat => field.1.name) schema.fields name

theorem lastOf?_form_fields (schema : VersionedSchema) (name : String) :
    Table.lastOf? FieldForm.name schema.form.fields name = (schema.field? name).map Prod.fst :=
  Table.lastOf?_map FieldForm.name Prod.fst schema.fields name

theorem lastOf?_map_form (schemas : List VersionedSchema) (address : String) :
    Table.lastOf? SchemaForm.address (schemas.map form) address =
      (Table.lastOf? VersionedSchema.address schemas address).map form :=
  Table.lastOf?_map SchemaForm.address form schemas address

/-- How a schema follows those of the manifest before, given the versions of both manifests. -/
structure IsRenewed (olds : List VersionedSchema) (before version : Nat) (new : VersionedSchema) : Prop where
  /-- A schema that the manifest before does not have as it is has the new version, which is greater. -/
  schema : (Table.lastOf? address olds new.address).map form ≠ some new.form → new.version = version ∧ before < version
  /-- A field that the schema before does not have as it is has the new version, which is greater. -/
  fields : ∀ field ∈ new.fields,
    ((Table.lastOf? address olds new.address).bind fun old => old.field? field.1.name).map Prod.fst ≠ some field.1 →
      field.2 = version ∧ before < version
  small : new.version ≤ version
  fieldsSmall : ∀ field ∈ new.fields, field.2 ≤ version

end VersionedSchema

namespace Manifest

open VersionedSchema (IsRenewed)

/-- What a compile of schemas finds: no manifest, which counts as one of version zero, or a manifest with a version that
no version in it exceeds. -/
inductive Bounded : Option Data → Nat → List VersionedSchema → Prop
  | absent : Bounded none 0 []
  | present {manifest : Data} {version : Nat} {schemas : List VersionedSchema}
      (isVersion : manifest.get? "version" = some (.int version))
      (recorded : Recorded VersionedRecord "schema" version manifest schemas) : Bounded (some manifest) version schemas

namespace Bounded

variable {previous : Option Data} {before : Nat} {olds : List VersionedSchema}

theorem earlier (bounded : Bounded previous before olds) :
    Earlier VersionedRecord "schema" before previous olds := by
  cases bounded with
  | absent => exact (rfl : [] = [])
  | present _ recorded => exact recorded

theorem isVersion {manifest : Data} (bounded : Bounded (some manifest) before olds) :
    manifest.get? "version" = some (.int before) := by
  cases bounded with
  | present isVersion _ => exact isVersion

theorem le_and_lt (bounded : Bounded previous before olds) {changes : List Change} {version : Nat}
    (isNext : nextVersion previous changes = .ok version) :
    before ≤ version ∧ (changes ≠ [] → before < version) := by
  cases bounded with
  | absent =>
      have same : (1 : Int) = version := Except.ok.inj isNext
      omega
  | present isVersion =>
      rw [nextVersion_of_version isVersion, Except.ok.injEq] at isNext
      cases changes with
      | nil =>
          have same : (before : Int) = version := isNext
          exact ⟨by omega, fun some_ => absurd rfl some_⟩
      | cons =>
          have oneMore : (before : Int) + 1 = version := isNext
          omega

end Bounded

theorem keptVersion_of_versionedField {version : Int} {changes : List Change} {path : String} {oldFields : Table Data}
    {field : FieldForm} {kept : Nat}
    (versioned : versionedField version changes path oldFields field.toSpec = .ok (field.record kept)) :
    keptVersion version changes (fieldPath path (.text field.name)) (oldFields.get? (.text field.name)) =
      .ok (.int kept) := by
  rw [versionedField_toSpec] at versioned
  rcases bind_eq_ok.mp versioned with ⟨found, isFound, isRecord⟩
  have sameVersion := congrArg (fun value : Data => value.get? "version") (Except.ok.inj isRecord)
  have isKept : found = .int kept := by
    simpa [FieldForm.record, FieldSpec.members, List.lookup_cons] using sameVersion
  rw [isFound, isKept]

/-- The versions of an entry, by what was found of the schema and of its fields before. -/
theorem versions_of_versionedSchema {version : Int} {changes : List Change} {oldSchemas : Table Data}
    {source : SchemaSource} {new : VersionedSchema} (same : new.form = source.form)
    (versioned : versionedSchema version changes oldSchemas source.entry = .ok (versionedRecord source new)) :
    ∃ oldFields, earlierFields (oldSchemas.get? (.text new.address)) = .ok oldFields ∧
      keptVersion version changes ("Schema:" ++ new.address) (oldSchemas.get? (.text new.address)) =
        .ok (.int new.version) ∧
      ∀ field ∈ new.fields, keptVersion version changes (fieldPath ("Schema:" ++ new.address) (.text field.1.name))
        (oldFields.get? (.text field.1.name)) = .ok (.int field.2) := by
  have address : addressOf source.entry.space source.entry.spec.name = new.address :=
    (congrArg SchemaForm.address same).symm
  have specs : source.entry.spec.fields = new.fields.map fun field => field.1.toSpec := by
    have fields : new.fields.map Prod.fst = source.fields := congrArg SchemaForm.fields same
    change source.fields.map FieldForm.toSpec = _
    rw [← fields, List.map_map]
    rfl
  rw [versionedSchema_eq] at versioned
  dsimp only at versioned
  rw [address, specs] at versioned
  rcases bind_eq_ok.mp versioned with ⟨oldFields, areFields, versioned⟩
  rcases bind_eq_ok.mp versioned with ⟨own, isOwn, versioned⟩
  rcases bind_eq_ok.mp versioned with ⟨values, areValues, isRecord⟩
  have isRecord := Except.ok.inj isRecord
  have member (name : String) := congrArg (fun value : Data => value.get? name) isRecord
  have sameOwn : own = .int new.version := by
    simpa [versionedRecord, SchemaSource.record, schemaMembers, placeMembers, List.lookup_cons] using member "version"
  have sameValues : values = new.fields.map fun field => field.1.record field.2 := by
    simpa [versionedRecord, SchemaSource.record, schemaMembers, placeMembers, List.lookup_cons] using member "fields"
  subst sameOwn sameValues
  refine ⟨oldFields, areFields, isOwn, fun field fieldMem => ?_⟩
  rw [List.mapM_map] at areValues
  have each := Json.forall₂_of_mapM_ok areValues
  rw [List.forall₂_map_right_iff, List.forall₂_same] at each
  exact keptVersion_of_versionedField (each field fieldMem)

theorem version_eq_of_ok {found : Except Fault Data} {first second : Nat} (isFirst : found = .ok (.int first))
    (isSecond : found = .ok (.int second)) : first = second := by
  cases isFirst.symm.trans isSecond
  rfl

namespace VersionedPlan

variable {before version : Nat} {previous : Option Data} {olds : List VersionedSchema} {changes : List Change}
  {oldSchemas : Table Data} {pairs : List (SchemaSource × VersionedSchema)}
  (plan : VersionedPlan before previous version changes oldSchemas pairs) (bounded : Bounded previous before olds)
include plan bounded

theorem small : ∀ pair ∈ pairs, pair.2.version ≤ version ∧ ∀ field ∈ pair.2.fields, field.2 ≤ version := by
  intro pair pairMem
  have less := (bounded.le_and_lt plan.isNext).1
  have recorded : ∀ old ∈ oldSchemas.get? (.text pair.2.address), ∃ form, SchemaRecord before old form := by
    intro old found
    rcases exists_of_index VersionedSchema.address VersionedRecord.addressed bounded.earlier.entriesIn.lists
      plan.indexed found with ⟨schema, _, record⟩
    exact ⟨_, record.schemaRecord⟩
  rcases versions_of_versionedSchema (plan.forms pair pairMem) (plan.versioned pair pairMem) with
    ⟨oldFields, areFields, isOwn, areKept⟩
  rcases exists_earlierFields recorded with ⟨_, areFound, numbered⟩
  cases areFields.symm.trans areFound
  refine ⟨le_of_keptVersion less (fun old found => ?_) isOwn, fun field fieldMem => ?_⟩
  · rcases recorded old found with ⟨_, record⟩
    exact record.version
  · exact le_of_keptVersion less (numbered field.1.name) (areKept field fieldMem)

/-- The manifest that is written is one that the next compile may find. -/
theorem bounded_next :
    Bounded (some (versionedManifest version pairs)) version ((pairs.map Prod.snd).map VersionedSchema.joined) :=
  .present (get?_version_versionedManifest version pairs)
    (recorded_reread areKeys_schema (Nat.le_refl version) (plan.records (plan.small bounded)))

theorem get?_eq_none {address : String} (unknown : Table.lastOf? VersionedSchema.address olds address = none) :
    oldSchemas.get? (.text address) = none := by
  rcases exists_index VersionedSchema.address VersionedRecord.addressed bounded.earlier.entriesIn.lists with
    ⟨entries, rfl, _, isIndex⟩
  cases plan.indexed.symm.trans isIndex
  rw [Table.lastOf?_map, Option.map_eq_none_iff] at unknown
  rw [get?_byAddress, unknown]
  rfl

/-- What the manifest before does not have as it is has the new version, and this version is greater. -/
theorem isRenewed (distinct : ((pairs.map Prod.fst).map fun source => source.form.address).Nodup)
    (fieldsDistinct : ∀ source ∈ pairs.map Prod.fst, (source.fields.map FieldForm.name).Nodup) :
    ∀ pair ∈ pairs, IsRenewed olds before version pair.2 := by
  intro pair pairMem
  have same := plan.forms pair pairMem
  have sourceMem : pair.1 ∈ pairs.map Prod.fst := List.mem_map_of_mem pairMem
  have newLists := lists_object "schema" (SchemaSource.forall₂_schemaData (pairs.map Prod.fst))
  have newDistinct : (((pairs.map Prod.fst).map SchemaSource.form).map SchemaForm.address).Nodup := by
    rwa [List.map_map]
  have newMem : pair.2.form ∈ (pairs.map Prod.fst).map SchemaSource.form := same ▸ List.mem_map_of_mem sourceMem
  have newFields : (pair.2.form.fields.map FieldForm.name).Nodup := same ▸ fieldsDistinct pair.1 sourceMem
  have grows {path : String} (touched : isTouched changes path = true) : before < version := by
    refine (bounded.le_and_lt plan.isNext).2 ?_
    rintro rfl
    cases touched
  rcases versions_of_versionedSchema same (plan.versioned pair pairMem) with ⟨oldFields, areFields, isOwn, areKept⟩
  have schema : (Table.lastOf? VersionedSchema.address olds pair.2.address).map VersionedSchema.form ≠
      some pair.2.form → pair.2.version = version ∧ before < version := by
    intro different
    rw [← VersionedSchema.lastOf?_map_form] at different
    have touched := isTouched_of_new bounded.earlier.lists_forms newLists newDistinct plan.compared newMem newFields
      different
    exact ⟨version_eq_of_ok isOwn (keptVersion_of_touched version touched _), grows touched⟩
  have small := plan.small bounded pair pairMem
  -- the versions of fields are compared with those of the schema before, if there is one
  refine ⟨schema, fun field fieldMem different => ?_, small.1, small.2⟩
  cases isOld : Table.lastOf? VersionedSchema.address olds pair.2.address with
  | none =>
      -- nothing is at the path of a field of a new schema, but no field was there before
      rw [plan.get?_eq_none bounded isOld] at areFields
      cases areFields
      exact ⟨version_eq_of_ok (areKept field fieldMem) rfl, (schema (by rw [isOld]; nofun)).2⟩
  | some old =>
      rw [isOld, Option.bind_some, ← VersionedSchema.lastOf?_form_fields] at different
      have known : Table.lastOf? SchemaForm.address (olds.map VersionedSchema.form) pair.2.form.address =
          some old.form := by
        rw [VersionedSchema.lastOf?_map_form]
        exact congrArg _ isOld
      have touched := isTouched_of_newField bounded.earlier.lists_forms newLists newDistinct plan.compared newMem
        newFields known (List.mem_map_of_mem fieldMem) different
      exact ⟨version_eq_of_ok (areKept field fieldMem) (keptVersion_of_touched version touched _), grows touched⟩

end VersionedPlan

end Manifest

namespace Series

open Manifest (Bounded loaded)

/-- The last compile of a series of compiles of schemas leaves a manifest with a version that no version in it
exceeds. -/
theorem exists_bounded {path : Path} {compile : Compile} {compiles : List Compile}
    (series : Series .schema path (compile :: compiles))
    (plain : ∀ compile' ∈ compile :: compiles, ∃ roots, compile'.request.IsPlain roots) :
    ∃ manifest version schemas, loaded compile.after path = .ok (some manifest) ∧
      Bounded (some manifest) version schemas := by
  let Holds (previous : Option Data) : Prop := ∃ version schemas, Bounded previous version schemas
  rcases series.exists_left Holds ⟨0, [], .absent⟩ fun next nextMem isStage previous found ⟨before, olds, bounded⟩ => by
    rcases plain next nextMem with ⟨roots, isPlain⟩
    rcases isPlain.exists_sources isStage with ⟨groups, root, sources, isRequest, entries⟩
    rcases next.exists_versionedPlan isRequest entries found bounded.earlier with
      ⟨version, _, _, pairs, _, plan, isLoaded, _⟩
    exact ⟨_, isLoaded, version, _, plan.bounded_next bounded⟩ with ⟨manifest, isLoaded, version, schemas, bounded⟩
  exact ⟨manifest, version, schemas, isLoaded, bounded⟩

end Series

end SpecGraph
