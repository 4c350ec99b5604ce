import SpecGraph.Proofs.Manifest.Carried
import SpecGraph.Proofs.Manifest.Numbers

/-!
# What a manifest hands on

A stage takes versions and ids from the manifest that it finds, whatever is there: a version that is kept may be any
value that JSON has a form for, and the ids may be fractions. All of these were read from the text of a file, and the
others are new numbers. So whatever was found, the entries of a plan consist of what was declared and of values that
are read back as they were written.
-/

namespace SpecGraph

namespace Manifest

open Json (IsValue IsCarried HoldsValues mostLevels)

/-- What is loaded of a manifest whose text is one of a file. -/
theorem isValue_loaded {files : Files} {path : Path} {manifest : Data}
    (plain : ∀ text, files.find? path = some (.file text) → Text.IsPlain text.toList)
    (isLoaded : loaded files path = .ok (some manifest)) : IsValue mostLevels manifest := by
  unfold loaded at isLoaded
  split at isLoaded
  · cases isLoaded
  · split at isLoaded
    · split at isLoaded
      · cases isLoaded
      · next text isText =>
          unfold Files.read? at isText
          split at isText
          · next original there =>
              cases isText
              split at isLoaded
              · cases isLoaded
              · cases isLoaded
              · next found isRead =>
                  cases isLoaded
                  exact Json.isValue_read (Text.isPlain_readText (plain original there)) isRead
          · cases isText
    · cases isLoaded

section Carried

variable {levels : Nat} {previous : Option Data} (wasRead : ∀ manifest ∈ previous, IsValue (levels + 3) manifest)

include wasRead in
theorem isValue_orEmpty : IsValue (levels + 3) (orEmpty previous) := by
  have ofEmpty : IsValue (levels + 3) (.object []) :=
    .object (List.forall_mem_nil _) (List.forall_mem_nil _) List.nodup_nil
  unfold orEmpty
  split
  · next manifest =>
      split
      · exact wasRead manifest rfl
      · exact ofEmpty
  · exact ofEmpty

include wasRead in
/-- The members of the earlier entries were read. -/
theorem holds_index {section_ : String} {table : Table Data} (indexed : index (orEmpty previous) section_ = .ok table) :
    table.Holds (HoldsValues levels) := by
  unfold index at indexed
  rcases bind_eq_ok.mp indexed with ⟨sectionValue, isSection, indexed⟩
  rcases bind_eq_ok.mp indexed with ⟨entries, areEntries, keyed⟩
  have isValue := (isValue_orEmpty wasRead).memberOr (.list (List.forall_mem_nil _)) isSection
  exact Table.holds_keyedBy keyed (isValue.items areEntries)

/-- A version is new or was read. -/
theorem isCarried_keptVersion {version : Int} {changes : List Change} {path : String} {earlier : Option Data}
    {kept : Data} (holds : ∀ old ∈ earlier, HoldsValues levels old)
    (isKept : keptVersion version changes path earlier = .ok kept) : IsCarried levels kept := by
  unfold keptVersion at isKept
  split at isKept
  · split at isKept
    · cases isKept
      exact Or.inl ⟨_, rfl⟩
    · exact Or.inr (holds _ rfl isKept)
  · cases isKept
    exact Or.inl ⟨_, rfl⟩

/-- The fields of an earlier schema have versions that were read. -/
theorem holds_earlierFields {earlier : Option Data} {fields : Table Data}
    (holds : ∀ old ∈ earlier, HoldsValues (levels + 2) old) (areFields : earlierFields earlier = .ok fields) :
    fields.Holds (HoldsValues levels) := by
  unfold earlierFields at areFields
  split at areFields
  · cases areFields
    exact List.forall_mem_nil _
  · next schema =>
      rcases bind_eq_ok.mp areFields with ⟨fieldsValue, isMember, areFields⟩
      rcases bind_eq_ok.mp areFields with ⟨items, areItems, keyed⟩
      exact Table.holds_keyedBy keyed ((holds schema rfl isMember).items areItems)

end Carried

/-- A field with a version that was read or is a number. -/
def IsVersionedField (levels : Nat) (value : Data) (field : FieldSpec) : Prop :=
  ∃ kept, value = .object (field.members ++ [("version", kept)]) ∧ IsCarried levels kept

/-- A schema with versions that were read or are numbers. -/
def IsVersionedSchema (levels : Nat) (value : Data) (entry : Entry SchemaSpec) : Prop :=
  ∃ fields own, value = .object (schemaMembers entry fields ++ [("version", own)]) ∧
    IsCarried (levels + 2) own ∧ List.Forall₂ (IsVersionedField levels) fields entry.spec.fields

/-- A declaration with an id that was read or is a number. -/
def IsNumbered {α : Type} (kind : Numbered α) (levels : Nat) (value : Data) (entry : Entry α) : Prop :=
  ∃ id, value = .object (kind.members entry ++ [("id", id)]) ∧ IsCarried levels id

/-- The entry for a schema has what was declared, and versions that were read or are numbers. -/
theorem isVersionedSchema {levels : Nat} {version : Int} {changes : List Change} {oldSchemas : Table Data}
    {entry : Entry SchemaSpec} {value : Data} (holds : oldSchemas.Holds (HoldsValues (levels + 2)))
    (versioned : versionedSchema version changes oldSchemas entry = .ok value) :
    IsVersionedSchema levels value entry := by
  rw [versionedSchema_eq] at versioned
  rcases bind_eq_ok.mp versioned with ⟨oldFields, areFields, versioned⟩
  rcases bind_eq_ok.mp versioned with ⟨own, isOwn, versioned⟩
  rcases bind_eq_ok.mp versioned with ⟨fields, mapped, isValue⟩
  cases isValue
  have holdsOld : ∀ old ∈ oldSchemas.get? (.text (addressOf entry.space entry.spec.name)),
      HoldsValues (levels + 2) old := fun _ found => holds.get? found
  have holdsFields := holds_earlierFields holdsOld areFields
  refine ⟨fields, own, rfl, isCarried_keptVersion holdsOld isOwn, ?_⟩
  refine List.Forall₂.flip ((Json.forall₂_of_mapM_ok mapped).imp fun field value isField => ?_)
  unfold versionedField at isField
  split at isField
  · cases isField
  · rcases bind_eq_ok.mp isField with ⟨kept, isKept, isField⟩
    cases isField
    exact ⟨kept, rfl, isCarried_keptVersion (fun _ found => holdsFields.get? found) isKept⟩

section Ids

variable {levels : Nat} {previous : Option Data} (wasRead : ∀ manifest ∈ previous, IsValue (levels + 3) manifest)

include wasRead in
theorem holds_knownIds {section_ : String} {known : Table Data} (areKnown : knownIds previous section_ = .ok known) :
    known.Holds (IsValue levels) := by
  unfold knownIds at areKnown
  split at areKnown
  · cases areKnown
    exact List.forall_mem_nil _
  · next manifest =>
      rcases bind_eq_ok.mp areKnown with ⟨sectionValue, isSection, areKnown⟩
      rcases bind_eq_ok.mp areKnown with ⟨entries, areEntries, areKnown⟩
      rcases bind_eq_ok.mp areKnown with ⟨ids, mapped, areKnown⟩
      have isValue := (wasRead manifest rfl).memberOr (.list (List.forall_mem_nil _)) isSection
      have holds := isValue.items areEntries
      split at areKnown
      · cases areKnown
        refine Table.holds_ofEntries fun id idMem => ?_
        rcases Json.forall₂_exists_of_mem (Json.forall₂_of_mapM_ok mapped).flip idMem with ⟨entry, entryMem, isId⟩
        rcases bind_eq_ok.mp isId with ⟨address, _, isId⟩
        rcases bind_eq_ok.mp isId with ⟨number, isNumber, isId⟩
        cases isId
        exact holds entry entryMem isNumber
      · cases areKnown

theorem holds_assignIds {known ids : Table Data} (holds : known.Holds (IsValue levels)) {next : Data}
    (carried : IsCarried levels next) {addresses : List String} (assigned : assignIds known next addresses = .ok ids) :
    ids.Holds (IsCarried levels) := by
  induction addresses generalizing next ids with
  | nil =>
      cases assigned
      exact List.forall_mem_nil _
  | cons address rest ih =>
      rw [assignIds] at assigned
      split at assigned
      · next id found =>
          rcases bind_eq_ok.mp assigned with ⟨others, areOthers, areIds⟩
          cases areIds
          exact List.forall_mem_cons.mpr ⟨Or.inr (holds.get? found), ih carried areOthers⟩
      · rcases bind_eq_ok.mp assigned with ⟨after, isAfter, assigned⟩
        rcases bind_eq_ok.mp assigned with ⟨others, areOthers, areIds⟩
        cases areIds
        exact List.forall_mem_cons.mpr ⟨carried, ih (Json.isCarried_next isAfter) areOthers⟩

include wasRead in
/-- An id was read or is a number. -/
theorem holds_sectionIds {section_ : String} {addresses : List String} {ids : Table Data}
    (areIds : sectionIds previous section_ addresses = .ok ids) : ids.Holds (IsCarried levels) := by
  unfold sectionIds at areIds
  rcases bind_eq_ok.mp areIds with ⟨known, areKnown, areIds⟩
  rcases bind_eq_ok.mp areIds with ⟨greatest, _, areIds⟩
  rcases bind_eq_ok.mp areIds with ⟨first, isFirst, areIds⟩
  rcases bind_eq_ok.mp areIds with ⟨assigned, areAssigned, areIds⟩
  cases areIds
  exact Table.holds_ofEntries (holds_assignIds (holds_knownIds wasRead areKnown) (Json.isCarried_next isFirst)
    areAssigned)

end Ids

/-- The entries of a plan of some kind have ids. -/
theorem Numbered.isNumbered_of_plan {α : Type} {kind : Numbered α} {levels : Nat} {allowBreaking : Bool}
    {schemas : Table Data} {entries : List (Entry α)} {previous : Option Data} {version : Int} {items : List Data}
    (wasRead : ∀ manifest ∈ previous, IsValue (levels + 3) manifest)
    (planned : kind.plan allowBreaking schemas entries previous = .ok (version, items)) :
    List.Forall₂ (IsNumbered kind levels) items entries := by
  unfold plan at planned
  rcases bind_eq_ok.mp planned with ⟨_, _, planned⟩
  rcases bind_eq_ok.mp planned with ⟨changes, _, planned⟩
  rcases bind_eq_ok.mp planned with ⟨_, _, planned⟩
  rcases bind_eq_ok.mp planned with ⟨number, _, planned⟩
  rcases bind_eq_ok.mp planned with ⟨ids, areIds, planned⟩
  cases planned
  have holds := holds_sectionIds wasRead (faulty_eq_ok.mp areIds)
  rw [withIds, List.forall₂_map_left_iff]
  refine List.forall₂_same.mpr fun entry _ => ⟨_, rfl, ?_⟩
  cases found : ids.get? (.text (kind.addressOf entry)) with
  | some id => exact holds.get? found
  | none => exact Or.inr .null

/-- The entries of a plan of schemas have versions. -/
theorem isVersioned_of_planSchemas {levels : Nat} {allowBreaking : Bool} {entries : List (Entry SchemaSpec)}
    {previous : Option Data} {version : Int} {items : List Data}
    (wasRead : ∀ manifest ∈ previous, IsValue (levels + 5) manifest)
    (planned : planSchemas allowBreaking entries previous = .ok (version, items)) :
    List.Forall₂ (IsVersionedSchema levels) items entries := by
  unfold planSchemas at planned
  rcases bind_eq_ok.mp planned with ⟨_, _, planned⟩
  rcases bind_eq_ok.mp planned with ⟨changes, _, planned⟩
  rcases bind_eq_ok.mp planned with ⟨_, _, planned⟩
  rcases bind_eq_ok.mp planned with ⟨number, _, planned⟩
  rcases bind_eq_ok.mp planned with ⟨oldSchemas, indexed, planned⟩
  rcases bind_eq_ok.mp planned with ⟨versioned, mapped, planned⟩
  cases planned
  have holds := holds_index wasRead (faulty_eq_ok.mp indexed)
  exact List.Forall₂.flip ((Json.forall₂_of_mapM_ok (faulty_eq_ok.mp mapped)).imp
    fun entry value isEntry => isVersionedSchema holds isEntry)

end Manifest

namespace StageRequest

open Manifest (IsVersionedSchema IsNumbered)

/-- The entries of a plan are what is asked for with more numbers. -/
def IsPlanned (levels : Nat) : StageRequest → List Data → Prop
  | schema groups _, items => List.Forall₂ (IsVersionedSchema levels) items groups.entries
  | storage groups _ _, items => List.Forall₂ (IsNumbered Manifest.collections (levels + 2)) items groups.entries
  | dispatch groups _ _, items => List.Forall₂ (IsNumbered Manifest.dispatches (levels + 2)) items groups.entries

section Found

variable {request : StageRequest} {allowBreaking : Bool} {files : Files} {version : Int} {items : List Data}
  (planned : request.plan allowBreaking files = .ok (version, items))
include planned

/-- Where the manifest that is found has a form in JSON, the entries of a plan have numbers that can be read back. -/
theorem isPlanned_of_loaded (wasRead : ∀ manifest, Manifest.loaded files request.file = .ok (some manifest) →
      Json.IsValue Json.mostLevels manifest) : request.IsPlanned 985 items := by
  have ofLoaded {previous : Option Data} (isLoaded : Manifest.loaded files request.file = .ok previous) :
      ∀ manifest ∈ previous, Json.IsValue Json.mostLevels manifest := by
    rintro manifest rfl
    exact wasRead manifest isLoaded
  cases request with
  | schema groups root =>
      rcases bind_eq_ok.mp planned with ⟨previous, isLoaded, planned⟩
      exact Manifest.isVersioned_of_planSchemas (ofLoaded isLoaded) planned
  | storage groups schemaRoot root =>
      rcases bind_eq_ok.mp planned with ⟨schemas, _, planned⟩
      rcases bind_eq_ok.mp planned with ⟨previous, isLoaded, planned⟩
      exact Manifest.Numbered.isNumbered_of_plan (ofLoaded isLoaded) planned
  | dispatch groups schemaRoot root =>
      rcases bind_eq_ok.mp planned with ⟨schemas, _, planned⟩
      rcases bind_eq_ok.mp planned with ⟨previous, isLoaded, planned⟩
      exact Manifest.Numbered.isNumbered_of_plan (ofLoaded isLoaded) planned

/-- Whatever is found at the path of a manifest, the entries of a plan have numbers that can be read back. -/
theorem isPlanned (plain : ∀ text, files.find? request.file = some (.file text) → Text.IsPlain text.toList) :
    request.IsPlanned 985 items :=
  isPlanned_of_loaded planned fun _ isLoaded => Manifest.isValue_loaded plain isLoaded

end Found

end StageRequest

end SpecGraph
