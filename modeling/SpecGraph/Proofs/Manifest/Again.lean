import SpecGraph.Proofs.Manifest.Accept
import SpecGraph.Proofs.Manifest.Known
import SpecGraph.Proofs.Manifest.Unchanged

/-!
# Plans that are made again

The manifest of a plan is what was declared with versions and ids, and it is read back with the same texts and
numbers, unless a text has the two halves of a code point. So when the same is declared again, no change is found, the
version stays, each schema and field keeps its version and each collection and dispatch its id. Whatever these numbers
are, they have the text they had: the new plan has the manifest that was found.
-/

namespace SpecGraph

open Json (IsValue IsCarried AreKeys areKeys_of_subset)

namespace Json

/-- Two values have the same text at every depth, or none. -/
def SameText (layout : Layout) (first second : Data) : Prop :=
  ∀ depth, written layout depth first = written layout depth second

variable {layout : Layout}

theorem SameText.refl (value : Data) : SameText layout value value := fun _ => rfl

theorem SameText.write_eq {first second : Data} (same : SameText layout first second) :
    write layout first = write layout second := by
  unfold write writeCharacters
  rw [same 0]

theorem sameText_list {items others : List Data} (each : List.Forall₂ (SameText layout) items others) :
    SameText layout (.list items) (.list others) := by
  rcases exists_pairs each with ⟨pairs, rfl, rfl, same⟩
  intro depth
  have sameParts : ∀ pair ∈ pairs, written layout (depth + 1) pair.1 = written layout (depth + 1) pair.2 :=
    fun pair pairMem => same pair pairMem (depth + 1)
  rw [written_list, written_list, List.mapM_map, List.mapM_map]
  simp only [Function.comp_def, mapM_congr_left sameParts]

theorem sameText_object (members : List (String × Data × Data))
    (each : ∀ member ∈ members, SameText layout member.2.1 member.2.2) :
    SameText layout (Data.object (members.map fun member => (member.1, member.2.1)))
      (Data.object (members.map fun member => (member.1, member.2.2))) := by
  intro depth
  rw [written_object, written_object, ordered_map layout Prod.fst, ordered_map layout Prod.snd, List.mapM_map,
    List.mapM_map]
  have same : ∀ member ∈ ordered layout members,
      writtenEntry layout (.text member.1) (written layout (depth + 1) member.2.1) =
        writtenEntry layout (.text member.1) (written layout (depth + 1) member.2.2) := by
    intro member memberMem
    rw [each member ((ordered_perm layout members).mem_iff.mp memberMem)]
  simp only [Function.comp_def, mapM_congr_left same]

theorem reread_of_isNumber (layout : Layout) {value : Data} (isNumber : value.isNumber = true) :
    reread layout value = value := by
  cases value with
  | bool | int | float => rfl
  | _ => cases isNumber

end Json

open Json (SameText)

namespace Manifest

section Composed

variable {section_ : String} (keys : AreKeys ["version", section_]) (version : Int) (items : List Data)
include keys

theorem orEmpty_reread :
    orEmpty (some (Json.reread layout (compose section_ version items))) =
      Json.reread layout (compose section_ version items) :=
  if_pos (isTruthy_of_get? (get?_version_reread keys version items))

/-- The version stays without changes, and grows by one with them. -/
theorem nextVersion_reread (changes : List Change) :
    nextVersion (some (Json.reread layout (compose section_ version items))) changes =
      .ok (if changes.isEmpty then version else version + 1) :=
  nextVersion_of_version (get?_version_reread keys version items) changes

theorem lists_reread {Form : Type} {Relates : Data → Form → Prop} {forms : List Form}
    (each : List.Forall₂ (fun item form => Relates (Json.reread layout item) form) items forms) :
    Lists Relates section_ (Json.reread layout (compose section_ version items)) forms :=
  ⟨_, Data.memberOr_of_get? (get?_section_reread keys version items) _, List.forall₂_map_left_iff.mpr each⟩

end Composed

theorem permitted_nil (allowBreaking : Bool) : permitted allowBreaking [] = .ok () := by
  cases allowBreaking <;> rfl

section Schemas

variable {levels : Nat} {source : SchemaSource} {value : Data}

/-- A field whose name and type are settled is read back as it is. -/
theorem IsVersionedField.of?_reread {field : FieldForm} (settled : field.joined = field)
    (versioned : IsVersionedField levels value field.toSpec) :
    FieldForm.of? (Json.reread layout value) = some field := by
  rcases versioned with ⟨kept, rfl, _⟩
  rw [field.of?_reread, settled]

theorem IsVersionedSchema.of?_reread (settled : source.form.joined = source.form)
    (versioned : IsVersionedSchema levels value source.entry) :
    SchemaForm.of? (Json.reread layout value) = some source.form := by
  rcases versioned with ⟨fields, own, rfl, _, each⟩
  rw [source.of?_reread layout ?_ own, settled]
  have each : List.Forall₂ (fun value field => IsVersionedField levels value (FieldForm.toSpec field)) fields
      source.fields := List.forall₂_map_right_iff.mp each
  refine each.imp fun value field => ?_
  rintro ⟨kept, rfl, _⟩
  exact field.of?_reread layout kept

theorem keptVersion_nil (version : Int) (path : String) (old : Data) :
    keptVersion version [] path (some old) = old.member "version" := rfl

/-- A field that is found again keeps its version. -/
theorem versionedField_again {field : FieldForm} (versioned : IsVersionedField levels value field.toSpec)
    {oldFields : Table Data} (found : oldFields.get? (.text field.name) = some (Json.reread layout value))
    (version : Int) (path : String) :
    ∃ again, versionedField version [] path oldFields field.toSpec = .ok again ∧ SameText layout again value := by
  rcases versioned with ⟨kept, rfl, carried⟩
  have isKept : (Json.reread layout (.object (field.toSpec.members ++ [("version", kept)]))).member "version" =
      .ok (Json.reread layout kept) := by
    apply Data.member_of_get?
    rw [field.get?_reread]
    simp [List.lookup_cons, FieldSpec.members]
  refine ⟨.object (field.toSpec.members ++ [("version", Json.reread layout kept)]), ?_, ?_⟩
  · rw [versionedField_toSpec, found, keptVersion_nil, isKept, ok_bind]
  · refine Json.sameText_object [("name", field.toSpec.name, field.toSpec.name),
      ("type", field.toSpec.type, field.toSpec.type), ("required", field.toSpec.required, field.toSpec.required),
      ("version", Json.reread layout kept, kept)] ?_
    have sameVersion : SameText layout (Json.reread layout kept) kept := carried.written_reread layout
    simp [SameText.refl, sameVersion]

/-- The fields of a schema that is found again are found by their names. -/
theorem earlierFields_again {pairs : List (Data × FieldForm)} (areFields : pairs.map Prod.snd = source.fields)
    (settled : ∀ pair ∈ pairs, pair.2.joined = pair.2) (distinct : (source.fields.map FieldForm.name).Nodup)
    (versioned : ∀ pair ∈ pairs, IsVersionedField levels pair.1 pair.2.toSpec) (own : Data) :
    ∃ olds, earlierFields (some (Json.reread layout (.object (schemaMembers source.entry (pairs.map Prod.fst) ++
        [("version", own)])))) = .ok (Table.textual olds) ∧
      ∀ pair ∈ pairs, olds.lookup pair.2.name = some (Json.reread layout pair.1) := by
  have items : (Json.reread layout (.object (schemaMembers source.entry (pairs.map Prod.fst) ++
      [("version", own)]))).member "fields" = .ok (.list (pairs.map fun pair => Json.reread layout pair.1)) := by
    apply Data.member_of_get?
    rw [source.get?_reread]
    simp [List.lookup_cons, schemaMembers, placeMembers, Function.comp_def]
  let olds := pairs.map fun pair => (pair.2.name, Json.reread layout pair.1)
  have distinctOlds : (olds.map Prod.fst).Nodup := by
    rw [List.map_map]
    rwa [← areFields, List.map_map] at distinct
  have keyed : Table.keyedBy (pairs.map fun pair => Json.reread layout pair.1) (fun field => field.member "name") =
      .ok (Table.textual olds) := by
    have shows : ∀ pair ∈ pairs, FieldForm.of? (Json.reread layout pair.1, pair.2).1 = some pair.2 := by
      intro pair pairMem
      exact (versioned pair pairMem).of?_reread (settled pair pairMem)
    have named := keyedBy_name (List.forall_mem_map.mpr shows)
    rw [List.map_map, List.map_map] at named
    refine named.trans ?_
    change Except.ok (Table.textual (Table.insertTexts [] olds)) = _
    rw [Table.insertTexts_of_nodup [] olds distinctOlds, List.nil_append]
  refine ⟨olds, ?_, fun pair pairMem => ?_⟩
  · rw [earlierFields, items, ok_bind, Data.items_list, ok_bind, keyed]
  · exact Table.lookup_of_mem distinctOlds (List.mem_map.mpr ⟨pair, pairMem, rfl⟩)

/-- A schema that is found again keeps its version and those of its fields. -/
theorem versionedSchema_again (settled : source.form.joined = source.form)
    (distinct : (source.fields.map FieldForm.name).Nodup) (versioned : IsVersionedSchema levels value source.entry)
    {oldSchemas : Table Data}
    (found : oldSchemas.get? (.text source.form.address) = some (Json.reread layout value)) (version : Int) :
    ∃ again, versionedSchema version [] oldSchemas source.entry = .ok again ∧ SameText layout again value := by
  rcases versioned with ⟨fields, own, rfl, carried, each⟩
  have each : List.Forall₂ (fun value field => IsVersionedField levels value (FieldForm.toSpec field)) fields
      source.fields := List.forall₂_map_right_iff.mp each
  rcases exists_pairs each with ⟨pairs, rfl, areFields, versioned⟩
  have settledFields : ∀ pair ∈ pairs, pair.2.joined = pair.2 := by
    intro pair pairMem
    have same : source.fields.map FieldForm.joined = source.fields := congrArg SchemaForm.fields settled
    apply List.map_inj_left.mp (same.trans (List.map_id _).symm)
    rw [← areFields]
    exact List.mem_map_of_mem pairMem
  have isOwn : (Json.reread layout (.object (schemaMembers source.entry (pairs.map Prod.fst) ++
      [("version", own)]))).member "version" = .ok (Json.reread layout own) := by
    apply Data.member_of_get?
    rw [source.get?_reread]
    simp [List.lookup_cons, schemaMembers, placeMembers]
  rcases earlierFields_again areFields settledFields distinct versioned own with ⟨olds, areOlds, inOlds⟩
  have again : ∀ pair ∈ pairs, ∃ again, versionedField version [] ("Schema:" ++ source.form.address)
      (Table.textual olds) pair.2.toSpec = .ok again ∧ SameText layout again pair.1 := by
    intro pair pairMem
    apply versionedField_again (versioned pair pairMem)
    rw [Table.get?_textual, inOlds pair pairMem]
  rcases exists_mapM again with ⟨news, areNews, sameTexts⟩
  refine ⟨.object (schemaMembers source.entry news ++ [("version", Json.reread layout own)]), ?_, ?_⟩
  · have address : addressOf source.entry.space source.entry.spec.name = source.form.address := rfl
    have specs : source.entry.spec.fields = pairs.map fun pair => pair.2.toSpec := by
      change source.fields.map FieldForm.toSpec = _
      rw [← areFields, List.map_map]
      rfl
    rw [versionedSchema_eq]
    dsimp only
    rw [address, found, specs, areOlds, ok_bind, keptVersion_nil, isOwn, ok_bind, List.mapM_map, Function.comp_def,
      areNews, ok_bind]
    rfl
  · have sameVersion : SameText layout (Json.reread layout own) own := carried.written_reread layout
    have sameFields : SameText layout (.list news) (.list (pairs.map Prod.fst)) := by
      apply Json.sameText_list
      rw [List.forall₂_map_right_iff]
      exact sameTexts.flip
    refine Json.sameText_object [("name", source.entry.spec.name, source.entry.spec.name),
      ("namespace", source.entry.space, source.entry.space),
      ("fqn", .text source.form.address, .text source.form.address),
      ("compact", source.entry.spec.compact, source.entry.spec.compact),
      ("fields", .list news, .list (pairs.map Prod.fst)), ("version", Json.reread layout own, own)] ?_
    simp [SameText.refl, sameFields, sameVersion]

variable {pairs : List (Data × SchemaSource)} (settled : ∀ pair ∈ pairs, pair.2.form.joined = pair.2.form)
  (distinct : (pairs.map fun pair => pair.2.form.address).Nodup)
  (fieldsDistinct : ∀ pair ∈ pairs, (pair.2.fields.map FieldForm.name).Nodup)
  (versioned : ∀ pair ∈ pairs, IsVersionedSchema levels pair.1 pair.2.entry)
include settled distinct versioned

/-- The schemas of a manifest are found by their addresses. -/
theorem index_again (version : Int) :
    ∃ olds, index (Json.reread layout (compose "schema" version (pairs.map Prod.fst))) "schema" =
        .ok (Table.textual olds) ∧
      ∀ pair ∈ pairs, olds.lookup pair.2.form.address = some (Json.reread layout pair.1) := by
  have isListed : Lists (fun value pair => value = Json.reread layout pair.1 ∧
      SchemaForm.of? value = some (SchemaSource.form pair.2)) "schema"
      (Json.reread layout (compose "schema" version (pairs.map Prod.fst))) pairs := by
    apply lists_reread (areKeys_of_subset (by decide) (by decide))
    rw [List.forall₂_map_left_iff, List.forall₂_same]
    exact fun pair pairMem => ⟨rfl, (versioned pair pairMem).of?_reread (settled pair pairMem)⟩
  rcases index_of_lists (fun pair : Data × SchemaSource => pair.2.form.address)
    (fun isBoth => (SchemaForm.of?_eq_some.mp isBoth.2).1) isListed distinct with ⟨olds, rfl, related, indexed⟩
  refine ⟨_, indexed, ?_⟩
  rw [List.forall_mem_map]
  intro old oldMem
  rw [← (related old oldMem).1]
  apply Table.lookup_of_mem
  · rw [keys_byAddress]
    rwa [List.map_map] at distinct
  · exact List.mem_map.mpr ⟨old, oldMem, rfl⟩

include fieldsDistinct

/-- No change is found between the manifest of some schemas and others exactly if these are the same up to their
order. -/
theorem exists_diffSchemas_after (version : Int) {news : List SchemaSource}
    (newDistinct : (news.map fun source => source.form.address).Nodup)
    (newFields : ∀ source ∈ news, (source.fields.map FieldForm.name).Nodup) :
    ∃ changes, diffSchemas (Json.reread layout (compose "schema" version (pairs.map Prod.fst)))
        (.object [("schema", .list (news.map fun source => source.entry.schemaData))]) = .ok changes ∧
      (changes = [] ↔ (pairs.map fun pair => pair.2.form).Perm (news.map SchemaSource.form)) := by
  have oldShows : Lists (fun value form => SchemaForm.of? value = some form) "schema"
      (Json.reread layout (compose "schema" version (pairs.map Prod.fst))) (pairs.map fun pair => pair.2.form) := by
    apply lists_reread (areKeys_of_subset (by decide) (by decide))
    rw [List.forall₂_map_left_iff, List.forall₂_map_right_iff, List.forall₂_same]
    exact fun pair pairMem => (versioned pair pairMem).of?_reread (settled pair pairMem)
  have newShows : List.Forall₂ (fun value form => SchemaForm.of? value = some form)
      (news.map fun source => source.entry.schemaData) (news.map SchemaSource.form) := by
    rw [List.forall₂_map_left_iff, List.forall₂_map_right_iff, List.forall₂_same]
    exact fun source _ => source.of?_schemaData
  apply diffSchemas_eq_nil_iff oldShows (lists_object "schema" newShows)
  · rwa [List.map_map]
  · rwa [List.map_map]
  · exact List.forall_mem_map.mpr fieldsDistinct
  · exact List.forall_mem_map.mpr newFields

/-- No change is found between the manifest of some schemas and these. -/
theorem diffSchemas_again (version : Int) :
    diffSchemas (Json.reread layout (compose "schema" version (pairs.map Prod.fst)))
      (.object [("schema", .list (pairs.map fun pair => pair.2.entry.schemaData))]) = .ok [] := by
  have newDistinct : ((pairs.map Prod.snd).map fun source => source.form.address).Nodup := by rwa [List.map_map]
  rcases exists_diffSchemas_after settled distinct fieldsDistinct versioned version newDistinct
    (List.forall_mem_map.mpr fieldsDistinct) with ⟨changes, compared, unchanged⟩
  rw [List.map_map] at unchanged
  rw [List.map_map] at compared
  exact compared.trans (congrArg _ (unchanged.mpr (.refl _)))

/-- The plan for schemas that were planned before has the manifest that is found. -/
theorem planSchemas_again {allowBefore allowBreaking : Bool} {previous : Option Data} {version : Int}
    (planned : planSchemas allowBefore (pairs.map fun pair => pair.2.entry) previous =
      .ok (version, pairs.map Prod.fst)) :
    ∃ again, planSchemas allowBreaking (pairs.map fun pair => pair.2.entry)
        (some (Json.reread layout (compose "schema" version (pairs.map Prod.fst)))) = .ok (version, again) ∧
      List.Forall₂ (SameText layout) again (pairs.map Prod.fst) := by
  have keys : AreKeys ["version", "schema"] := areKeys_of_subset (by decide) (by decide)
  have unchanged := diffSchemas_again settled distinct fieldsDistinct versioned version
  rcases bind_eq_ok.mp planned with ⟨_, areResolved, _⟩
  rcases index_again settled distinct versioned version with ⟨olds, indexed, found⟩
  have again : ∀ pair ∈ pairs, ∃ again,
      versionedSchema version [] (Table.textual olds) pair.2.entry = .ok again ∧ SameText layout again pair.1 := by
    intro pair pairMem
    apply versionedSchema_again (settled pair pairMem) (fieldsDistinct pair pairMem) (versioned pair pairMem)
    rw [Table.get?_textual, found pair pairMem]
  rcases exists_mapM again with ⟨news, areNews, sameTexts⟩
  refine ⟨news, ?_, List.forall₂_map_right_iff.mpr sameTexts.flip⟩
  refine bind_eq_ok.mpr ⟨_, areResolved, ?_⟩
  refine bind_eq_ok.mpr ⟨[], faulty_eq_ok.mpr ?_, ?_⟩
  · rw [orEmpty_reread keys, List.map_map]
    exact unchanged
  refine bind_eq_ok.mpr ⟨(), permitted_nil allowBreaking, ?_⟩
  refine bind_eq_ok.mpr ⟨version, faulty_eq_ok.mpr (nextVersion_reread keys version _ []), ?_⟩
  refine bind_eq_ok.mpr ⟨Table.textual olds, faulty_eq_ok.mpr ?_, ?_⟩
  · rw [orEmpty_reread keys]
    exact indexed
  refine bind_eq_ok.mpr ⟨news, faulty_eq_ok.mpr ?_, rfl⟩
  rw [List.mapM_map]
  exact areNews

end Schemas

namespace Numbered

variable {α σ Form : Type} {kind : Numbered α}

/-- Entries with ids are read back with them, and entries that say the same are compared without a change. -/
structure Reading.IsRepeated (reading : kind.Reading σ Form) : Prop where
  /-- An entry is read back with its texts joined, whatever its id. -/
  shows : ∀ source id, reading.of? (Json.reread layout (.object (kind.members (reading.entry source) ++ [("id", id)]))) =
    some (reading.joined (reading.form source))
  /-- An entry is read back with its id. -/
  id : ∀ source id, (Json.reread layout (.object (kind.members (reading.entry source) ++ [("id", id)]))).get? "id" =
    some (Json.reread layout id)
  /-- Nothing changes exactly where the same is said up to the order. -/
  unchanged_iff : ∀ {previous next : Data} {olds news : List Form},
    Lists (fun value form => reading.of? value = some form) kind.section_ previous olds →
    Lists (fun value form => reading.of? value = some form) kind.section_ next news →
    (olds.map reading.address).Nodup → (news.map reading.address).Nodup →
    ∃ changes, kind.diff previous next = .ok changes ∧ (changes = [] ↔ olds.Perm news)

theorem Reading.isRepeated_collection : collectionReading.IsRepeated where
  shows source id := source.of?_reread layout id
  id source id := by
    refine (source.get?_reread layout id "id").trans ?_
    simp [List.lookup_cons, collectionMembers, placeMembers]
  unchanged_iff := diffCollections_eq_nil_iff

theorem Reading.isRepeated_dispatch : dispatchReading.IsRepeated where
  shows source id := source.of?_reread layout id
  id source id := by
    refine (source.get?_reread layout id "id").trans ?_
    simp [List.lookup_cons, dispatchMembers, placeMembers]
  unchanged_iff := diffDispatches_eq_nil_iff

variable {reading : kind.Reading σ Form} (repeated : reading.IsRepeated) {sources : List σ}
  (settled : ∀ source ∈ sources, reading.joined (reading.form source) = reading.form source)
  (distinct : ((sources.map reading.form).map reading.address).Nodup)

include repeated settled distinct

/-- No change is found between the manifest of some declarations and others exactly if these are the same up to their
order. -/
theorem exists_diff_after (version : Int) (ids : Table Data) {news : List σ}
    (newDistinct : ((news.map reading.form).map reading.address).Nodup) :
    ∃ changes, kind.diff
        (Json.reread layout (compose kind.section_ version (kind.withIds ids (sources.map reading.entry))))
        (.object [(kind.section_, .list ((news.map reading.entry).map fun entry => .object (kind.members entry)))]) =
          .ok changes ∧
      (changes = [] ↔ (sources.map reading.form).Perm (news.map reading.form)) := by
  have oldShows : Lists (fun value form => reading.of? value = some form) kind.section_
      (Json.reread layout (compose kind.section_ version (kind.withIds ids (sources.map reading.entry))))
      (sources.map reading.form) := by
    apply lists_reread reading.keys
    rw [withIds, List.map_map, List.forall₂_map_left_iff, List.forall₂_map_right_iff, List.forall₂_same]
    intro source sourceMem
    exact (repeated.shows source _).trans (congrArg some (settled source sourceMem))
  have newShows : List.Forall₂ (fun value form => reading.of? value = some form)
      ((news.map reading.entry).map fun entry => .object (kind.members entry)) (news.map reading.form) := by
    rw [List.map_map, List.forall₂_map_left_iff, List.forall₂_map_right_iff, List.forall₂_same]
    exact fun source _ => reading.shows source
  exact repeated.unchanged_iff oldShows (lists_object kind.section_ newShows) distinct newDistinct

/-- No change is found between the manifest of some declarations and these. -/
theorem diff_again (version : Int) (ids : Table Data) :
    kind.diff (Json.reread layout (compose kind.section_ version (kind.withIds ids (sources.map reading.entry))))
      (.object [(kind.section_, .list ((sources.map reading.entry).map fun entry => .object (kind.members entry)))]) =
      .ok [] := by
  rcases exists_diff_after repeated settled distinct version ids distinct with ⟨changes, compared, unchanged⟩
  rw [compared, unchanged.mpr (.refl _)]

/-- Ids that are numbers are known from the manifest. -/
theorem knownIds_again (version : Int) {entries : List (String × Data)}
    (areAddresses : entries.map Prod.fst = (sources.map reading.form).map reading.address)
    (numbers : ∀ entry ∈ entries, entry.2.isNumber = true) :
    knownIds (some (Json.reread layout (compose kind.section_ version
      (kind.withIds (Table.textual entries) (sources.map reading.entry))))) kind.section_ =
      .ok (Table.textual entries) := by
  let id (source : σ) : Data := (entries.lookup (reading.address (reading.form source))).getD .null
  let found (source : σ) : Data × String × Data :=
    (Json.reread layout (.object (kind.members (reading.entry source) ++ [("id", id source)])),
      reading.address (reading.form source), Json.reread layout (id source))
  have there : (Json.reread layout (compose kind.section_ version
      (kind.withIds (Table.textual entries) (sources.map reading.entry)))).get? kind.section_ =
      some (.list ((sources.map found).map Prod.fst)) := by
    rw [get?_section_reread reading.keys, withIds, List.map_map, List.map_map, List.map_map]
    congr 2
    refine List.map_congr_left fun source _ => ?_
    simp only [Function.comp_apply, reading.addressOf_entry, Table.get?_textual, found, id]
  have each : ∀ entry ∈ sources.map found,
      entry.1.get? "fqn" = some (.text entry.2.1) ∧ entry.1.get? "id" = some entry.2.2 := by
    rw [List.forall_mem_map]
    intro source sourceMem
    have shows := repeated.shows source (id source)
    rw [settled source sourceMem] at shows
    exact ⟨reading.addressed shows, repeated.id source (id source)⟩
  have areEntries : (sources.map found).map Prod.snd = entries := by
    have keys : (entries.map Prod.fst).Nodup := areAddresses ▸ distinct
    have same : (sources.map found).map Prod.snd = (entries.map Prod.fst).map fun address =>
        (address, Json.reread layout ((entries.lookup address).getD .null)) := by
      rw [areAddresses, List.map_map, List.map_map, List.map_map]
      rfl
    rw [same, List.map_map]
    refine (List.map_congr_left fun entry entryMem => ?_).trans (List.map_id _)
    rw [Function.comp_apply, Table.lookup_of_mem keys entryMem, Option.getD_some,
      Json.reread_of_isNumber layout (numbers entry entryMem)]
    rfl
  have known := knownIds_of_entries there each
  rwa [areEntries, Table.insertTexts_of_nodup [] entries (areAddresses ▸ distinct), List.nil_append] at known

/-- The plan for declarations that were planned before is the manifest that is found. -/
theorem plan_again {allowBefore allowBreaking : Bool} {levels : Nat} {schemas : Table Data} {previous : Option Data}
    {version : Int} {items : List Data} (wasRead : ∀ manifest ∈ previous, IsValue (levels + 3) manifest)
    (planned : kind.plan allowBefore schemas (sources.map reading.entry) previous = .ok (version, items)) :
    kind.plan allowBreaking schemas (sources.map reading.entry)
      (some (Json.reread layout (compose kind.section_ version items))) = .ok (version, items) := by
  rcases bind_eq_ok.mp planned with ⟨_, areResolved, planned⟩
  rcases bind_eq_ok.mp planned with ⟨changes, _, planned⟩
  rcases bind_eq_ok.mp planned with ⟨_, _, planned⟩
  rcases bind_eq_ok.mp planned with ⟨number, _, planned⟩
  rcases bind_eq_ok.mp planned with ⟨ids, areIds, planned⟩
  cases planned
  have addresses : (sources.map reading.entry).map kind.addressOf = (sources.map reading.form).map reading.address := by
    rw [List.map_map, List.map_map]
    exact List.map_congr_left fun source _ => reading.addressOf_entry source
  rw [addresses] at areIds
  rcases isNumber_sectionIds wasRead distinct (faulty_eq_ok.mp areIds) with ⟨entries, rfl, areAddresses, numbers⟩
  have again : sectionIds (some (Json.reread layout (compose kind.section_ version
      (kind.withIds (Table.textual entries) (sources.map reading.entry))))) kind.section_
      ((sources.map reading.entry).map kind.addressOf) = .ok (Table.textual entries) := by
    rw [addresses, ← areAddresses]
    exact sectionIds_of_known (knownIds_again repeated settled distinct version areAddresses numbers)
      (areAddresses ▸ distinct) numbers
  refine bind_eq_ok.mpr ⟨_, areResolved, ?_⟩
  refine bind_eq_ok.mpr ⟨[], faulty_eq_ok.mpr ?_, ?_⟩
  · rw [orEmpty_reread reading.keys]
    exact diff_again repeated settled distinct version (Table.textual entries)
  refine bind_eq_ok.mpr ⟨(), permitted_nil allowBreaking, ?_⟩
  refine bind_eq_ok.mpr ⟨version, faulty_eq_ok.mpr (nextVersion_reread reading.keys version _ []), ?_⟩
  exact bind_eq_ok.mpr ⟨_, faulty_eq_ok.mpr again, rfl⟩

end Numbered

end Manifest

end SpecGraph
