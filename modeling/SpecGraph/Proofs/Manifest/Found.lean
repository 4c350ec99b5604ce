import SpecGraph.Proofs.Manifest.Ids
import SpecGraph.Proofs.Manifest.Versions

/-!
# Manifests that are found

What is found at the path of a manifest is nothing, or a file with a text. If the text is one that a stage
wrote, then it says some forms, and what is loaded has their records. A stage that succeeds leaves such a text
again. It has a plan exactly if the references of the declarations are resolved and the comparison with what was
found has no breaking change.

Two full names may become one when their texts are joined, so that a manifest has two entries for it. The stages
and the comparisons read the earlier entries from tables by address, where the later of the two counts. So
there is a manifest without the entries that do not count, and the stages make the same plan from it.
-/

namespace SpecGraph

namespace Manifest

section Alike

variable {Form : Type}

/-- A section of two manifests is read as the same table, and they have the same version. -/
structure Alike (section_ : String) (first second : Option Data) : Prop where
  /-- The entries by address are the same. -/
  entries : index (orEmpty first) section_ = index (orEmpty second) section_
  /-- The version is the same. -/
  version : ∀ changes, nextVersion first changes = nextVersion second changes

section Kept

variable (address : Form → String) (entries : List (Data × Form))

/-- The entries that count: the later of two with one address. -/
def counting : List (Data × Form) :=
  (Table.insertTexts [] (entries.map fun entry => (address entry.2, entry))).map Prod.snd

theorem mem_of_mem_counting {entry : Data × Form} (entryMem : entry ∈ counting address entries) : entry ∈ entries := by
  rcases List.mem_map.mp entryMem with ⟨pair, pairMem, rfl⟩
  rcases Table.mem_of_mem_insertTexts pairMem with inTable | added
  · cases inTable
  · rcases List.mem_map.mp added with ⟨entry, inEntries, rfl⟩
    exact inEntries

/-- What the entries that count are mapped to is the table of what all entries are mapped to. -/
theorem map_counting {β : Type} (image : Data × Form → β) :
    (counting address entries).map (fun entry => (address entry.2, image entry)) =
      Table.insertTexts [] (entries.map fun entry => (address entry.2, image entry)) := by
  have images := Table.map_insertTexts image [] (entries.map fun entry => (address entry.2, entry))
  rw [List.map_map, List.map_nil] at images
  refine Eq.trans ?_ images
  rw [counting, List.map_map]
  refine List.map_congr_left fun pair pairMem => ?_
  rcases Table.mem_of_mem_insertTexts pairMem with inTable | added
  · cases inTable
  · rcases List.mem_map.mp added with ⟨entry, _, rfl⟩
    rfl

theorem nodup_counting : ((counting address entries).map fun entry => address entry.2).Nodup := by
  have keys := congrArg (List.map Prod.fst) (map_counting address entries fun _ => ())
  rw [List.map_map] at keys
  change (counting address entries).map (fun entry => address entry.2) = _ at keys
  rw [keys]
  have bare : (([] : List (String × Unit)).map Prod.fst).Nodup := List.nodup_nil
  exact Table.nodup_insertTexts bare _

end Kept

variable {Record : Nat → Data → Form → Prop} {section_ : String} {bound : Nat}

/-- A manifest is alike another one in which no full name occurs twice. -/
theorem exists_alike {address : Form → String}
    (addressed : ∀ {value form}, Record bound value form → value.get? "fqn" = some (.text (address form)))
    (notVersion : section_ ≠ "version") {previous : Option Data} {forms : List Form}
    (earlier : Earlier Record section_ bound previous forms) :
    ∃ other, ∃ entries : List (Data × Form), entries.map Prod.snd = forms ∧ Alike section_ previous other ∧
      Earlier Record section_ bound other ((counting address entries).map Prod.snd) := by
  cases previous with
  | none =>
      obtain rfl : forms = [] := earlier
      exact ⟨none, [], rfl, ⟨rfl, fun _ => rfl⟩, rfl⟩
  | some manifest =>
      rcases exists_index address addressed earlier.entriesIn.lists with ⟨entries, rfl, records, indexed⟩
      rcases earlier.version with ⟨version, small, there⟩
      have inSection : (compose section_ version ((counting address entries).map Prod.fst)).get? section_ =
          some (.list ((counting address entries).map Prod.fst)) := by
        simp [compose, List.lookup_cons, beq_eq_false_iff_ne.mpr notVersion]
      have sameVersion : (compose section_ version ((counting address entries).map Prod.fst)).get? "version" =
          some (.int version) := by
        simp [compose]
      refine ⟨some (compose section_ version ((counting address entries).map Prod.fst)), entries, rfl,
        ⟨?_, fun changes => ?_⟩, ⟨version, small, sameVersion⟩, _, inSection, ?_⟩
      · have named : ∀ entry ∈ counting address entries, entry.1.member "fqn" = .ok (.text (address entry.2)) :=
          fun entry entryMem => Data.member_of_get?
            (addressed (records entry (mem_of_mem_counting address entries entryMem)))
        have keys : (((counting address entries).map fun entry => (address entry.2, entry.1)).map Prod.fst).Nodup := by
          rw [List.map_map]
          exact nodup_counting address entries
        rw [indexed, orEmpty, if_pos (isTruthy_of_get? inSection), index, Data.memberOr_of_get? inSection]
        simp only [ok_bind, Data.items_list]
        rw [Table.keyedBy_map named, Table.insertTexts_of_nodup [] _ keys, List.nil_append,
          map_counting address entries Prod.fst]
        rfl
      · unfold nextVersion
        simp only [Data.memberOr_of_get? there, Data.memberOr_of_get? sameVersion]
      · rw [List.forall₂_map_left_iff, List.forall₂_map_right_iff]
        exact List.forall₂_same.mpr fun entry entryMem =>
          records entry (mem_of_mem_counting address entries entryMem)

section Congruence

variable {first second : Option Data}

/-- The same plan for schemas is made from manifests that are alike. -/
theorem Alike.planSchemas_eq (alike : Alike "schema" first second) (allowBreaking : Bool)
    (entries : List (Entry SchemaSpec)) :
    planSchemas allowBreaking entries first = planSchemas allowBreaking entries second := by
  unfold planSchemas
  simp only [diffSchemas, alike.entries, alike.version]

/-- The same plan for declarations with ids is made from manifests that are alike and have the same ids. -/
theorem Alike.plan_eq {α : Type} {kind : Numbered α} (alike : Alike kind.section_ first second)
    (compared : ∀ {old other new}, index old kind.section_ = index other kind.section_ →
      kind.diff old new = kind.diff other new)
    (known : knownIds first kind.section_ = knownIds second kind.section_) (allowBreaking : Bool)
    (schemas : Table Data) (entries : List (Entry α)) :
    kind.plan allowBreaking schemas entries first = kind.plan allowBreaking schemas entries second := by
  unfold Numbered.plan
  simp only [compared alike.entries, alike.version, sectionIds, known]

end Congruence

/-- The ids that count are those of the table of all ids. -/
theorem knownIds_counting {of? : Data → Option Form} {address : Form → String}
    (addressed : ∀ {value form}, of? value = some form → value.get? "fqn" = some (.text (address form)))
    {previous other : Option Data} {entries : List (Data × (Form × Int))}
    (earlier : Earlier (NumberedRecord of?) section_ bound previous (entries.map Prod.snd))
    (counts : Earlier (NumberedRecord of?) section_ bound other
      ((counting (fun form : Form × Int => address form.1) entries).map Prod.snd)) :
    knownIds previous section_ = knownIds other section_ := by
  have distinct := nodup_counting (fun form : Form × Int => address form.1) entries
  have images := map_counting (fun form : Form × Int => address form.1) entries fun entry => Data.int entry.2.2
  rw [knownIds_eq addressed earlier, knownIds_of_earlier addressed counts (by rwa [List.map_map]), List.map_map,
    List.map_map]
  exact congrArg (fun table => Except.ok (Table.textual table)) images.symm

end Alike

/-- What is found where a path leads to: no text, or a file with a text. -/
def Finds (files : Files) (path : Path) : Option String → Prop
  | none => files.textAt? path.place = none
  | some text => files.find? path = some (.file text)

variable {Form : Type} {Record : Nat → Data → Form → Prop} {section_ : String} {files later : Files} {path : Path}
  {found : Option String} {forms : List Form}

/-- What a manifest says that was found; one that is absent says nothing. -/
def Says (Record : Nat → Data → Form → Prop) (section_ : String) : Option String → List Form → Prop
  | none, forms => forms = []
  | some text, forms => ∃ manifest, IsTextOf Record section_ text manifest forms

/-- A manifest says the same in other words. -/
theorem Says.map {Other : Type} {Shown : Nat → Data → Other → Prop} {image : Form → Other}
    (each : ∀ {value form}, Record Text.mostShown value form → Shown Text.mostShown value (image form))
    (isSaid : Says Record section_ found forms) : Says Shown section_ found (forms.map image) := by
  cases found with
  | none => exact List.map_eq_nil_iff.mpr isSaid
  | some text =>
      rcases isSaid with ⟨manifest, unbroken, isRead, recorded⟩
      exact ⟨manifest, unbroken, isRead, recorded.map each⟩

/-- What is found stays while the file tree grows and the text stays. -/
theorem Finds.grows (finds : Finds files path found) (grows : files.Grows later)
    (same : later.textAt? path.place = files.textAt? path.place) : Finds later path found := by
  cases found with
  | none => exact same.trans finds
  | some text => exact grows.find? finds (same.trans (Files.textAt?_of_find? finds))

/-- What was loaded has the records of what was found. -/
theorem Finds.earlier (finds : Finds files path found) (isSaid : Says Record section_ found forms)
    {previous : Option Data} (isLoaded : loaded files path = .ok previous) :
    Earlier Record section_ Text.mostShown previous forms := by
  cases found with
  | none =>
      rw [loaded_of_absent finds isLoaded]
      exact isSaid
  | some text =>
      rcases isSaid with ⟨manifest, unbroken, isRead, recorded⟩
      rcases recorded.records with ⟨_, there, _⟩
      rw [loaded_eq_of_found finds unbroken isRead there] at isLoaded
      split at isLoaded
      · cases isLoaded
      · obtain rfl := Except.ok.inj isLoaded
        exact recorded

/-- What is found can be read: its path is not too long, and it is no folder. -/
structure Reaches (files : Files) (path : Path) (found : Option String) : Prop where
  /-- It is found. -/
  finds : Finds files path found
  /-- The path is not too long. -/
  short : files.isTooLong path = false
  /-- It is no folder. -/
  noFolder : files.find? path ≠ some .folder

/-- A file that can be read can still be read after the file tree has grown, if its text stays. -/
theorem Reaches.grows {text : String} (reaches : Reaches files path (some text)) (grows : files.Grows later)
    (same : later.textAt? path.place = files.textAt? path.place) : Reaches later path (some text) := by
  have finds := reaches.finds.grows grows same
  rcases Option.bind_eq_some_iff.mp (reaches.finds : files.find? path = _) with ⟨place, leads, _⟩
  refine ⟨finds, (grows.isTooLong_eq leads).trans reaches.short, fun isFolder => ?_⟩
  cases isFolder.symm.trans (finds : later.find? path = _)

/-- What is found can be read if it can be opened later. -/
theorem Finds.reaches (finds : Finds files path found) (grows : files.Grows later)
    (opens : opened? later path ≠ none) : Reaches files path found := by
  rcases Option.ne_none_iff_exists'.mp opens with ⟨opened, isOpened⟩
  rcases exists_of_opened? isOpened with ⟨_, deeper, deepens, isWritten⟩
  rcases Files.exists_of_write? isWritten with ⟨place, resolved, short, noFolder, _⟩
  have all := grows.trans deepens.toGrows
  refine ⟨finds, ?_, ?_⟩
  · by_contra long
    rw [Bool.not_eq_false] at long
    rw [all.isTooLong long] at short
    cases short
  · intro isFolder
    rcases Option.bind_eq_some_iff.mp isFolder with ⟨other, leads, node⟩
    cases (all.resolve? leads).symm.trans resolved
    exact noFolder (all.isFolder node)

/-- A manifest that can be read is loaded, and what is loaded does not depend on the rest of the file tree. -/
theorem exists_manifest (isSaid : Says Record section_ found forms) :
    ∃ previous, Earlier Record section_ Text.mostShown previous forms ∧
      ∀ {files path}, Reaches files path found → loaded files path = .ok previous := by
  cases found with
  | none =>
      refine ⟨none, isSaid, fun {files path} reaches => ?_⟩
      have absent : files.exists? path = false := by
        unfold Files.exists?
        cases node : files.find? path with
        | none => rfl
        | some there =>
            cases there with
            | folder => exact (reaches.noFolder node).elim
            | file text =>
                have noText : files.textAt? path.place = none := reaches.finds
                rw [Files.textAt?_of_find? node] at noText
                cases noText
      unfold loaded
      rw [reaches.short, Bool.and_false, absent]
      rfl
  | some text =>
      rcases isSaid with ⟨manifest, unbroken, isRead, recorded⟩
      rcases recorded.records with ⟨_, there, _⟩
      exact ⟨some manifest, recorded, fun reaches =>
        loaded_of_found reaches.finds reaches.short unbroken isRead there⟩

/-- The schemas of a plan are resolved, and nothing breaks what was found. -/
theorem exists_plan_schemas_iff {bound : Nat} {sources : List SchemaSource} {previous : Option Data}
    {olds : List SchemaForm} (earlier : Earlier SchemaRecord "schema" bound previous olds)
    (distinct : ((sources.map SchemaSource.form).map SchemaForm.address).Nodup)
    (fieldsDistinct : ∀ source ∈ sources, (source.fields.map FieldForm.name).Nodup) :
    ∃ changes, diffSchemas (orEmpty previous)
        (.object [("schema", .list ((sources.map SchemaSource.entry).map Entry.schemaData))]) = .ok changes ∧
      ((∃ goal, planSchemas false (sources.map SchemaSource.entry) previous = .ok goal) ↔
        AreResolved (sources.map SchemaSource.form) ∧ breaking changes = []) := by
  rcases exists_alike SchemaRecord.address (by decide) earlier with ⟨other, entries, rfl, alike, counts⟩
  have countsOnce : (((counting SchemaForm.address entries).map Prod.snd).map SchemaForm.address).Nodup := by
    rw [List.map_map]
    exact nodup_counting SchemaForm.address entries
  rcases diffSchemas_of_forms (counts.entriesIn.imp SchemaRecord.shows).lists (lists_object _ (SchemaSource.forall₂_schemaData _)) countsOnce
    distinct (List.forall_mem_map.mpr fieldsDistinct) with ⟨changes, compared, breaks⟩
  refine ⟨changes, ?_, ?_⟩
  · rw [← compared]
    simp only [diffSchemas, alike.entries]
  · rw [alike.planSchemas_eq, breaks]
    rcases planSchemas_of_sources counts countsOnce distinct fieldsDistinct with
      ⟨resolved, extended, version, items, planned, _⟩ | ⟨refused, error, planned⟩
    · exact iff_of_true ⟨_, planned⟩ ⟨resolved, extended⟩
    · refine iff_of_false ?_ refused
      rintro ⟨goal, isPlan⟩
      rw [planned] at isPlan
      cases isPlan

namespace Numbered.Reading

variable {α σ : Type} {kind : Numbered α} (reading : kind.Reading σ Form)

/-- A comparison of manifests looks at the entries of the old one by address. -/
def IsIndexed (_ : kind.Reading σ Form) : Prop :=
  ∀ {old other new : Data}, index old kind.section_ = index other kind.section_ → kind.diff old new = kind.diff other new

theorem isIndexed_collection : collectionReading.IsIndexed := by
  intro old other new same
  have same : index old "collections" = index other "collections" := same
  simp only [collections, diffCollections, same]

theorem isIndexed_dispatch : dispatchReading.IsIndexed := by
  intro old other new same
  have same : index old "dispatches" = index other "dispatches" := same
  simp only [dispatches, diffDispatches, same]

variable {reading} (isIndexed : reading.IsIndexed) {bound : Nat} {previous : Option Data} {olds : List (Form × Int)}
include isIndexed

/-- The same plan is made from a manifest in which no full name occurs twice. -/
theorem exists_plan_eq (earlier : Earlier (NumberedRecord reading.of?) kind.section_ bound previous olds) :
    ∃ other others, Alike kind.section_ previous other ∧
      Earlier (NumberedRecord reading.of?) kind.section_ bound other others ∧
      (others.map fun old => reading.address old.1).Nodup ∧
      ∀ allowBreaking schemas entries, kind.plan allowBreaking schemas entries previous =
        kind.plan allowBreaking schemas entries other := by
  have notVersion : kind.section_ ≠ "version" := fun same => by
    have distinct := reading.keys.distinct
    simp [same] at distinct
  have addressed : ∀ {value : Data} {form : Form × Int}, NumberedRecord reading.of? bound value form →
      value.get? "fqn" = some (.text ((fun form : Form × Int => reading.address form.1) form)) :=
    fun record => reading.addressed record.shows
  rcases exists_alike addressed notVersion earlier with ⟨other, entries, rfl, alike, counts⟩
  refine ⟨other, _, alike, counts, ?_, fun allowBreaking schemas others => ?_⟩
  · rw [List.map_map]
    exact nodup_counting (fun form : Form × Int => reading.address form.1) entries
  · exact alike.plan_eq isIndexed (knownIds_counting reading.addressed earlier counts) allowBreaking schemas others

/-- The declarations of a plan are resolved, and nothing breaks what was found. -/
theorem exists_plan_iff {schemas : List (Data × SchemaForm)} {sources : List σ}
    (shows : ∀ entry ∈ schemas, SchemaForm.of? entry.1 = some entry.2)
    (schemasDistinct : (schemas.map fun entry => entry.2.address).Nodup)
    (earlier : Earlier (NumberedRecord reading.of?) kind.section_ bound previous olds)
    (distinct : (sources.map fun source => reading.address (reading.form source)).Nodup) :
    ∃ changes, kind.diff (orEmpty previous) (.object [(kind.section_,
        .list ((sources.map reading.entry).map fun entry => .object (kind.members entry)))]) = .ok changes ∧
      ((∃ goal, kind.plan false (Table.textual (byAddress SchemaForm.address schemas)) (sources.map reading.entry)
          previous = .ok goal) ↔
        (∀ source ∈ sources, reading.ResolvedIn (schemas.map Prod.snd) (reading.form source)) ∧
          breaking changes = []) := by
  rcases exists_plan_eq isIndexed earlier with ⟨other, others, alike, counts, countsOnce, samePlan⟩
  have newShows : List.Forall₂ (fun entry form => reading.of? entry = some form)
      ((sources.map reading.entry).map fun entry => .object (kind.members entry)) (sources.map reading.form) := by
    rw [List.forall₂_map_left_iff, List.forall₂_map_left_iff, List.forall₂_map_right_iff]
    exact List.forall₂_same.mpr fun source _ => reading.shows source
  rcases reading.compared counts.entriesIn_fst newShows (by rwa [List.map_map]) (by rwa [List.map_map]) with
    ⟨changes, compared, breaks⟩
  refine ⟨changes, (isIndexed alike.entries).trans compared, ?_⟩
  rw [samePlan, breaks, List.forall_mem_map]
  rcases reading.plan_of_sources shows schemasDistinct counts countsOnce distinct with
    ⟨resolved, kept, version, numbered, planned, _⟩ | ⟨refused, error, planned⟩
  · exact iff_of_true ⟨_, planned⟩ ⟨resolved, kept⟩
  · refine iff_of_false ?_ refused
    rintro ⟨goal, isPlan⟩
    rw [planned] at isPlan
    cases isPlan

end Numbered.Reading

end Manifest

end SpecGraph
