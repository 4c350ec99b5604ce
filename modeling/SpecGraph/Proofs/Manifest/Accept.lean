import SpecGraph.Proofs.Manifest.Numbers

/-!
# Accepted declarations

A stage has a plan for what was declared exactly if every reference is resolved and the earlier manifest is
extended. The schemas of a stage refer to each other; its collections and dispatches refer to the schemas of
the written manifest. The plan then has a record for each declaration, with numbers that exceed those of the
earlier manifest by one and by the number of declarations at most.
-/

namespace SpecGraph

open Json (IsTree AreKeys)

/-- An entry of the next manifest is the record of a schema. -/
def SchemaSource.IsRecord (source : SchemaSource) (bound : Nat) (item : Data) : Prop :=
  ∃ fields, ∃ own : Nat, item = source.record fields own ∧ own ≤ bound ∧
    List.Forall₂ (fun value field => ∃ version : Nat, version ≤ bound ∧
      value = FieldForm.record field version) fields source.fields

/-- The schema of a collection is one of some schemas, and it has the fields of the key. -/
def CollectionForm.ResolvedIn (schemas : List SchemaForm) (collection : CollectionForm) : Prop :=
  ∃ schema ∈ schemas, schema.address = collection.schema ∧ collection.key ≠ [] ∧
    ∀ name ∈ collection.key, name ∈ schema.fields.map FieldForm.name

/-- The schema of the requests of a dispatch is one of some schemas. -/
def DispatchForm.ResolvedIn (schemas : List SchemaForm) (dispatch : DispatchForm) : Prop :=
  ∃ schema ∈ schemas, schema.address = dispatch.requestType

/-- Every earlier schema has an extension among the later ones. -/
def AreExtended (olds news : List SchemaForm) : Prop :=
  ∀ old ∈ olds, ∃ new ∈ news, new.address = old.address ∧ old.ExtendedBy new

theorem SchemaForm.ExtendedBy.names_subset {old new : SchemaForm} (extends_ : old.ExtendedBy new)
    {name : String} (there : name ∈ old.fields.map FieldForm.name) :
    name ∈ new.fields.map FieldForm.name := by
  obtain ⟨_, kept, added, fields, keeps, _⟩ := extends_
  obtain ⟨field, fieldMem, rfl⟩ := List.mem_map.mp there
  obtain ⟨later, laterMem, same, _⟩ := Json.forall₂_exists_of_mem keeps fieldMem
  rw [← same, fields]
  exact List.mem_map_of_mem (List.mem_append_left _ laterMem)

/-- What a collection refers to stays there when the schemas are extended. -/
theorem CollectionForm.ResolvedIn.mono {schemas others : List SchemaForm}
    (extended : AreExtended schemas others) {collection : CollectionForm}
    (resolved : collection.ResolvedIn schemas) : collection.ResolvedIn others := by
  obtain ⟨schema, schemaMem, same, some_name, names⟩ := resolved
  obtain ⟨other, otherMem, sameAddress, extends_⟩ := extended schema schemaMem
  exact ⟨other, otherMem, sameAddress.trans same, some_name,
    fun name nameMem => extends_.names_subset (names name nameMem)⟩

theorem DispatchForm.ResolvedIn.mono {schemas others : List SchemaForm}
    (extended : AreExtended schemas others) {dispatch : DispatchForm}
    (resolved : dispatch.ResolvedIn schemas) : dispatch.ResolvedIn others := by
  obtain ⟨schema, schemaMem, same⟩ := resolved
  obtain ⟨other, otherMem, sameAddress, _⟩ := extended schema schemaMem
  exact ⟨other, otherMem, sameAddress.trans same⟩

/-- What a collection refers to on disk is found there also when the texts of the collection are joined. -/
theorem CollectionForm.ResolvedIn.joined {schemas : List SchemaForm}
    (settled : ∀ schema ∈ schemas, schema.joined = schema) {collection : CollectionForm}
    (resolved : collection.ResolvedIn schemas) : collection.joined.ResolvedIn schemas := by
  obtain ⟨schema, schemaMem, same, some_name, names⟩ := resolved
  have isSettled := settled schema schemaMem
  refine ⟨schema, schemaMem, ?_, by simpa [CollectionForm.joined] using some_name, ?_⟩
  · rw [CollectionForm.joined, ← same]
    exact (congrArg SchemaForm.address isSettled).symm
  · intro joinedName joinedMem
    obtain ⟨name, nameMem, rfl⟩ := List.mem_map.mp joinedMem
    obtain ⟨field, fieldMem, rfl⟩ := List.mem_map.mp (names name nameMem)
    have fieldNames : (schema.fields.map FieldForm.joined).map FieldForm.name =
        schema.fields.map FieldForm.name :=
      congrArg (fun form => form.fields.map FieldForm.name) isSettled
    rw [← fieldNames]
    exact List.mem_map_of_mem (List.mem_map_of_mem fieldMem)

theorem DispatchForm.ResolvedIn.joined {schemas : List SchemaForm}
    (settled : ∀ schema ∈ schemas, schema.joined = schema) {dispatch : DispatchForm}
    (resolved : dispatch.ResolvedIn schemas) : dispatch.joined.ResolvedIn schemas := by
  obtain ⟨schema, schemaMem, same⟩ := resolved
  refine ⟨schema, schemaMem, ?_⟩
  rw [DispatchForm.joined, ← same]
  exact (congrArg SchemaForm.address (settled schema schemaMem)).symm

namespace Manifest

variable {bound : Nat}

theorem forM_eq_ok_iff {α ε : Type} {items : List α} {check : α → Except ε PUnit} :
    items.forM check = .ok ⟨⟩ ↔ ∀ item ∈ items, check item = .ok ⟨⟩ := by
  induction items with
  | nil => simp [pure, Except.pure]
  | cons item rest ih =>
      rw [List.forall_mem_cons, ← ih]
      change (check item >>= fun _ => rest.forM check) = _ ↔ _
      cases check item with
      | error error => simp [bind, Except.bind]
      | ok => simp [bind, Except.bind]

theorem permitted_eq_ok_iff {changes : List Change} :
    permitted false changes = .ok () ↔ breaking changes = [] := by
  unfold permitted
  cases breaking changes <;> simp

/-- Every field has a primitive type or the address of one of the schemas. -/
def AreResolved (schemas : List SchemaForm) : Prop :=
  ∀ schema ∈ schemas, ∀ field ∈ schema.fields,
    FieldTag.isTag field.type = true ∨ field.type ∈ schemas.map SchemaForm.address

theorem resolvedField_eq_ok_iff {addresses : List String} {source : SchemaSource} {field : FieldForm} :
    resolvedField addresses source.entry field.toSpec = .ok () ↔
      FieldTag.isTag field.type = true ∨ field.type ∈ addresses := by
  unfold resolvedField
  change (if !FieldTag.isTag field.type then _ else _) = _ ↔ _
  cases FieldTag.isTag field.type with
  | true => simp [pure, Except.pure]
  | false =>
      change (Job.faulty (.ok (addresses.contains field.type)) >>= _) = _ ↔ _
      cases listed : addresses.contains field.type with
      | true =>
          have listed := List.contains_iff_mem.mp listed
          simp [Job.faulty, bind, Except.bind, pure, Except.pure, listed]
      | false =>
          have unlisted : field.type ∉ addresses := by
            rw [← List.contains_iff_mem, listed]
            simp
          simp [Job.faulty, bind, Except.bind, throw, throwThe, MonadExceptOf.throw, unlisted]

theorem resolvedFields_eq_ok_iff {sources : List SchemaSource} :
    ((sources.map SchemaSource.entry).forM
        (resolvedFields ((sources.map SchemaSource.entry).map schemaAddress)) : Except Error PUnit) =
      .ok ⟨⟩ ↔ AreResolved (sources.map SchemaSource.form) := by
  have addresses : (sources.map SchemaSource.entry).map schemaAddress =
      (sources.map SchemaSource.form).map SchemaForm.address := by
    rw [List.map_map, List.map_map]
    rfl
  rw [addresses, forM_eq_ok_iff, List.forall_mem_map, AreResolved, List.forall_mem_map]
  refine forall₂_congr fun source _ => ?_
  rw [resolvedFields]
  change (source.fields.map FieldForm.toSpec).forM _ = _ ↔ _
  rw [forM_eq_ok_iff, List.forall_mem_map]
  exact forall₂_congr fun field _ => resolvedField_eq_ok_iff

/-- There is a plan for schemas exactly if their types are resolved and the earlier schemas are extended. -/
theorem planSchemas_of_sources {sources : List SchemaSource} {previous : Option Data}
    {olds : List SchemaForm} (earlier : Earlier SchemaRecord "schema" bound previous olds)
    (oldDistinct : (olds.map SchemaForm.address).Nodup)
    (newDistinct : ((sources.map SchemaSource.form).map SchemaForm.address).Nodup)
    (fieldsDistinct : ∀ source ∈ sources, (source.fields.map FieldForm.name).Nodup) :
    (AreResolved (sources.map SchemaSource.form) ∧ AreExtended olds (sources.map SchemaSource.form) ∧
      ∃ version : Nat, ∃ items,
        planSchemas false (sources.map SchemaSource.entry) previous = .ok ((version : Int), items) ∧
        version ≤ bound + 1 ∧
        List.Forall₂ (fun item source => SchemaSource.IsRecord source (bound + 1) item) items sources) ∨
    (¬(AreResolved (sources.map SchemaSource.form) ∧ AreExtended olds (sources.map SchemaSource.form)) ∧
      ∃ error, planSchemas false (sources.map SchemaSource.entry) previous = .error error) := by
  obtain ⟨changes, compared, breaks⟩ := diffSchemas_of_forms
    (earlier.entriesIn.imp SchemaRecord.shows).lists (lists_object _ (SchemaSource.forall₂_schemaData _)) oldDistinct newDistinct
    (List.forall_mem_map.mpr fieldsDistinct)
  obtain ⟨entries, areForms, records, indexed⟩ := index_of_entries
    SchemaForm.address SchemaRecord.address earlier.entriesIn oldDistinct
  obtain ⟨version, isVersion, small⟩ := exists_nextVersion earlier changes
  have recorded : ∀ address : String, ∀ old ∈ (Table.textual (byAddress SchemaForm.address entries)).get?
      (.text address), ∃ form, SchemaRecord bound old form := by
    intro address old found
    rw [Option.mem_def, Table.get?_textual] at found
    obtain ⟨entry, entryMem, same⟩ := List.mem_map.mp (Table.mem_of_lookup found)
    obtain ⟨_, rfl⟩ := Prod.mk.inj same
    exact ⟨_, records entry entryMem⟩
  have each : ∀ source ∈ sources, ∃ item, versionedSchema version changes
      (Table.textual (byAddress SchemaForm.address entries)) source.entry = .ok item ∧
      SchemaSource.IsRecord source (bound + 1) item := by
    intro source _
    obtain ⟨_, fields, own, _, versioned, ⟨ownSmall, _⟩, fieldRecords⟩ :=
      exists_versionedSchema small changes recorded source
    exact ⟨_, versioned, fields, own, rfl, ownSmall,
      fieldRecords.imp fun _ _ ⟨version, isRecord, _⟩ => ⟨version, isRecord⟩⟩
  obtain ⟨items, versioned, areRecords⟩ := exists_mapM each
  by_cases resolved : AreResolved (sources.map SchemaSource.form)
  · have checked := resolvedFields_eq_ok_iff.mpr resolved
    by_cases extended : AreExtended olds (sources.map SchemaSource.form)
    · refine Or.inl ⟨resolved, extended, version, items, ?_, small, areRecords.flip⟩
      have allowed := permitted_eq_ok_iff.mpr (breaks.mpr extended)
      unfold planSchemas
      rw [checked, ok_bind, compared]
      simp only [Job.faulty, ok_bind, allowed, isVersion, indexed]
      rw [List.mapM_map]
      change (Job.faulty (sources.mapM (fun source => versionedSchema _ _ _ source.entry)) >>= _) = _
      rw [versioned]
      rfl
    · refine Or.inr ⟨fun both => extended both.2, ?_⟩
      unfold planSchemas
      rw [checked, ok_bind, compared]
      simp only [Job.faulty, ok_bind]
      cases refused : permitted false changes with
      | error error => exact ⟨error, rfl⟩
      | ok => exact (extended (breaks.mp (permitted_eq_ok_iff.mp refused))).elim
  · refine Or.inr ⟨fun both => resolved both.1, ?_⟩
    unfold planSchemas
    cases refused : (sources.map SchemaSource.entry).forM
        (resolvedFields ((sources.map SchemaSource.entry).map schemaAddress)) with
    | error error => exact ⟨error, rfl⟩
    | ok => exact (resolved (resolvedFields_eq_ok_iff.mp refused)).elim

section Resolve

variable {entries : List (Data × SchemaForm)}

theorem lookup_byAddress {address : String}
    (distinct : (entries.map fun entry => entry.2.address).Nodup) {entry : Data × SchemaForm}
    (entryMem : entry ∈ entries) (same : entry.2.address = address) :
    (byAddress SchemaForm.address entries).lookup address = some entry.1 := by
  refine Table.lookup_of_mem ?_ (List.mem_map.mpr ⟨entry, entryMem, by rw [same]⟩)
  rwa [keys_byAddress]

theorem resolvedCollection_eq_ok_iff
    (shows : ∀ entry ∈ entries, SchemaForm.of? entry.1 = some entry.2)
    (distinct : (entries.map fun entry => entry.2.address).Nodup) (source : CollectionSource) :
    resolvedCollection (Table.textual (byAddress SchemaForm.address entries)) source.entry = .ok () ↔
      source.form.ResolvedIn (entries.map Prod.snd) := by
  have plain : (source.key.map Data.text).all Data.isKey = true := by
    simp
  have isKey : source.entry.spec.schema.isKey = true := rfl
  have key : source.entry.spec.key = source.key.map .text := rfl
  have schema : source.entry.spec.schema = .text source.schema := rfl
  unfold resolvedCollection
  rw [isKey, schema, Table.get?_textual, key, plain]
  by_cases known : ∃ entry ∈ entries, entry.2.address = source.schema
  · obtain ⟨entry, entryMem, same⟩ := known
    obtain ⟨_, _, items, there, all⟩ := SchemaForm.of?_eq_some.mp (shows entry entryMem)
    obtain ⟨fields, rfl, areFields, fieldShows⟩ := exists_pairs all
    have only {other : SchemaForm} (otherMem : other ∈ entries.map Prod.snd)
        (sameAddress : other.address = source.schema) : other = entry.2 := by
      obtain ⟨otherEntry, otherEntryMem, rfl⟩ := List.mem_map.mp otherMem
      rw [List.inj_on_of_nodup_map distinct otherEntryMem entryMem (sameAddress.trans same.symm)]
    have resolved : source.form.ResolvedIn (entries.map Prod.snd) ↔
        source.key ≠ [] ∧ ∀ name ∈ source.key, name ∈ entry.2.fields.map FieldForm.name := by
      constructor
      · rintro ⟨schema, schemaMem, sameAddress, some_name, names⟩
        exact only schemaMem sameAddress ▸ ⟨some_name, names⟩
      · rintro ⟨some_name, names⟩
        exact ⟨entry.2, List.mem_map_of_mem entryMem, same, some_name, names⟩
    have hasName (name : String) : (Table.textual (Table.insertTexts []
        (fields.map fun field => (field.2.name, field.1)))).has (.text name) = true ↔
        name ∈ entry.2.fields.map FieldForm.name := by
      rw [Table.has_textual, Option.isSome_iff_ne_none, ne_eq, Table.lookup_insertTexts_eq_none, not_not,
        ← areFields, List.map_map, List.map_map]
      rfl
    rw [resolved, lookup_byAddress distinct entryMem same]
    simp only [Data.member_of_get? there, ok_bind, Data.items_list, Bool.not_true, Bool.false_eq_true,
      if_false]
    change (if (source.key.map Data.text).isEmpty then _ else
      Job.faulty (Table.keyedBy (fields.map Prod.fst) fun field => field.member "name") >>= _) = _ ↔ _
    rw [keyedBy_name fieldShows]
    cases none : (source.key.map Data.text).isEmpty with
    | true =>
        have none : source.key = [] := by simpa using none
        simp [none, throw, throwThe, MonadExceptOf.throw, bind, Except.bind]
    | false =>
        have some_name : source.key ≠ [] := by simpa using none
        have all : ((source.key.map Data.text).filter fun name => !Table.has (Table.textual
            (Table.insertTexts [] (fields.map fun field => (field.2.name, field.1)))) name) = [] ↔
            ∀ name ∈ source.key, name ∈ entry.2.fields.map FieldForm.name := by
          rw [List.filter_eq_nil_iff, List.forall_mem_map]
          simp only [Bool.not_eq_true', Bool.not_eq_false, hasName]
        change (if !((source.key.map Data.text).filter fun name => !Table.has _ name).isEmpty then _
          else _) = _ ↔ _
        rw [← all, and_iff_right some_name]
        cases (source.key.map Data.text).filter fun name => !Table.has _ name with
        | nil => simp [pure, Except.pure]
        | cons name others => simp [throw, throwThe, MonadExceptOf.throw]
  · have absent : (byAddress SchemaForm.address entries).lookup source.schema = none := by
      rw [Table.lookup_eq_none, keys_byAddress, List.mem_map]
      exact known
    rw [absent]
    constructor
    · intro resolved
      cases resolved
    · rintro ⟨schema, schemaMem, same, _⟩
      obtain ⟨entry, entryMem, rfl⟩ := List.mem_map.mp schemaMem
      exact (known ⟨entry, entryMem, same⟩).elim

theorem resolvedDispatch_eq_ok_iff (source : DispatchSource) :
    resolvedDispatch (Table.textual (byAddress SchemaForm.address entries)) source.entry = .ok () ↔
      source.form.ResolvedIn (entries.map Prod.snd) := by
  have there : Table.has (Table.textual (byAddress SchemaForm.address entries))
      (.text source.requestType) = true ↔ source.form.ResolvedIn (entries.map Prod.snd) := by
    rw [Table.has_textual, Option.isSome_iff_ne_none, ne_eq, Table.lookup_eq_none, not_not,
      keys_byAddress, List.mem_map]
    constructor
    · rintro ⟨entry, entryMem, same⟩
      exact ⟨entry.2, List.mem_map_of_mem entryMem, same⟩
    · rintro ⟨schema, schemaMem, same⟩
      obtain ⟨entry, entryMem, rfl⟩ := List.mem_map.mp schemaMem
      exact ⟨entry, entryMem, same⟩
  unfold resolvedDispatch
  change (if !Table.has (Table.textual (byAddress SchemaForm.address entries)) (.text source.requestType)
    then _ else _) = _ ↔ _
  rw [← there]
  cases Table.has (Table.textual (byAddress SchemaForm.address entries)) (.text source.requestType) with
  | true => simp [pure, Except.pure]
  | false => simp [throw, throwThe, MonadExceptOf.throw]

end Resolve

/-- Declarations together with the ids that a table has for their addresses. -/
theorem exists_numbered {α : Type} {sources : List α} {address : α → String}
    {ids : List (String × Data)} {fine : String → Int → Prop}
    (each : ∀ address' ∈ sources.map address, ∃ id : Int, ids.lookup address' = some (.int id) ∧
      fine address' id) :
    ∃ numbered : List (α × Int), numbered.map Prod.fst = sources ∧
      ∀ pair ∈ numbered, ids.lookup (address pair.1) = some (.int pair.2) ∧
        fine (address pair.1) pair.2 := by
  induction sources with
  | nil => exact ⟨[], rfl, by simp⟩
  | cons source rest ih =>
      rw [List.map_cons, List.forall_mem_cons] at each
      obtain ⟨⟨id, found, isFine⟩, others⟩ := each
      obtain ⟨numbered, rfl, all⟩ := ih others
      refine ⟨(source, id) :: numbered, rfl, ?_⟩
      rw [List.forall_mem_cons]
      exact ⟨⟨found, isFine⟩, all⟩

/-- The earlier entries without their ids. -/
theorem Earlier.entriesIn_fst {Form : Type} {of? : Data → Option Form} {section_ : String}
    {previous : Option Data} {olds : List (Form × Int)}
    (earlier : Earlier (NumberedRecord of?) section_ bound previous olds) :
    EntriesIn (fun value form => of? value = some form) section_ previous (olds.map Prod.fst) := by
  cases previous with
  | none =>
      obtain rfl : olds = [] := earlier
      rfl
  | some manifest =>
      obtain ⟨items, there, all⟩ := earlier.records
      refine ⟨items, there, ?_⟩
      rw [List.forall₂_map_right_iff]
      exact all.imp fun _ _ record => record.shows

namespace Numbered

/-- How the declarations of a kind are given to a stage, and how their entries are read. -/
structure Reading {α : Type} (kind : Numbered α) (σ Form : Type) where
  /-- A declaration as a stage sees it. -/
  entry : σ → Entry α
  /-- What a declaration says. -/
  form : σ → Form
  /-- What an entry says. -/
  of? : Data → Option Form
  /-- The full name of a declaration. -/
  address : Form → String
  /-- A form with its texts joined. -/
  joined : Form → Form
  /-- A declaration refers to some schemas as it has to. -/
  ResolvedIn : List SchemaForm → Form → Prop
  /-- What a declaration refers to stays there when the schemas are extended. -/
  resolved_mono : ∀ {schemas others form}, AreExtended schemas others → ResolvedIn schemas form →
    ResolvedIn others form
  /-- What a declaration refers to on disk is found there also when its texts are joined. -/
  resolved_joined : ∀ {schemas form}, (∀ schema ∈ schemas, SchemaForm.joined schema = schema) →
    ResolvedIn schemas form → ResolvedIn schemas (joined form)
  /-- The address is joined as the other texts. -/
  address_joined : ∀ form, address (joined form) = Text.joined (address form)
  /-- A form whose texts are joined has nothing left to join. -/
  joined_joined : ∀ form, joined (joined form) = joined form
  /-- The section is told from the version. -/
  keys : AreKeys ["version", kind.section_]
  /-- An entry has its address. -/
  addressed : ∀ {value form}, of? value = some form → value.get? "fqn" = some (.text (address form))
  /-- A declaration is addressed as its form. -/
  addressOf_entry : ∀ source, kind.addressOf (entry source) = address (form source)
  /-- An entry without an id says what its declaration says. -/
  shows : ∀ source, of? (.object (kind.members (entry source))) = some (form source)
  /-- An entry is checked by what it refers to. -/
  checked : ∀ {entries : List (Data × SchemaForm)},
    (∀ entry ∈ entries, SchemaForm.of? entry.1 = some entry.2) →
    (entries.map fun entry => entry.2.address).Nodup → ∀ source,
    (kind.check (Table.textual (byAddress SchemaForm.address entries)) (entry source) = .ok () ↔
      ResolvedIn (entries.map Prod.snd) (form source))
  /-- Manifests are compared without a breaking change if the later one keeps the earlier entries. -/
  compared : ∀ {previous entries olds news},
    EntriesIn (fun value form => of? value = some form) kind.section_ previous olds →
    List.Forall₂ (fun entry form => of? entry = some form) entries news →
    (olds.map address).Nodup → (news.map address).Nodup →
    ∃ changes, kind.diff (orEmpty previous) (.object [(kind.section_, .list entries)]) = .ok changes ∧
      (breaking changes = [] ↔ ∀ old ∈ olds, old ∈ news)
  /-- An entry with an id has a text. -/
  isTree : ∀ {bound : Nat}, bound < Text.leastUnshown → ∀ source {id : Int},
    0 ≤ id ∧ id ≤ bound → IsTree 3 (.object (kind.members (entry source) ++ [("id", .int id)]))
  /-- An entry with an id is read back with its texts joined. -/
  reread : ∀ source {bound : Nat} {id : Int}, 0 ≤ id ∧ id ≤ bound →
    NumberedRecord of? bound
      (Json.reread layout (.object (kind.members (entry source) ++ [("id", .int id)])))
      (joined (form source), id)

/-- Collections are read by their forms. -/
def collectionReading : collections.Reading CollectionSource CollectionForm where
  entry := CollectionSource.entry
  form := CollectionSource.form
  of? := CollectionForm.of?
  address := CollectionForm.address
  joined := CollectionForm.joined
  ResolvedIn := CollectionForm.ResolvedIn
  resolved_mono extended resolved := CollectionForm.ResolvedIn.mono extended resolved
  resolved_joined settled resolved := CollectionForm.ResolvedIn.joined settled resolved
  address_joined _ := rfl
  joined_joined := CollectionForm.joined_joined
  keys := Json.areKeys_of_subset (by decide) (by decide)
  addressed isForm := (CollectionForm.of?_eq_some.mp isForm).1
  addressOf_entry _ := rfl
  shows := CollectionSource.of?_collectionData
  checked := resolvedCollection_eq_ok_iff
  compared oldShows newShows := diffCollections_of_forms oldShows.lists (lists_object _ newShows)
  isTree shown source _ small := source.isTree_record shown small
  reread source _ _ small := source.reread_record layout small

/-- Dispatches are read by their forms. -/
def dispatchReading : dispatches.Reading DispatchSource DispatchForm where
  entry := DispatchSource.entry
  form := DispatchSource.form
  of? := DispatchForm.of?
  address := DispatchForm.address
  joined := DispatchForm.joined
  ResolvedIn := DispatchForm.ResolvedIn
  resolved_mono extended resolved := DispatchForm.ResolvedIn.mono extended resolved
  resolved_joined settled resolved := DispatchForm.ResolvedIn.joined settled resolved
  address_joined _ := rfl
  joined_joined := DispatchForm.joined_joined
  keys := Json.areKeys_of_subset (by decide) (by decide)
  addressed isForm := (DispatchForm.of?_eq_some.mp isForm).1
  addressOf_entry _ := rfl
  shows := DispatchSource.of?_dispatchData
  checked _ _ source := resolvedDispatch_eq_ok_iff source
  compared oldShows newShows := diffDispatches_of_forms oldShows.lists (lists_object _ newShows)
  isTree shown source _ small := source.isTree_record shown small
  reread source _ _ small := source.reread_record layout small

namespace Reading

variable {α σ Form : Type} {kind : Numbered α} (reading : kind.Reading σ Form)

/-- The entry for a declaration with an id. -/
def record (source : σ) (id : Int) : Data :=
  .object (kind.members (reading.entry source) ++ [("id", .int id)])

/-- There is a plan exactly if all declarations are resolved and the earlier ones are kept. -/
theorem plan_of_sources {entries : List (Data × SchemaForm)} {sources : List σ}
    {previous : Option Data} {olds : List (Form × Int)}
    (shows : ∀ entry ∈ entries, SchemaForm.of? entry.1 = some entry.2)
    (schemasDistinct : (entries.map fun entry => entry.2.address).Nodup)
    (earlier : Earlier (NumberedRecord reading.of?) kind.section_ bound previous olds)
    (oldDistinct : (olds.map fun old => reading.address old.1).Nodup)
    (newDistinct : (sources.map fun source => reading.address (reading.form source)).Nodup) :
    ((∀ source ∈ sources, reading.ResolvedIn (entries.map Prod.snd) (reading.form source)) ∧
      (∀ old ∈ olds, old.1 ∈ sources.map reading.form) ∧
      ∃ version : Nat, ∃ numbered : List (σ × Int),
        kind.plan false (Table.textual (byAddress SchemaForm.address entries))
            (sources.map reading.entry) previous =
          .ok ((version : Int), numbered.map fun pair => reading.record pair.1 pair.2) ∧
        version ≤ bound + 1 ∧ numbered.map Prod.fst = sources ∧
        ∀ pair ∈ numbered, (0 ≤ pair.2 ∧ pair.2 ≤ (bound + sources.length : Nat)) ∧
          ∀ old ∈ olds, reading.address old.1 = reading.address (reading.form pair.1) →
            old.2 = pair.2) ∨
    (¬((∀ source ∈ sources, reading.ResolvedIn (entries.map Prod.snd) (reading.form source)) ∧
      ∀ old ∈ olds, old.1 ∈ sources.map reading.form) ∧
      ∃ error, kind.plan false (Table.textual (byAddress SchemaForm.address entries))
        (sources.map reading.entry) previous = .error error) := by
  have resolves : (sources.map reading.entry).forM
      (kind.check (Table.textual (byAddress SchemaForm.address entries))) = .ok ⟨⟩ ↔
      ∀ source ∈ sources, reading.ResolvedIn (entries.map Prod.snd) (reading.form source) := by
    rw [forM_eq_ok_iff, List.forall_mem_map]
    exact forall₂_congr fun source _ => reading.checked shows schemasDistinct source
  have newShows : List.Forall₂ (fun entry form => reading.of? entry = some form)
      ((sources.map reading.entry).map fun entry => .object (kind.members entry))
      (sources.map reading.form) := by
    rw [List.forall₂_map_left_iff, List.forall₂_map_left_iff, List.forall₂_map_right_iff]
    exact List.forall₂_same.mpr fun source _ => reading.shows source
  obtain ⟨changes, compared, breaks⟩ := reading.compared earlier.entriesIn_fst newShows
    (by rwa [List.map_map]) (by rwa [List.map_map])
  obtain ⟨version, isVersion, small⟩ := exists_nextVersion earlier changes
  have addresses : (sources.map reading.entry).map kind.addressOf =
      sources.map fun source => reading.address (reading.form source) := by
    rw [List.map_map]
    exact List.map_congr_left fun source _ => reading.addressOf_entry source
  obtain ⟨ids, areIds, each⟩ := exists_sectionIds reading.addressed earlier oldDistinct newDistinct
  obtain ⟨numbered, rfl, numbers⟩ := exists_numbered each
  rw [List.forall_mem_map] at breaks
  by_cases resolved : ∀ source ∈ numbered.map Prod.fst, reading.ResolvedIn (entries.map Prod.snd) (reading.form source)
  · have checked := resolves.mpr resolved
    by_cases kept : ∀ old ∈ olds, old.1 ∈ (numbered.map Prod.fst).map reading.form
    · refine Or.inl ⟨resolved, kept, version, numbered, ?_, small, rfl, fun pair pairMem => ?_⟩
      · have allowed := permitted_eq_ok_iff.mpr (breaks.mpr kept)
        have records : kind.withIds (Table.textual ids) ((numbered.map Prod.fst).map reading.entry) =
            numbered.map fun pair => reading.record pair.1 pair.2 := by
          rw [withIds, List.map_map, List.map_map]
          refine List.map_congr_left fun pair pairMem => ?_
          simp only [Function.comp_apply, reading.addressOf_entry, Table.get?_textual,
            (numbers pair pairMem).1]
          rfl
        unfold plan
        rw [checked, ok_bind, compared, addresses]
        simp only [Job.faulty, ok_bind, allowed, isVersion, areIds, records]
        rfl
      · have number := (numbers pair pairMem).2
        rwa [List.length_map] at number
    · refine Or.inr ⟨fun both => kept both.2, ?_⟩
      unfold plan
      rw [checked, ok_bind, compared]
      simp only [Job.faulty, ok_bind]
      cases refused : permitted false changes with
      | error error => exact ⟨error, rfl⟩
      | ok => exact (kept (breaks.mp (permitted_eq_ok_iff.mp refused))).elim
  · refine Or.inr ⟨fun both => resolved both.1, ?_⟩
    unfold plan
    cases refused : ((numbered.map Prod.fst).map reading.entry).forM
        (kind.check (Table.textual (byAddress SchemaForm.address entries))) with
    | error error => exact ⟨error, rfl⟩
    | ok => exact (resolved (resolves.mp refused)).elim

end Reading

end Numbered

end Manifest

end SpecGraph
