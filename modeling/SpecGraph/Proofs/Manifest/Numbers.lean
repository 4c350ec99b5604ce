import SpecGraph.Proofs.Manifest.Written

/-!
# The numbers of a manifest

The version of a manifest is one at first and grows by at most one, and a schema or field has this version or
keeps an earlier one. A collection or dispatch that was there before keeps its id, and the ids of new ones
follow the greatest earlier one. So the numbers of a manifest stay below a bound that grows by one and by
the number of its entries.
-/

namespace SpecGraph

namespace Manifest

variable {Form : Type} {Record : Nat → Data → Form → Prop} {section_ : String} {bound : Nat}

/-- The version of a manifest stays without changes, and grows by one with them. -/
theorem nextVersion_of_version {manifest : Data} {version : Int}
    (there : manifest.get? "version" = some (.int version)) (changes : List Change) :
    nextVersion (some manifest) changes = .ok (if changes.isEmpty then version else version + 1) := by
  unfold nextVersion
  simp only [Data.memberOr_of_get? there, ok_bind]
  rfl

/-- The next version is a number that is at most one greater. -/
theorem exists_nextVersion {previous : Option Data} {forms : List Form}
    (earlier : Earlier Record section_ bound previous forms) (changes : List Change) :
    ∃ version : Nat, nextVersion previous changes = .ok (version : Int) ∧ version ≤ bound + 1 := by
  cases previous with
  | none => exact ⟨1, rfl, Nat.succ_le_succ (Nat.zero_le _)⟩
  | some manifest =>
      obtain ⟨number, small, there⟩ := earlier.version
      rw [nextVersion_of_version there]
      cases changes.isEmpty with
      | true => exact ⟨number, rfl, by omega⟩
      | false => exact ⟨number + 1, rfl, by omega⟩

/-- Unless a change is at a path or below it, a version is that of the earlier form. -/
def KeepsVersion (changes : List Change) (path : String) (earlier : Option Data) (version : Nat) : Prop :=
  isTouched changes path = false → ∀ old ∈ earlier, old.get? "version" = some (.int version)

theorem exists_keptVersion {version : Nat} (small : version ≤ bound + 1) (changes : List Change)
    (path : String) {earlier : Option Data}
    (numbered : ∀ old ∈ earlier, HasNumber bound old "version") :
    ∃ kept : Nat, keptVersion version changes path earlier = .ok (.int kept) ∧ kept ≤ bound + 1 ∧
      KeepsVersion changes path earlier kept := by
  cases earlier with
  | none => exact ⟨version, rfl, small, fun _ _ absent => by cases absent⟩
  | some old =>
      obtain ⟨number, less, there⟩ := numbered old rfl
      unfold keptVersion KeepsVersion
      cases isTouched changes path with
      | true => exact ⟨version, rfl, small, fun untouched => by cases untouched⟩
      | false =>
          refine ⟨number, Data.member_of_get? there, by omega, fun _ other isOld => ?_⟩
          cases isOld
          exact there

/-- What is touched has the new version, and so has what is new. -/
theorem keptVersion_of_touched (version : Int) {changes : List Change} {path : String}
    (touched : isTouched changes path = true) (earlier : Option Data) :
    keptVersion version changes path earlier = .ok (.int version) := by
  cases earlier with
  | none => rfl
  | some old =>
      rw [keptVersion, if_pos touched]
      rfl

/-- A version that is not beyond that of its manifest is not beyond that of the next one. -/
theorem le_of_keptVersion {version kept : Nat} (less : bound ≤ version) {changes : List Change} {path : String}
    {earlier : Option Data} (numbered : ∀ old ∈ earlier, HasNumber bound old "version")
    (isKept : keptVersion version changes path earlier = .ok (.int kept)) : kept ≤ version := by
  cases earlier with
  | none =>
      cases isKept
      exact Nat.le_refl _
  | some old =>
      rcases numbered old rfl with ⟨number, small, there⟩
      rw [keptVersion, Data.member_of_get? there] at isKept
      split at isKept
      · cases isKept
        exact Nat.le_refl _
      · cases isKept
        exact small.trans less

/-- The fields of an earlier schema by name. -/
def earlierFields : Option Data → Except Fault (Table Data)
  | none => pure []
  | some schema => do
      Table.keyedBy (← (← schema.member "fields").items) fun field => field.member "name"

theorem exists_earlierFields {earlier : Option Data}
    (recorded : ∀ old ∈ earlier, ∃ form, SchemaRecord bound old form) :
    ∃ fields, earlierFields earlier = .ok fields ∧
      ∀ name : String, ∀ old ∈ fields.get? (.text name), HasNumber bound old "version" := by
  cases earlier with
  | none => exact ⟨[], rfl, fun _ _ absent => by cases absent⟩
  | some schema =>
      obtain ⟨form, record⟩ := recorded schema rfl
      obtain ⟨items, there, all⟩ := record.fields
      obtain ⟨fields, rfl, _, records⟩ := exists_pairs all
      have keyed := keyedBy_name fun field fieldMem => (records field fieldMem).shows
      refine ⟨Table.textual (Table.insertTexts [] (fields.map fun field => (field.2.name, field.1))), ?_,
        fun name old found => ?_⟩
      · rw [earlierFields, Data.member_of_get? there]
        exact keyed
      · rw [Option.mem_def, Table.get?_textual] at found
        obtain ⟨field, fieldMem, same⟩ := List.mem_map.mp (Table.mem_of_lookup_insertTexts found)
        obtain ⟨_, rfl⟩ := Prod.mk.inj same
        exact (records field fieldMem).version

/-- The record of a field of a schema with an earlier form. -/
def versionedField (version : Int) (changes : List Change) (path : String) (oldFields : Table Data)
    (field : FieldSpec) : Except Fault Data := do
  if !field.name.isKey then throw .wrongKind
  let kept ← keptVersion version changes (fieldPath path field.name) (oldFields.get? field.name)
  return .object (field.members ++ [("version", kept)])

theorem versionedField_toSpec (version : Int) (changes : List Change) (path : String) (oldFields : Table Data)
    (field : FieldForm) :
    versionedField version changes path oldFields field.toSpec =
      keptVersion version changes (fieldPath path (.text field.name)) (oldFields.get? (.text field.name)) >>=
        fun kept => .ok (.object (field.toSpec.members ++ [("version", kept)])) := rfl

theorem versionedSchema_eq (version : Int) (changes : List Change) (oldSchemas : Table Data)
    (entry : Entry SchemaSpec) :
    versionedSchema version changes oldSchemas entry = (do
      let path := "Schema:" ++ addressOf entry.space entry.spec.name
      let old := oldSchemas.get? (.text (addressOf entry.space entry.spec.name))
      let oldFields ← earlierFields old
      let own ← keptVersion version changes path old
      let fields ← entry.spec.fields.mapM (versionedField version changes path oldFields)
      return .object (schemaMembers entry fields ++ [("version", own)])) := by
  unfold versionedSchema
  dsimp only
  cases oldSchemas.get? (.text (addressOf entry.space entry.spec.name)) with
  | none => rfl
  | some schema =>
      simp only [earlierFields, bind_assoc]
      rfl

/-- The entry for a schema is its record with a version, and so are the entries for its fields. Each version
is kept unless something changed. -/
theorem exists_versionedSchema {version : Nat} (small : version ≤ bound + 1) (changes : List Change)
    {oldSchemas : Table Data}
    (recorded : ∀ address : String, ∀ old ∈ oldSchemas.get? (.text address),
      ∃ form, SchemaRecord bound old form)
    (source : SchemaSource) :
    ∃ oldFields fields, ∃ own : Nat,
      earlierFields (oldSchemas.get? (.text source.form.address)) = .ok oldFields ∧
      versionedSchema version changes oldSchemas source.entry = .ok (source.record fields own) ∧
      (own ≤ bound + 1 ∧ KeepsVersion changes ("Schema:" ++ source.form.address)
        (oldSchemas.get? (.text source.form.address)) own) ∧
      List.Forall₂ (fun value field => ∃ version : Nat,
        (version ≤ bound + 1 ∧ value = FieldForm.record field version) ∧
        KeepsVersion changes (fieldPath ("Schema:" ++ source.form.address) (.text field.name))
          (oldFields.get? (.text field.name)) version) fields source.fields := by
  have old := recorded source.form.address
  obtain ⟨oldFields, areFields, numbered⟩ := exists_earlierFields old
  obtain ⟨own, isOwn, ownSmall, ownKept⟩ := exists_keptVersion small changes
    ("Schema:" ++ source.form.address) fun schema found => by
      obtain ⟨form, record⟩ := old schema found
      exact record.version
  have each : ∀ field ∈ source.fields, ∃ value,
      versionedField version changes ("Schema:" ++ source.form.address) oldFields field.toSpec = .ok value ∧
      ∃ version : Nat, (version ≤ bound + 1 ∧ value = field.record version) ∧
        KeepsVersion changes (fieldPath ("Schema:" ++ source.form.address) (.text field.name))
          (oldFields.get? (.text field.name)) version := by
    intro field _
    obtain ⟨kept, isKept, keptSmall, keeps⟩ := exists_keptVersion small changes (fieldPath
      ("Schema:" ++ source.form.address) (.text field.name)) (numbered field.name)
    refine ⟨field.record kept, ?_, kept, ⟨keptSmall, rfl⟩, keeps⟩
    rw [versionedField_toSpec, isKept, ok_bind]
    rfl
  obtain ⟨fields, versioned, records⟩ := exists_mapM each
  refine ⟨oldFields, fields, own, areFields, ?_, ⟨ownSmall, ownKept⟩, records.flip⟩
  have address : addressOf source.entry.space source.entry.spec.name = source.form.address := rfl
  have specs : source.entry.spec.fields = source.fields.map FieldForm.toSpec := rfl
  rw [versionedSchema_eq]
  dsimp only
  rw [address, specs, areFields, ok_bind, isOwn, ok_bind, List.mapM_map]
  change (source.fields.mapM (fun field => versionedField _ _ _ _ field.toSpec) >>= _) = _
  rw [versioned]
  rfl

theorem exceeds_int (left right : Int) :
    (Data.int left).exceeds (.int right) = .ok (decide (right < left)) := by
  have isBefore : Data.isBefore? (.int right) (.int left) = some (decide (right < left)) := by
    simp only [Data.isBefore?, Data.isTreeBefore?, Data.expanded, Data.unmarked, Data.isNumber,
      Data.compareNumbers, Data.integer?, Binary64.signOf, Bool.and_self, if_true]
    by_cases less : right < left
    · simp [less]
    · by_cases same : right = left <;> simp [less, same]
  unfold Data.exceeds
  rw [isBefore]
  rfl

/-- The greatest of some numbers, or zero if there are none. -/
def greatestNumber (numbers : List Int) : Int := numbers.max?.getD 0

theorem greatestFrom_int (best : Int) (numbers : List Int) :
    Data.greatestFrom (.int best) (numbers.map .int) = .ok (.int (numbers.foldl max best)) := by
  induction numbers generalizing best with
  | nil => rfl
  | cons number rest ih =>
      rw [List.map_cons, Data.greatestFrom, exceeds_int, ok_bind, List.foldl_cons]
      by_cases exceeds : best < number
      · rw [decide_eq_true exceeds, Int.max_eq_right (Int.le_of_lt exceeds)]
        exact ih number
      · rw [decide_eq_false exceeds, Int.max_eq_left (Int.not_lt.mp exceeds)]
        exact ih best

theorem greatest_int (numbers : List Int) :
    Data.greatest (numbers.map .int) = .ok (.int (greatestNumber numbers)) := by
  cases numbers with
  | nil => rfl
  | cons first rest =>
      rw [greatestNumber, List.max?_cons']
      exact greatestFrom_int first rest

theorem le_greatestNumber {numbers : List Int} {number : Int} (numberMem : number ∈ numbers) :
    number ≤ greatestNumber numbers := by
  cases isGreatest : numbers.max? with
  | none =>
      rw [List.max?_eq_none_iff.mp isGreatest] at numberMem
      cases numberMem
  | some greatest =>
      rw [greatestNumber, isGreatest]
      exact (List.max?_eq_some_iff.mp isGreatest).2 number numberMem

/-- The greatest of some numbers is one of them unless there are none. -/
theorem greatestNumber_small {numbers : List Int} (small : ∀ number ∈ numbers, 0 ≤ number ∧ number ≤ bound) :
    0 ≤ greatestNumber numbers ∧ greatestNumber numbers ≤ bound := by
  unfold greatestNumber
  cases isGreatest : numbers.max? with
  | none => exact ⟨Int.le_refl _, Int.natCast_nonneg _⟩
  | some greatest => exact small greatest (List.max?_eq_some_iff.mp isGreatest).1

/-- Ids by address as a table. -/
def idTable (ids : List (String × Int)) : Table Data :=
  Table.textual (ids.map fun entry => (entry.1, .int entry.2))

theorem keys_ids (ids : List (String × Int)) :
    (ids.map fun entry => (entry.1, Data.int entry.2)).map Prod.fst = ids.map Prod.fst := by
  rw [List.map_map]
  rfl

theorem lookup_ids {ids : List (String × Int)} (distinct : (ids.map Prod.fst).Nodup) {entry : String × Int}
    (entryMem : entry ∈ ids) :
    (ids.map fun entry => (entry.1, Data.int entry.2)).lookup entry.1 = some (.int entry.2) :=
  Table.lookup_of_mem (keys_ids ids ▸ distinct) (List.mem_map.mpr ⟨entry, entryMem, rfl⟩)

/-- Ids that are given to addresses where others were given before: an address keeps its id, and new ones get
different ids from a number on. -/
structure AreGiven (next limit : Int) (olds news : List (String × Int)) : Prop where
  /-- A known address keeps its id. -/
  kept : ∀ new ∈ news, ∀ old ∈ olds, old.1 = new.1 → new.2 = old.2
  /-- A new address has an id from the number on. -/
  fresh : ∀ new ∈ news, new.1 ∉ olds.map Prod.fst → next ≤ new.2
  /-- Two new addresses have different ids. -/
  apart : news.Pairwise fun first second => first.1 ∉ olds.map Prod.fst → second.1 ∉ olds.map Prod.fst →
    first.2 ≠ second.2
  /-- No id is beyond a limit. -/
  small : ∀ new ∈ news, 0 ≤ new.2 ∧ new.2 ≤ limit

theorem AreGiven.nil (next limit : Int) (olds : List (String × Int)) : AreGiven next limit olds [] :=
  ⟨by simp, by simp, List.Pairwise.nil, by simp⟩

/-- One more address gets its known id. -/
theorem AreGiven.cons_known {next limit : Int} {olds news : List (String × Int)} (given : AreGiven next limit olds news)
    (distinct : (olds.map Prod.fst).Nodup) {entry : String × Int} (known : entry ∈ olds)
    (small : 0 ≤ entry.2 ∧ entry.2 ≤ limit) : AreGiven next limit olds (entry :: news) where
  kept := by
    rw [List.forall_mem_cons]
    refine ⟨fun old oldMem same => ?_, given.kept⟩
    rw [List.inj_on_of_nodup_map distinct oldMem known same]
  fresh := by
    rw [List.forall_mem_cons]
    exact ⟨fun new => (new (List.mem_map_of_mem known)).elim, given.fresh⟩
  apart := given.apart.cons fun _ _ new => (new (List.mem_map_of_mem known)).elim
  small := List.forall_mem_cons.mpr ⟨small, given.small⟩

/-- One more address gets the number, and further ones get ids after it. -/
theorem AreGiven.cons_new {next limit : Int} {olds news : List (String × Int)}
    (given : AreGiven (next + 1) limit olds news) {address : String} (new : address ∉ olds.map Prod.fst)
    (small : 0 ≤ next ∧ next ≤ limit) : AreGiven next limit olds ((address, next) :: news) where
  kept := by
    rw [List.forall_mem_cons]
    exact ⟨fun old oldMem same => (new (List.mem_map.mpr ⟨old, oldMem, same⟩)).elim, given.kept⟩
  fresh := by
    rw [List.forall_mem_cons]
    refine ⟨fun _ => Int.le_refl _, fun other otherMem isNew => ?_⟩
    have beyond := given.fresh other otherMem isNew
    omega
  apart := given.apart.cons fun other otherMem _ isNew same => by
    have beyond := given.fresh other otherMem isNew
    have same : next = other.2 := same
    omega
  small := List.forall_mem_cons.mpr ⟨small, given.small⟩

/-- Ids of addresses: the known one, or else the next number. -/
def assigned (known : List (String × Int)) : (next : Int) → (addresses : List String) → List (String × Int)
  | _, [] => []
  | next, address :: rest =>
      match known.lookup address with
      | some id => (address, id) :: assigned known next rest
      | none => (address, next) :: assigned known (next + 1) rest

theorem lookup_map_int (ids : List (String × Int)) (address : String) :
    (ids.map fun entry => (entry.1, Data.int entry.2)).lookup address = (ids.lookup address).map .int := by
  induction ids with
  | nil => rfl
  | cons entry rest ih =>
      rw [List.map_cons, List.lookup_cons, List.lookup_cons, ih]
      cases address == entry.1 <;> rfl

theorem assignIds_idTable (known : List (String × Int)) (next : Int) (addresses : List String) :
    assignIds (idTable known) (.int next) addresses = .ok (idTable (assigned known next addresses)) := by
  induction addresses generalizing next with
  | nil => rfl
  | cons address rest ih =>
      rw [assignIds, assigned, idTable, Table.get?_textual, lookup_map_int, ← idTable]
      cases known.lookup address with
      | some id =>
          change (assignIds (idTable known) (.int next) rest >>= _) = _
          rw [ih]
          rfl
      | none =>
          change (assignIds (idTable known) (.int (next + 1)) rest >>= _) = _
          rw [ih]
          rfl

section Assigned

variable {known : List (String × Int)} {next : Int} {address : String} {rest : List String}

theorem assigned_cons_of_mem (distinct : (known.map Prod.fst).Nodup) {id : Int} (there : (address, id) ∈ known) :
    assigned known next (address :: rest) = (address, id) :: assigned known next rest := by
  rw [assigned, Table.lookup_of_mem distinct there]

theorem assigned_cons_of_not_mem (new : address ∉ known.map Prod.fst) :
    assigned known next (address :: rest) = (address, next) :: assigned known (next + 1) rest := by
  rw [assigned, Table.lookup_eq_none.mpr new]

end Assigned

theorem map_fst_assigned (known : List (String × Int)) (next : Int) (addresses : List String) :
    (assigned known next addresses).map Prod.fst = addresses := by
  induction addresses generalizing next with
  | nil => rfl
  | cons address rest ih =>
      rw [assigned]
      split <;> rw [List.map_cons, ih]

/-- Known addresses keep their ids, and the ids of new ones follow a number. -/
theorem areGiven_assigned {olds : List (String × Int)} (distinct : (olds.map Prod.fst).Nodup) {limit : Int}
    (oldSmall : ∀ old ∈ olds, 0 ≤ old.2 ∧ old.2 ≤ limit) (addresses : List String) (next : Int)
    (positive : 0 ≤ next) (room : next + addresses.length ≤ limit + 1) :
    AreGiven next limit olds (assigned olds next addresses) := by
  induction addresses generalizing next with
  | nil => exact AreGiven.nil next limit olds
  | cons address rest ih =>
      rw [List.length_cons] at room
      by_cases known : address ∈ olds.map Prod.fst
      · obtain ⟨old, oldMem, rfl⟩ := List.mem_map.mp known
        rw [assigned_cons_of_mem distinct oldMem]
        exact (ih next positive (by omega)).cons_known distinct oldMem (oldSmall old oldMem)
      · rw [assigned_cons_of_not_mem known]
        exact (ih (next + 1) (by omega) (by omega)).cons_new known ⟨positive, by omega⟩

/-- The ids that addresses get where some ids are known: new ones follow the greatest known id. -/
def givenIds (known : List (String × Int)) (addresses : List String) : List (String × Int) :=
  assigned known (greatestNumber (known.map Prod.snd) + 1) addresses

theorem small_of_earlier {of? : Data → Option Form} {previous : Option Data} {olds : List (Form × Int)}
    (earlier : Earlier (NumberedRecord of?) section_ bound previous olds) :
    ∀ old ∈ olds, 0 ≤ old.2 ∧ old.2 ≤ bound := by
  cases previous with
  | none =>
      obtain rfl : olds = [] := earlier
      simp
  | some manifest =>
      obtain ⟨_, _, all⟩ := earlier.records
      intro old oldMem
      obtain ⟨_, _, record⟩ := forall₂_exists_of_mem_right all oldMem
      exact record.small

/-- The known ids are those of the entries of a manifest, the later of two with one full name. -/
theorem knownIds_of_entries {manifest : Data} {entries : List (Data × String × Data)}
    (there : manifest.get? section_ = some (.list (entries.map Prod.fst)))
    (each : ∀ entry ∈ entries, entry.1.get? "fqn" = some (.text entry.2.1) ∧ entry.1.get? "id" = some entry.2.2) :
    knownIds (some manifest) section_ = .ok (Table.textual (Table.insertTexts [] (entries.map Prod.snd))) := by
  have found : (entries.map Prod.fst).mapM (fun entry => do
      return (← entry.member "fqn", ← entry.member "id")) =
      (.ok (Table.textual (entries.map Prod.snd)) : Except Fault (Table Data)) := by
    clear there
    induction entries with
    | nil => rfl
    | cons entry rest ih =>
        rcases each entry List.mem_cons_self with ⟨isAddress, isId⟩
        rw [List.map_cons, List.mapM_cons, Data.member_of_get? isAddress, Data.member_of_get? isId,
          ih fun other otherMem => each other (List.mem_cons_of_mem _ otherMem)]
        rfl
  have keys : ((Table.textual (entries.map Prod.snd)).all fun entry => entry.1.isKey) = true := by
    rw [List.all_eq_true]
    intro entry entryMem
    rcases List.mem_map.mp entryMem with ⟨_, _, rfl⟩
    rfl
  unfold knownIds
  simp only [Data.memberOr_of_get? there, ok_bind, Data.items_list, found, keys, if_true]
  change Except.ok (Table.ofEntries _) = _
  rw [Table.ofEntries_textual]

section Ids

variable {of? : Data → Option Form} {address : Form → String}
  (addressed : ∀ {value form}, of? value = some form →
    value.get? "fqn" = some (.text (address form)))
include addressed

/-- The known ids are those of the earlier entries. -/
theorem knownIds_eq {previous : Option Data} {olds : List (Form × Int)}
    (earlier : Earlier (NumberedRecord of?) section_ bound previous olds) :
    knownIds previous section_ =
      .ok (Table.textual (Table.insertTexts [] (olds.map fun old => (address old.1, .int old.2)))) := by
  cases previous with
  | none =>
      obtain rfl : olds = [] := earlier
      rfl
  | some manifest =>
      obtain ⟨items, there, all⟩ := earlier.records
      obtain ⟨entries, rfl, rfl, records⟩ := exists_pairs all
      let placed (entry : Data × Form × Int) : Data × String × Data :=
        (entry.1, address entry.2.1, .int entry.2.2)
      have known : knownIds (some manifest) section_ =
          .ok (Table.textual (Table.insertTexts [] ((entries.map placed).map Prod.snd))) := by
        apply knownIds_of_entries
        · rw [there, List.map_map]
          rfl
        · rw [List.forall_mem_map]
          exact fun entry entryMem => ⟨addressed (records entry entryMem).shows, (records entry entryMem).id⟩
      rw [known, List.map_map, List.map_map]
      rfl

theorem knownIds_of_earlier {previous : Option Data} {olds : List (Form × Int)}
    (earlier : Earlier (NumberedRecord of?) section_ bound previous olds)
    (distinct : (olds.map fun old => address old.1).Nodup) :
    knownIds previous section_ =
      .ok (Table.textual (olds.map fun old => (address old.1, .int old.2))) := by
  rw [knownIds_eq addressed earlier, Table.insertTexts_of_nodup [] _ (by simpa [Function.comp_def] using distinct)]
  rfl

/-- The ids of a section are given where those of the earlier entries are known, the later of two with one
full name. -/
theorem sectionIds_eq {previous : Option Data} {olds : List (Form × Int)}
    (earlier : Earlier (NumberedRecord of?) section_ bound previous olds) {addresses : List String}
    (apart : addresses.Nodup) :
    sectionIds previous section_ addresses =
      .ok (idTable (givenIds (Table.insertTexts [] (olds.map fun old => (address old.1, old.2))) addresses)) := by
  have isTable : Table.textual (Table.insertTexts [] (olds.map fun old => (address old.1, Data.int old.2))) =
      idTable (Table.insertTexts [] (olds.map fun old => (address old.1, old.2))) := by
    rw [idTable, Table.map_insertTexts, List.map_map]
    rfl
  have values (known : List (String × Int)) :
      (idTable known).map Prod.snd = (known.map Prod.snd).map Data.int := by
    simp [idTable, Table.textual, Function.comp_def]
  unfold sectionIds
  rw [knownIds_eq addressed earlier, ok_bind, isTable, values, greatest_int, ok_bind]
  change (assignIds _ (.int (_ + 1)) addresses >>= _) = _
  rw [assignIds_idTable, ok_bind, ← givenIds]
  change Except.ok (Table.ofEntries _) = _
  rw [idTable, Table.ofEntries_of_nodup _ (by rwa [keys_ids, givenIds, map_fst_assigned])]

/-- The ids of a section are those of the earlier entries, and new ones beyond them. -/
theorem exists_given {previous : Option Data} {olds : List (Form × Int)}
    (earlier : Earlier (NumberedRecord of?) section_ bound previous olds)
    (distinct : (olds.map fun old => address old.1).Nodup) {addresses : List String}
    (apart : addresses.Nodup) :
    ∃ news : List (String × Int), sectionIds previous section_ addresses = .ok (idTable news) ∧
      news.map Prod.fst = addresses ∧ ∃ next, (∀ old ∈ olds, old.2 < next) ∧
        AreGiven next (bound + addresses.length : Nat) (olds.map fun old => (address old.1, old.2)) news := by
  have small := small_of_earlier earlier
  have known : ((olds.map fun old => (address old.1, old.2)).map Prod.fst).Nodup := by
    rwa [List.map_map]
  have areIds := sectionIds_eq addressed earlier apart
  rw [Table.insertTexts_of_nodup [] _ known, List.nil_append] at areIds
  have knownSmall (known : String × Int) (knownMem : known ∈ olds.map fun old => (address old.1, old.2)) :
      0 ≤ known.2 ∧ known.2 ≤ bound := by
    obtain ⟨old, oldMem, rfl⟩ := List.mem_map.mp knownMem
    exact small old oldMem
  have greatest := greatestNumber_small (List.forall_mem_map.mpr knownSmall)
  refine ⟨_, areIds, map_fst_assigned _ _ _, _, fun old oldMem => ?_,
    areGiven_assigned known (fun known knownMem => ?_) addresses _ (by omega) (by omega)⟩
  · have there : (address old.1, old.2) ∈ olds.map fun old => (address old.1, old.2) :=
      List.mem_map.mpr ⟨old, oldMem, rfl⟩
    exact Int.lt_add_one_of_le (le_greatestNumber (List.mem_map.mpr ⟨_, there, rfl⟩))
  · have knownSmall := knownSmall known knownMem
    omega

/-- The ids of a section are numbers, and those of earlier entries are as they were. -/
theorem exists_sectionIds {previous : Option Data} {olds : List (Form × Int)}
    (earlier : Earlier (NumberedRecord of?) section_ bound previous olds)
    (distinct : (olds.map fun old => address old.1).Nodup) {addresses : List String}
    (apart : addresses.Nodup) :
    ∃ ids : List (String × Data), sectionIds previous section_ addresses = .ok (Table.textual ids) ∧
      ∀ address' ∈ addresses, ∃ id : Int, ids.lookup address' = some (.int id) ∧
        (0 ≤ id ∧ id ≤ (bound + addresses.length : Nat)) ∧
        ∀ old ∈ olds, address old.1 = address' → old.2 = id := by
  obtain ⟨news, areIds, rfl, _, _, given⟩ := exists_given addressed earlier distinct apart
  refine ⟨_, areIds, fun address' addressMem => ?_⟩
  obtain ⟨new, newMem, rfl⟩ := List.mem_map.mp addressMem
  refine ⟨new.2, lookup_ids apart newMem, given.small new newMem, fun old oldMem same => ?_⟩
  exact (given.kept new newMem _ (List.mem_map.mpr ⟨old, oldMem, rfl⟩) same).symm

end Ids

end Manifest

end SpecGraph
