import SpecGraph.Manifest.Compile
import SpecGraph.Proofs.Manifest.Diff

/-!
# When manifests are compatible

The entries of two manifests are matched by their addresses. No breaking change is found exactly if every
entry of the earlier manifest has one of the same address in the later manifest that extends it. A schema
extends another one as its fields do; a collection or dispatch extends only itself.
-/

namespace SpecGraph

namespace Manifest

variable {Form : Type}

/-- The entries in a section of a manifest are related to some forms. An absent manifest has no entries. -/
def EntriesIn (Relates : Data → Form → Prop) (section_ : String) : Option Data → List Form → Prop
  | none, forms => forms = []
  | some manifest, forms => ∃ items, manifest.get? section_ = some (.list items) ∧
      List.Forall₂ Relates items forms

/-- A manifest lists forms in a section: its entries there are related to the forms. Without the section it
lists none. -/
def Lists (Relates : Data → Form → Prop) (section_ : String) (manifest : Data) (forms : List Form) : Prop :=
  ∃ items, manifest.memberOr section_ (.list []) = .ok (.list items) ∧ List.Forall₂ Relates items forms

theorem isTruthy_of_get? {value found : Data} {name : String} (there : value.get? name = some found) :
    value.isTruthy = true := by
  unfold Data.get? at there
  unfold Data.isTruthy
  split at there
  · next entries bare =>
      rw [bare]
      cases entries with
      | nil => cases there
      | cons entry rest => rfl
  · cases there

theorem lists_nil (Relates : Data → Form → Prop) (section_ : String) :
    Lists Relates section_ (.object []) [] :=
  ⟨[], rfl, List.Forall₂.nil⟩

theorem EntriesIn.lists {Relates : Data → Form → Prop} {section_ : String} {manifest : Option Data}
    {forms : List Form} (inSection : EntriesIn Relates section_ manifest forms) :
    Lists Relates section_ (orEmpty manifest) forms := by
  cases manifest with
  | none =>
      obtain rfl : forms = [] := inSection
      exact lists_nil Relates section_
  | some manifest =>
      rcases inSection with ⟨items, there, related⟩
      refine ⟨items, ?_, related⟩
      rw [orEmpty, if_pos (isTruthy_of_get? there), Data.memberOr_of_get? there]

theorem lists_object {Relates : Data → Form → Prop} (section_ : String) {entries : List Data}
    {forms : List Form} (related : List.Forall₂ Relates entries forms) :
    Lists Relates section_ (.object [(section_, .list entries)]) forms := by
  refine ⟨entries, Data.memberOr_of_get? ?_ _, related⟩
  rw [Data.get?_object, List.lookup_cons, beq_self_eq_true]

/-- Entries with their forms as a table by address. -/
def byAddress (address : Form → String) (entries : List (Data × Form)) : List (String × Data) :=
  entries.map fun entry => (address entry.2, entry.1)

theorem keys_byAddress (address : Form → String) (entries : List (Data × Form)) :
    (byAddress address entries).map Prod.fst = entries.map fun entry => address entry.2 := by
  rw [byAddress, List.map_map]
  rfl

theorem textual_byAddress (address : Form → String) (entries : List (Data × Form)) :
    Table.textual (byAddress address entries) =
      entries.map fun entry => (.text (address entry.2), entry.1) := by
  rw [byAddress, Table.textual, List.map_map]
  rfl

/-- The table of entries by address has under each address the last entry that has it. -/
theorem get?_byAddress (address : Form → String) (entries : List (Data × Form)) (key : String) :
    (Table.textual (Table.insertTexts [] (byAddress address entries))).get? (.text key) =
      (Table.lastOf? (fun entry : Data × Form => address entry.2) entries key).map Prod.fst := by
  rw [Table.get?_textual]
  exact Table.lookup_insertTexts_map _ _ _ _

section Index

variable {Relates : Data → Form → Prop} (address : Form → String)
  (addressed : ∀ {value form}, Relates value form → value.get? "fqn" = some (.text (address form)))
include addressed

/-- The index of a section is a table of its entries by the addresses of their forms. -/
theorem exists_index {section_ : String} {manifest : Data} {forms : List Form}
    (lists : Lists Relates section_ manifest forms) :
    ∃ entries : List (Data × Form), entries.map Prod.snd = forms ∧
      (∀ entry ∈ entries, Relates entry.1 entry.2) ∧
      index manifest section_ = .ok (Table.textual (Table.insertTexts [] (byAddress address entries))) := by
  obtain ⟨items, there, all⟩ := lists
  obtain ⟨entries, rfl, rfl, related⟩ := exists_pairs all
  refine ⟨entries, rfl, related, ?_⟩
  unfold index
  rw [there]
  simp only [ok_bind, Data.items_list]
  exact Table.keyedBy_map fun entry entryMem => Data.member_of_get? (addressed (related entry entryMem))

/-- The index of a section has the entries by the addresses of their forms. -/
theorem index_of_lists {section_ : String} {manifest : Data} {forms : List Form}
    (lists : Lists Relates section_ manifest forms) (distinct : (forms.map address).Nodup) :
    ∃ entries : List (Data × Form), entries.map Prod.snd = forms ∧
      (∀ entry ∈ entries, Relates entry.1 entry.2) ∧
      index manifest section_ = .ok (Table.textual (byAddress address entries)) := by
  obtain ⟨entries, rfl, related, indexed⟩ := exists_index address addressed lists
  refine ⟨entries, rfl, related, ?_⟩
  have keys : ((byAddress address entries).map Prod.fst).Nodup := by
    rw [keys_byAddress]
    simpa [Function.comp_def] using distinct
  rw [indexed, Table.insertTexts_of_nodup [] (byAddress address entries) keys, List.nil_append]

/-- What the index of a section has is an entry of the section. -/
theorem exists_of_index {section_ : String} {manifest : Data} {forms : List Form}
    (lists : Lists Relates section_ manifest forms) {table : Table Data}
    (indexed : index manifest section_ = .ok table) {key : String} {value : Data}
    (found : value ∈ table.get? (.text key)) : ∃ form ∈ forms, Relates value form := by
  obtain ⟨entries, rfl, related, isIndex⟩ := exists_index address addressed lists
  cases indexed.symm.trans isIndex
  rw [Option.mem_def, Table.get?_textual] at found
  obtain ⟨entry, entryMem, same⟩ := List.mem_map.mp (Table.mem_of_lookup_insertTexts found)
  obtain ⟨_, rfl⟩ := Prod.mk.inj same
  exact ⟨_, List.mem_map_of_mem entryMem, related entry entryMem⟩

theorem index_of_entries {section_ : String} {manifest : Option Data} {forms : List Form}
    (inSection : EntriesIn Relates section_ manifest forms) (distinct : (forms.map address).Nodup) :
    ∃ entries : List (Data × Form), entries.map Prod.snd = forms ∧
      (∀ entry ∈ entries, Relates entry.1 entry.2) ∧
      index (orEmpty manifest) section_ = .ok (Table.textual (byAddress address entries)) :=
  index_of_lists address addressed inSection.lists distinct

end Index

section Compare

variable {address : Form → String} {Extends : Form → Form → Prop}
  {differences : Data → Data → Data → Except Fault (List Change)} {added : Data → Change}
  {kind : ChangeKind} {label noun : String} {olds news : List (Data × Form)}

/-- What comparing an entry of a new manifest with the entries of an old one may find. -/
structure EntryChanges (address : Form → String) (Extends : Form → Form → Prop)
    (olds : List (Data × Form)) (new : Form) (changes : List Change) : Prop where
  /-- The earlier entry of the address is compared with the entry. -/
  compared : ∀ old ∈ olds, address old.2 = address new → (breaking changes = [] ↔ Extends old.2 new)
  /-- An entry without an earlier one of its address breaks nothing. -/
  added : (∀ old ∈ olds, address old.2 ≠ address new) → breaking changes = []

section Lookup

variable {new : Data × Form}

/-- An entry is compared with the earlier one of its address. -/
theorem compared_of_known (oldDistinct : (olds.map fun old => address old.2).Nodup) {old : Data × Form}
    (oldMem : old ∈ olds) (same : address old.2 = address new.2) :
    (match (Table.textual (byAddress address olds)).get? (.text (address new.2)) with
      | none => pure [added (.text (address new.2))]
      | some previous => differences (.text (address new.2)) previous new.1 : Except Fault (List Change)) =
      differences (.text (address new.2)) old.1 new.1 := by
  have keys : ((byAddress address olds).map Prod.fst).Nodup := by
    rwa [keys_byAddress]
  have found : (byAddress address olds).lookup (address old.2) = some old.1 :=
    Table.lookup_of_mem keys (List.mem_map.mpr ⟨old, oldMem, rfl⟩)
  rw [Table.get?_textual, ← same, found]

/-- An entry without an earlier one of its address is added. -/
theorem compared_of_unknown (unknown : ∀ old ∈ olds, address old.2 ≠ address new.2) :
    (match (Table.textual (byAddress address olds)).get? (.text (address new.2)) with
      | none => pure [added (.text (address new.2))]
      | some previous => differences (.text (address new.2)) previous new.1 : Except Fault (List Change)) =
      .ok [added (.text (address new.2))] := by
  have absent : (byAddress address olds).lookup (address new.2) = none := by
    rw [Table.lookup_eq_none, keys_byAddress, List.mem_map]
    rintro ⟨old, oldMem, same⟩
    exact unknown old oldMem same
  rw [Table.get?_textual, absent]
  rfl

end Lookup

theorem exists_entryChanges (harmless : ∀ address, (added address).isBreaking = false)
    (oldDistinct : (olds.map fun old => address old.2).Nodup) {new : Data × Form}
    (each : ∀ old ∈ olds, address old.2 = address new.2 →
      ∃ changes, differences (.text (address new.2)) old.1 new.1 = .ok changes ∧
        (breaking changes = [] ↔ Extends old.2 new.2)) :
    ∃ changes,
      (match (Table.textual (byAddress address olds)).get? (.text (address new.2)) with
        | none => pure [added (.text (address new.2))]
        | some previous => differences (.text (address new.2)) previous new.1 :
          Except Fault (List Change)) = .ok changes ∧
      EntryChanges address Extends olds new.2 changes := by
  by_cases known : ∃ old ∈ olds, address old.2 = address new.2
  · obtain ⟨old, oldMem, same⟩ := known
    obtain ⟨changes, compared, breaks⟩ := each old oldMem same
    refine ⟨changes, (compared_of_known oldDistinct oldMem same).trans compared, ?_,
      fun absent => (absent old oldMem same).elim⟩
    intro other otherMem sameAddress
    have one := List.inj_on_of_nodup_map oldDistinct otherMem oldMem (sameAddress.trans same.symm)
    exact one ▸ breaks
  · refine ⟨_, compared_of_unknown fun old oldMem same => known ⟨old, oldMem, same⟩,
      fun old oldMem same => (known ⟨old, oldMem, same⟩).elim, fun _ => ?_⟩
    simp [breaking, harmless]

/-- No breaking change is found among the entries exactly if each extends the earlier one of its address. -/
theorem entryChanges_eq_nil_iff {parts : List (List Change)}
    (found : List.Forall₂ (fun new changes => EntryChanges address Extends olds new.2 changes) news
      parts) :
    (∀ part ∈ parts, breaking part = []) ↔
      ∀ new ∈ news, ∀ old ∈ olds, address old.2 = address new.2 → Extends old.2 new.2 := by
  have one {new : Data × Form} {part : List Change}
      (changes : EntryChanges address Extends olds new.2 part) :
      breaking part = [] ↔ ∀ old ∈ olds, address old.2 = address new.2 → Extends old.2 new.2 := by
    constructor
    · intro none old oldMem same
      exact (changes.compared old oldMem same).mp none
    · intro extended
      by_cases known : ∃ old ∈ olds, address old.2 = address new.2
      · obtain ⟨old, oldMem, same⟩ := known
        exact (changes.compared old oldMem same).mpr (extended old oldMem same)
      · exact changes.added fun old oldMem same => known ⟨old, oldMem, same⟩
  induction found with
  | nil => simp
  | cons here there ih =>
      rw [List.forall_mem_cons, List.forall_mem_cons]
      exact and_congr (one here) ih

/-- No entry is removed exactly if each address is still there. -/
theorem removals_eq_nil_iff (kind : ChangeKind) (label noun : String) :
    removals kind label noun (Table.textual (byAddress address olds)) (Table.textual (byAddress address news)) = [] ↔
      ∀ old ∈ olds, ∃ new ∈ news, address new.2 = address old.2 := by
  have isKept (old : Data × Form) :
      (Table.textual (byAddress address news)).has (.text (address old.2)) = true ↔
        ∃ new ∈ news, address new.2 = address old.2 := by
    rw [Table.has_textual, Option.isSome_iff_ne_none, ne_eq, Table.lookup_eq_none, not_not,
      keys_byAddress, List.mem_map]
  rw [removals, List.map_eq_nil_iff, List.filter_eq_nil_iff, textual_byAddress address olds, List.forall_mem_map]
  simp only [Bool.not_eq_true', Bool.not_eq_false, isKept]

variable (label noun differences Extends) in
/-- Entries are compared without a breaking change exactly if each earlier one has an extension. -/
theorem compareEntries_of_forms (harmless : ∀ address, (added address).isBreaking = false)
    (breaks : kind.isBreaking = true)
    (each : ∀ old ∈ olds, ∀ new ∈ news, address old.2 = address new.2 →
      ∃ changes, differences (.text (address new.2)) old.1 new.1 = .ok changes ∧
        (breaking changes = [] ↔ Extends old.2 new.2))
    (oldDistinct : (olds.map fun old => address old.2).Nodup)
    (newDistinct : (news.map fun new => address new.2).Nodup) :
    ∃ changes, compareEntries added differences (Table.textual (byAddress address olds))
        (Table.textual (byAddress address news)) = .ok changes ∧
      (breaking (removals kind label noun (Table.textual (byAddress address olds))
          (Table.textual (byAddress address news)) ++ changes) = [] ↔
        ∀ old ∈ olds, ∃ new ∈ news, address new.2 = address old.2 ∧ Extends old.2 new.2) := by
  have removed : breaking (removals kind label noun (Table.textual (byAddress address olds))
      (Table.textual (byAddress address news))) = [] ↔
      ∀ old ∈ olds, ∃ new ∈ news, address new.2 = address old.2 := by
    rw [← removals_eq_nil_iff kind label noun, removals, breaking_map_eq_nil (by exact fun _ _ => breaks),
      List.map_eq_nil_iff]
  unfold compareEntries
  rw [textual_byAddress address news, List.mapM_map, ← textual_byAddress]
  refine exists_bind_mapM (fun new changes => EntryChanges address Extends olds new.2 changes)
    (fun new newMem => ?_) (fun parts related => ⟨_, rfl, ?_⟩)
  · exact exists_entryChanges harmless oldDistinct fun old oldMem => each old oldMem new newMem
  · rw [breaking_append, List.append_eq_nil_iff, breaking_flatten_eq_nil, removed,
      entryChanges_eq_nil_iff related]
    constructor
    · rintro ⟨kept, extended⟩ old oldMem
      obtain ⟨new, newMem, same⟩ := kept old oldMem
      exact ⟨new, newMem, same, extended new newMem old oldMem same.symm⟩
    · intro all
      refine ⟨fun old oldMem => ?_, fun new newMem old oldMem same => ?_⟩
      · obtain ⟨new, newMem, same, _⟩ := all old oldMem
        exact ⟨new, newMem, same⟩
      · obtain ⟨other, otherMem, sameAddress, extends_⟩ := all old oldMem
        have one := List.inj_on_of_nodup_map newDistinct otherMem newMem (sameAddress.trans same)
        exact one ▸ extends_

end Compare

/-- The entries in a section of two manifests are compared without a breaking change exactly if each
earlier one has an extension. -/
theorem compareSections_of_forms {of? : Data → Option Form} {address : Form → String} (kind : ChangeKind)
    (label noun : String) (added : Data → Change)
    (differences : Data → Data → Data → Except Fault (List Change)) (Extends : Form → Form → Prop)
    {section_ : String} {previous next : Data} {olds news : List Form}
    (addressed : ∀ {value form}, of? value = some form →
      value.get? "fqn" = some (.text (address form)))
    (harmless : ∀ address, (added address).isBreaking = false) (breaks : kind.isBreaking = true)
    (each : ∀ {old new : Data} {oldForm newForm : Form}, of? old = some oldForm →
      of? new = some newForm → newForm ∈ news → address oldForm = address newForm →
      ∃ changes, differences (.text (address newForm)) old new = .ok changes ∧
        (breaking changes = [] ↔ Extends oldForm newForm))
    (oldShows : Lists (fun value form => of? value = some form) section_ previous olds)
    (newShows : Lists (fun value form => of? value = some form) section_ next news)
    (oldDistinct : (olds.map address).Nodup) (newDistinct : (news.map address).Nodup) :
    ∃ oldTable newTable changes, index previous section_ = .ok oldTable ∧
      index next section_ = .ok newTable ∧
      compareEntries added differences oldTable newTable = .ok changes ∧
      (breaking (removals kind label noun oldTable newTable ++ changes) = [] ↔
        ∀ old ∈ olds, ∃ new ∈ news, address new = address old ∧ Extends old new) := by
  obtain ⟨oldEntries, rfl, oldEntryShows, oldIndex⟩ := index_of_lists address addressed
    oldShows oldDistinct
  obtain ⟨newEntries, rfl, newEntryShows, newIndex⟩ := index_of_lists address addressed
    newShows newDistinct
  rw [List.map_map] at oldDistinct newDistinct
  obtain ⟨changes, compared, breaksIff⟩ := compareEntries_of_forms Extends differences label noun harmless
    breaks
    (fun old oldMem new newMem same => each (oldEntryShows old oldMem) (newEntryShows new newMem)
      (List.mem_map_of_mem newMem) same) oldDistinct newDistinct
  refine ⟨_, _, changes, oldIndex, newIndex, compared, breaksIff.trans ?_⟩
  simp only [List.mem_map, exists_exists_and_eq_and, forall_exists_index, and_imp,
    forall_apply_eq_imp_iff₂]

/-- Two manifests of schemas are compared without a breaking change exactly if every schema of the earlier
one has an extension in the later one. -/
theorem diffSchemas_of_forms {previous next : Data} {olds news : List SchemaForm}
    (oldShows : Lists (fun value form => SchemaForm.of? value = some form) "schema" previous olds)
    (newShows : Lists (fun value form => SchemaForm.of? value = some form) "schema" next news)
    (oldDistinct : (olds.map SchemaForm.address).Nodup)
    (newDistinct : (news.map SchemaForm.address).Nodup)
    (fieldsDistinct : ∀ new ∈ news, (new.fields.map FieldForm.name).Nodup) :
    ∃ changes, diffSchemas previous next = .ok changes ∧
      (breaking changes = [] ↔
        ∀ old ∈ olds, ∃ new ∈ news, new.address = old.address ∧ old.ExtendedBy new) := by
  obtain ⟨oldTable, newTable, changes, oldIndex, newIndex, compared, breaks⟩ :=
    compareSections_of_forms .schemaRemoved "Schema" "Schema" (addition .schemaAdded "Schema" "Schema")
      (fun _ previous entry => compareSchemas previous entry) SchemaForm.ExtendedBy
      (fun shows => (SchemaForm.of?_eq_some.mp shows).1) (fun _ => rfl) rfl
      (fun shows newShows newMem _ => compareSchemas_of_forms shows newShows (fieldsDistinct _ newMem))
      oldShows newShows oldDistinct newDistinct
  refine ⟨removals .schemaRemoved "Schema" "Schema" oldTable newTable ++ changes, ?_, breaks⟩
  unfold diffSchemas
  simp only [oldIndex, newIndex, ok_bind, compared]
  rfl

/-- Two collections with one address are compared without a breaking change exactly if they say the same. -/
theorem compareCollections_of_forms (address : Data) {old new : Data} {oldForm newForm : CollectionForm}
    (oldShows : CollectionForm.of? old = some oldForm) (newShows : CollectionForm.of? new = some newForm)
    (sameAddress : oldForm.address = newForm.address) :
    ∃ changes, compareCollections address old new = .ok changes ∧
      (breaking changes = [] ↔ newForm = oldForm) := by
  obtain ⟨_, oldSchema, oldKey⟩ := CollectionForm.of?_eq_some.mp oldShows
  obtain ⟨_, newSchema, newKey⟩ := CollectionForm.of?_eq_some.mp newShows
  unfold compareCollections
  simp only [Data.member_of_get? oldSchema, Data.member_of_get? newSchema, Data.member_of_get? oldKey,
    Data.member_of_get? newKey, ok_bind, Data.items_list, Data.same_text, Data.same_texts, beq_iff_eq]
  refine ⟨_, rfl, ?_⟩
  rw [breaking_append, List.append_eq_nil_iff, breaking_unless rfl, breaking_unless rfl]
  rcases oldForm with ⟨_, oldSchema, oldKey⟩
  rcases newForm with ⟨_, newSchema, newKey⟩
  subst sameAddress
  simp [eq_comm]

/-- Two manifests of collections are compared without a breaking change exactly if every collection of the
earlier one is in the later one. -/
theorem diffCollections_of_forms {previous next : Data} {olds news : List CollectionForm}
    (oldShows : Lists (fun value form => CollectionForm.of? value = some form) "collections" previous olds)
    (newShows : Lists (fun value form => CollectionForm.of? value = some form) "collections" next news)
    (oldDistinct : (olds.map CollectionForm.address).Nodup)
    (newDistinct : (news.map CollectionForm.address).Nodup) :
    ∃ changes, diffCollections previous next = .ok changes ∧
      (breaking changes = [] ↔ ∀ old ∈ olds, old ∈ news) := by
  obtain ⟨oldTable, newTable, changes, oldIndex, newIndex, compared, breaks⟩ :=
    compareSections_of_forms .collectionRemoved "Collection" "Collection"
      (addition .collectionAdded "Collection" "Collection") compareCollections (fun old new => new = old)
      (fun shows => (CollectionForm.of?_eq_some.mp shows).1) (fun _ => rfl) rfl
      (fun shows newShows _ same => compareCollections_of_forms _ shows newShows same)
      oldShows newShows oldDistinct newDistinct
  refine ⟨removals .collectionRemoved "Collection" "Collection" oldTable newTable ++ changes, ?_, ?_⟩
  · unfold diffCollections
    simp only [oldIndex, newIndex, ok_bind, compared]
    rfl
  · rw [breaks]
    simp

/-- Two dispatches with one address are compared without a breaking change exactly if they say the same. -/
theorem compareDispatches_of_forms (address : Data) {old new : Data} {oldForm newForm : DispatchForm}
    (oldShows : DispatchForm.of? old = some oldForm) (newShows : DispatchForm.of? new = some newForm)
    (sameAddress : oldForm.address = newForm.address) :
    ∃ changes, compareDispatches address old new = .ok changes ∧
      (breaking changes = [] ↔ newForm = oldForm) := by
  obtain ⟨_, oldRequest⟩ := DispatchForm.of?_eq_some.mp oldShows
  obtain ⟨_, newRequest⟩ := DispatchForm.of?_eq_some.mp newShows
  unfold compareDispatches
  simp only [Data.member_of_get? oldRequest, Data.member_of_get? newRequest, ok_bind, Data.same_text,
    beq_iff_eq]
  refine ⟨_, rfl, ?_⟩
  rw [breaking_unless rfl]
  rcases oldForm with ⟨_, oldRequest⟩
  rcases newForm with ⟨_, newRequest⟩
  subst sameAddress
  simp [eq_comm]

/-- Two manifests of dispatches are compared without a breaking change exactly if every dispatch of the
earlier one is in the later one. -/
theorem diffDispatches_of_forms {previous next : Data} {olds news : List DispatchForm}
    (oldShows : Lists (fun value form => DispatchForm.of? value = some form) "dispatches" previous olds)
    (newShows : Lists (fun value form => DispatchForm.of? value = some form) "dispatches" next news)
    (oldDistinct : (olds.map DispatchForm.address).Nodup)
    (newDistinct : (news.map DispatchForm.address).Nodup) :
    ∃ changes, diffDispatches previous next = .ok changes ∧
      (breaking changes = [] ↔ ∀ old ∈ olds, old ∈ news) := by
  obtain ⟨oldTable, newTable, changes, oldIndex, newIndex, compared, breaks⟩ :=
    compareSections_of_forms .dispatchRemoved "Dispatch" "Dispatch"
      (addition .dispatchAdded "Dispatch" "Dispatch") compareDispatches (fun old new => new = old)
      (fun shows => (DispatchForm.of?_eq_some.mp shows).1) (fun _ => rfl) rfl
      (fun shows newShows _ same => compareDispatches_of_forms _ shows newShows same)
      oldShows newShows oldDistinct newDistinct
  refine ⟨removals .dispatchRemoved "Dispatch" "Dispatch" oldTable newTable ++ changes, ?_, ?_⟩
  · unfold diffDispatches
    simp only [oldIndex, newIndex, ok_bind, compared]
    rfl
  · rw [breaks]
    simp

/-- Whatever two manifests say, comparing them finds no breaking change exactly if the later one extends the
earlier one: each schema has one of its full name with the same flag, whose fields start with its own, in the
same places with the same names and types, and none of them newly required, and go on with optional ones;
each collection and each dispatch is there again with what it refers to. -/
theorem breaking_eq_nil_iff :
    (∀ {previous next : Data} {olds news : List SchemaForm},
      Lists (fun value form => SchemaForm.of? value = some form) "schema" previous olds →
      Lists (fun value form => SchemaForm.of? value = some form) "schema" next news →
      (olds.map SchemaForm.address).Nodup → (news.map SchemaForm.address).Nodup →
      (∀ new ∈ news, (new.fields.map FieldForm.name).Nodup) →
      ∃ changes, diffSchemas previous next = .ok changes ∧ (breaking changes = [] ↔
        ∀ old ∈ olds, ∃ new ∈ news, new.address = old.address ∧ new.compact = old.compact ∧
          ∃ kept added, new.fields = kept ++ added ∧
            List.Forall₂ FieldForm.ExtendedBy old.fields kept ∧ ∀ field ∈ added, field.required = false)) ∧
    (∀ {previous next : Data} {olds news : List CollectionForm},
      Lists (fun value form => CollectionForm.of? value = some form) "collections" previous olds →
      Lists (fun value form => CollectionForm.of? value = some form) "collections" next news →
      (olds.map CollectionForm.address).Nodup → (news.map CollectionForm.address).Nodup →
      ∃ changes, diffCollections previous next = .ok changes ∧ (breaking changes = [] ↔
        ∀ old ∈ olds, ∃ new ∈ news,
          new.address = old.address ∧ new.schema = old.schema ∧ new.key = old.key)) ∧
    (∀ {previous next : Data} {olds news : List DispatchForm},
      Lists (fun value form => DispatchForm.of? value = some form) "dispatches" previous olds →
      Lists (fun value form => DispatchForm.of? value = some form) "dispatches" next news →
      (olds.map DispatchForm.address).Nodup → (news.map DispatchForm.address).Nodup →
      ∃ changes, diffDispatches previous next = .ok changes ∧ (breaking changes = [] ↔
        ∀ old ∈ olds, ∃ new ∈ news,
          new.address = old.address ∧ new.requestType = old.requestType)) := by
  refine ⟨diffSchemas_of_forms, ?_, ?_⟩
  · intro previous next olds news oldLists newLists oldDistinct newDistinct
    rcases diffCollections_of_forms oldLists newLists oldDistinct newDistinct with
      ⟨changes, compared, breaks⟩
    refine ⟨changes, compared, breaks.trans (forall₂_congr fun old _ => ⟨?_, ?_⟩)⟩
    · intro there
      exact ⟨old, there, rfl, rfl, rfl⟩
    · rintro ⟨⟨_, _, _⟩, there, rfl, rfl, rfl⟩
      exact there
  · intro previous next olds news oldLists newLists oldDistinct newDistinct
    rcases diffDispatches_of_forms oldLists newLists oldDistinct newDistinct with
      ⟨changes, compared, breaks⟩
    refine ⟨changes, compared, breaks.trans (forall₂_congr fun old _ => ⟨?_, ?_⟩)⟩
    · intro there
      exact ⟨old, there, rfl, rfl⟩
    · rintro ⟨⟨_, _⟩, there, rfl, rfl⟩
      exact there

/-- An entry for a schema of some fields. -/
def itemSchema (fields : List FieldForm) : Data :=
  .object [("fqn", .text "@default/item"), ("compact", .bool false),
    ("fields", .list (fields.map fun field => .object [("name", .text field.name),
      ("type", .text field.type), ("required", .bool field.required)]))]

/-- An entry for a collection of the schema. -/
def itemCollection : Data :=
  .object [("fqn", .text "@default/item"), ("schema", .text "@default/item"), ("key", .list [.text "id"])]

/-- An entry for a dispatch of the schema. -/
def itemDispatch : Data := .object [("fqn", .text "@default/put"), ("request_type", .text "@default/item")]

theorem of?_itemSchema (fields : List FieldForm) :
    SchemaForm.of? (itemSchema fields) = some ⟨"@default/item", false, fields⟩ := by
  rw [SchemaForm.of?_eq_some, itemSchema]
  simp only [Data.get?_object, List.lookup_cons, String.reduceBEq]
  refine ⟨trivial, trivial, _, rfl, ?_⟩
  rw [List.forall₂_map_left_iff]
  exact List.forall₂_same.mpr fun field _ =>
    FieldForm.of?_eq_some.mpr (by simp [List.lookup_cons])

theorem of?_itemCollection :
    CollectionForm.of? itemCollection = some ⟨"@default/item", "@default/item", ["id"]⟩ :=
  CollectionForm.of?_eq_some.mpr (by simp [itemCollection, List.lookup_cons])

theorem of?_itemDispatch : DispatchForm.of? itemDispatch = some ⟨"@default/put", "@default/item"⟩ :=
  DispatchForm.of?_eq_some.mpr (by simp [itemDispatch, List.lookup_cons])

theorem breaking_eq_nil_item :
    (∃ changes, diffSchemas (.object [("schema", .list [itemSchema [⟨"id", "uint", true⟩]])])
      (.object [("schema", .list [itemSchema [⟨"id", "uint", false⟩, ⟨"note", "string", false⟩]])]) =
        .ok changes ∧ breaking changes = []) ∧
    (∃ changes, diffSchemas (.object [("schema", .list [itemSchema [⟨"id", "uint", false⟩]])])
      (.object [("schema", .list [itemSchema [⟨"id", "uint", true⟩]])]) = .ok changes ∧
        breaking changes ≠ []) ∧
    (∃ changes, diffCollections (.object []) (.object [("collections", .list [itemCollection])]) =
      .ok changes ∧ breaking changes = []) ∧
    ∃ changes, diffDispatches (.object [("dispatches", .list [itemDispatch])]) (.object []) =
      .ok changes ∧ breaking changes ≠ [] := by
  have schemas (fields : List FieldForm) : Lists (fun value form => SchemaForm.of? value = some form)
      "schema" (.object [("schema", .list [itemSchema fields])]) [⟨"@default/item", false, fields⟩] :=
    lists_object _ (.cons (of?_itemSchema fields) .nil)
  have collections : Lists (fun value form => CollectionForm.of? value = some form) "collections"
      (.object [("collections", .list [itemCollection])]) [⟨"@default/item", "@default/item", ["id"]⟩] :=
    lists_object _ (.cons of?_itemCollection .nil)
  have dispatches : Lists (fun value form => DispatchForm.of? value = some form) "dispatches"
      (.object [("dispatches", .list [itemDispatch])]) [⟨"@default/put", "@default/item"⟩] :=
    lists_object _ (.cons of?_itemDispatch .nil)
  rcases breaking_eq_nil_iff with ⟨ofSchemas, ofCollections, ofDispatches⟩
  refine ⟨?_, ?_, ?_, ?_⟩
  · rcases ofSchemas (schemas [⟨"id", "uint", true⟩])
      (schemas [⟨"id", "uint", false⟩, ⟨"note", "string", false⟩]) (by decide) (by decide) (by decide) with
      ⟨changes, compared, breaks⟩
    refine ⟨changes, compared, breaks.mpr ?_⟩
    intro old oldMem
    rw [List.mem_singleton] at oldMem
    subst oldMem
    exact ⟨_, List.mem_cons_self, rfl, rfl, [_], [_], rfl, .cons ⟨rfl, rfl, by decide⟩ .nil, by decide⟩
  · rcases ofSchemas (schemas [⟨"id", "uint", false⟩]) (schemas [⟨"id", "uint", true⟩]) (by decide)
      (by decide) (by decide) with ⟨changes, compared, breaks⟩
    refine ⟨changes, compared, fun none => ?_⟩
    rcases breaks.mp none _ List.mem_cons_self with ⟨new, newMem, _, _, kept, added, split, keeps, _⟩
    rw [List.mem_singleton] at newMem
    subst newMem
    cases keeps with
    | cons keeps _ =>
        injection split with same _
        rw [← same] at keeps
        exact Bool.noConfusion (keeps.2.2 rfl)
  · rcases ofCollections (lists_nil _ _) collections (by decide) (by decide) with ⟨changes, compared, breaks⟩
    exact ⟨changes, compared, breaks.mpr fun old oldMem => (List.not_mem_nil oldMem).elim⟩
  · rcases ofDispatches dispatches (lists_nil _ _) (by decide) (by decide) with ⟨changes, compared, breaks⟩
    refine ⟨changes, compared, fun none => ?_⟩
    rcases breaks.mp none _ List.mem_cons_self with ⟨_, newMem, _⟩
    exact List.not_mem_nil newMem

end Manifest

end SpecGraph
