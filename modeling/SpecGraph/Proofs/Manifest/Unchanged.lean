import SpecGraph.Proofs.Json.RoundTrip
import SpecGraph.Proofs.Manifest.Touched

/-!
# Manifests that say the same

Two manifests are compared by what their entries say. With no full name twice on either side, no change is found exactly
if the entries say the same up to their order. So no difference between two entries of one full name goes unnoticed, and
entries that are only moved make no difference.
-/

namespace SpecGraph

namespace Manifest

/-- Fields that start with the names of other ones are these, if each of them is one of these. -/
theorem fields_eq_of_starts {olds news : List FieldForm} (newDistinct : (news.map FieldForm.name).Nodup)
    (starts : (news.map FieldForm.name).take olds.length = olds.map FieldForm.name) (inOlds : news ⊆ olds) :
    news = olds := by
  have oldDistinct : (olds.map FieldForm.name).Nodup := starts ▸ newDistinct.sublist (List.take_sublist _ _)
  have fewer : news.length ≤ olds.length :=
    (List.subperm_of_subset (List.Nodup.of_map FieldForm.name newDistinct) inOlds).length_le
  have names : news.map FieldForm.name = olds.map FieldForm.name := by
    rwa [List.take_of_length_le (by rwa [List.length_map])] at starts
  rw [← List.forall₂_eq_eq_eq, List.forall₂_map_left_iff, List.forall₂_map_right_iff, List.forall₂_iff_zip] at names
  rw [← List.forall₂_eq_eq_eq, List.forall₂_iff_zip]
  refine ⟨names.1, fun {new old} pairMem => ?_⟩
  have inBoth := List.of_mem_zip pairMem
  exact List.inj_on_of_nodup_map oldDistinct (inOlds inBoth.1) inBoth.2 (names.2 pairMem)

section Schemas

variable {old new : Data} {oldForm newForm : SchemaForm} (oldShows : SchemaForm.of? old = some oldForm)
  (newShows : SchemaForm.of? new = some newForm) (newDistinct : (newForm.fields.map FieldForm.name).Nodup)
  (sameAddress : oldForm.address = newForm.address)
include oldShows newShows newDistinct sameAddress

/-- Schemas of one full name between which no change is found say the same, even if a name occurs twice in the old
one. -/
theorem eq_of_compareSchemas_nil (compared : compareSchemas old new = .ok []) : newForm = oldForm := by
  rcases compareSchemas_of_forms oldShows newShows newDistinct with ⟨_, found, breaks⟩
  cases compared.symm.trans found
  rcases breaks.mp rfl with ⟨sameCompact, extended⟩
  -- without breaking changes the old names come first in their places, and then no field may be new
  have sameFields : newForm.fields = oldForm.fields := by
    apply fields_eq_of_starts newDistinct ((exists_extension_iff newDistinct).mp extended).1
    rcases exists_schemaEntry oldShows with ⟨olds, oldEntry⟩
    rcases exists_schemaEntry newShows with ⟨news, newEntry⟩
    rw [← newEntry.forms, ← oldEntry.forms]
    intro form formMem
    rcases List.mem_map.mp formMem with ⟨field, fieldMem, rfl⟩
    rcases exists_part_of_field oldEntry newEntry newDistinct compared fieldMem with ⟨part, isPart, nothing⟩
    have isLast := (changesOfField_eq_nil_iff oldEntry.shows (newEntry.shows field fieldMem) isPart).mp
      (List.subset_nil.mp nothing)
    exact (Table.mem_of_lastOf? isLast).1
  rcases oldForm with ⟨_, _, _⟩
  rcases newForm with ⟨_, _, _⟩
  dsimp only at sameAddress sameCompact sameFields
  subst sameAddress sameCompact sameFields
  rfl

/-- No change is found between two schemas of one full name exactly if they say the same. -/
theorem compareSchemas_eq_nil_iff (oldDistinct : (oldForm.fields.map FieldForm.name).Nodup) :
    ∃ changes, compareSchemas old new = .ok changes ∧ (changes = [] ↔ newForm = oldForm) := by
  rcases compareSchemas_of_forms oldShows newShows newDistinct with ⟨changes, compared, _⟩
  refine ⟨changes, compared, fun none => ?_, ?_⟩
  · subst none
    exact eq_of_compareSchemas_nil oldShows newShows newDistinct sameAddress compared
  · rintro rfl
    refine List.eq_nil_iff_forall_not_mem.mpr fun change changeMem => ?_
    exact (mem_compareSchemas oldShows newShows oldDistinct newDistinct compared changeMem).different ⟨rfl, rfl⟩

end Schemas

section Sections

variable {Form : Type} {address : Form → String} {added : Data → Change}
  {differences : Data → Data → Data → Except Fault (List Change)}

theorem forall_mem_iff_of_forall₂ {α β : Type} {first : α → Prop} {second : β → Prop} {lefts : List α}
    {rights : List β} (all : List.Forall₂ (fun left right => second right ↔ first left) lefts rights) :
    (∀ right ∈ rights, second right) ↔ ∀ left ∈ lefts, first left := by
  induction all with
  | nil => simp
  | cons here _ ih => rw [List.forall_mem_cons, List.forall_mem_cons, here, ih]

/-- Entries are compared without a change exactly if the two lists say the same up to their order. -/
theorem compareEntries_eq_nil_iff (kind : ChangeKind) (label noun : String) {olds news : List (Data × Form)}
    (each : ∀ old ∈ olds, ∀ new ∈ news, address old.2 = address new.2 →
      ∃ changes, differences (.text (address new.2)) old.1 new.1 = .ok changes ∧ (changes = [] ↔ new.2 = old.2))
    (oldDistinct : (olds.map fun old => address old.2).Nodup)
    (newDistinct : (news.map fun new => address new.2).Nodup) :
    ∃ changes, compareEntries added differences (Table.textual (byAddress address olds))
        (Table.textual (byAddress address news)) = .ok changes ∧
      (removals kind label noun (Table.textual (byAddress address olds)) (Table.textual (byAddress address news)) ++
        changes = [] ↔ (olds.map Prod.snd).Perm (news.map Prod.snd)) := by
  unfold compareEntries
  rw [textual_byAddress address news, List.mapM_map, ← textual_byAddress]
  refine exists_bind_mapM (fun new changes => changes = [] ↔ new.2 ∈ olds.map Prod.snd)
    (fun new newMem => ?_) (fun parts related => ⟨_, rfl, ?_⟩)
  · by_cases known : ∃ old ∈ olds, address old.2 = address new.2
    · rcases known with ⟨old, oldMem, same⟩
      rcases each old oldMem new newMem same with ⟨changes, compared, unchanged⟩
      refine ⟨changes, (compared_of_known oldDistinct oldMem same).trans compared, unchanged.trans ⟨fun one => ?_, ?_⟩⟩
      · exact one ▸ List.mem_map_of_mem oldMem
      · intro inOlds
        rcases List.mem_map.mp inOlds with ⟨other, otherMem, one⟩
        rw [← one] at same ⊢
        rw [List.inj_on_of_nodup_map oldDistinct oldMem otherMem same]
    · refine ⟨_, compared_of_unknown fun old oldMem same => known ⟨old, oldMem, same⟩, ?_⟩
      refine iff_of_false (List.cons_ne_nil _ _) fun inOlds => ?_
      rcases List.mem_map.mp inOlds with ⟨old, oldMem, one⟩
      exact known ⟨old, oldMem, congrArg address one⟩
  · have noParts : parts.flatten = [] ↔ ∀ form ∈ news.map Prod.snd, form ∈ olds.map Prod.snd := by
      rw [List.flatten_eq_nil_iff, List.forall_mem_map]
      exact forall_mem_iff_of_forall₂ related
    have oldForms : ((olds.map Prod.snd).map address).Nodup := by rwa [List.map_map]
    have newForms : ((news.map Prod.snd).map address).Nodup := by rwa [List.map_map]
    rw [List.append_eq_nil_iff, removals_eq_nil_iff, noParts,
      List.perm_ext_iff_of_nodup (List.Nodup.of_map address oldForms) (List.Nodup.of_map address newForms)]
    constructor
    · rintro ⟨kept, inOlds⟩ form
      refine ⟨fun inOld => ?_, inOlds form⟩
      rcases List.mem_map.mp inOld with ⟨old, oldMem, rfl⟩
      rcases kept old oldMem with ⟨new, newMem, same⟩
      have inNews : new.2 ∈ news.map Prod.snd := List.mem_map_of_mem newMem
      rwa [← List.inj_on_of_nodup_map oldForms (inOlds _ inNews) inOld same]
    · intro same
      refine ⟨fun old oldMem => ?_, fun form formMem => (same form).mpr formMem⟩
      rcases List.mem_map.mp ((same old.2).mp (List.mem_map_of_mem oldMem)) with ⟨new, newMem, one⟩
      exact ⟨new, newMem, congrArg address one⟩

variable (added differences) in
/-- No change is found between sections exactly if their entries say the same up to their order. -/
theorem compareSections_eq_nil_iff {of? : Data → Option Form} (kind : ChangeKind) (label noun : String)
    {section_ : String} {previous next : Data} {olds news : List Form}
    (addressed : ∀ {value form}, of? value = some form → value.get? "fqn" = some (.text (address form)))
    (each : ∀ {old new : Data} {oldForm newForm : Form}, of? old = some oldForm → of? new = some newForm →
      oldForm ∈ olds → newForm ∈ news → address oldForm = address newForm →
      ∃ changes, differences (.text (address newForm)) old new = .ok changes ∧ (changes = [] ↔ newForm = oldForm))
    (oldShows : Lists (fun value form => of? value = some form) section_ previous olds)
    (newShows : Lists (fun value form => of? value = some form) section_ next news)
    (oldDistinct : (olds.map address).Nodup) (newDistinct : (news.map address).Nodup) :
    ∃ oldTable newTable changes, index previous section_ = .ok oldTable ∧ index next section_ = .ok newTable ∧
      compareEntries added differences oldTable newTable = .ok changes ∧
      (removals kind label noun oldTable newTable ++ changes = [] ↔ olds.Perm news) := by
  rcases index_of_lists address addressed oldShows oldDistinct with ⟨olds, rfl, oldEach, oldIndex⟩
  rcases index_of_lists address addressed newShows newDistinct with ⟨news, rfl, newEach, newIndex⟩
  rw [List.map_map] at oldDistinct newDistinct
  rcases compareEntries_eq_nil_iff kind label noun (fun old oldMem new newMem => each (oldEach old oldMem)
    (newEach new newMem) (List.mem_map_of_mem oldMem) (List.mem_map_of_mem newMem)) oldDistinct newDistinct with
    ⟨changes, compared, unchanged⟩
  exact ⟨_, _, changes, oldIndex, newIndex, compared, unchanged⟩

end Sections

/-- No change is found between schemas exactly if they are the same up to their order. -/
theorem diffSchemas_eq_nil_iff {previous next : Data} {olds news : List SchemaForm}
    (oldShows : Lists (fun value form => SchemaForm.of? value = some form) "schema" previous olds)
    (newShows : Lists (fun value form => SchemaForm.of? value = some form) "schema" next news)
    (oldDistinct : (olds.map SchemaForm.address).Nodup) (newDistinct : (news.map SchemaForm.address).Nodup)
    (oldFields : ∀ old ∈ olds, (old.fields.map FieldForm.name).Nodup)
    (newFields : ∀ new ∈ news, (new.fields.map FieldForm.name).Nodup) :
    ∃ changes, diffSchemas previous next = .ok changes ∧ (changes = [] ↔ olds.Perm news) := by
  rcases compareSections_eq_nil_iff (addition .schemaAdded "Schema" "Schema")
    (fun _ old new => compareSchemas old new) .schemaRemoved "Schema" "Schema"
    (fun shows => (SchemaForm.of?_eq_some.mp shows).1)
    (fun shows newShows oldMem newMem sameAddress =>
      compareSchemas_eq_nil_iff shows newShows (newFields _ newMem) sameAddress (oldFields _ oldMem))
    oldShows newShows oldDistinct newDistinct with
    ⟨oldTable, newTable, changes, oldIndex, newIndex, compared, unchanged⟩
  refine ⟨_, ?_, unchanged⟩
  unfold diffSchemas
  simp only [oldIndex, newIndex, ok_bind, compared]
  rfl

/-- No change is found between two collections of one full name exactly if they say the same. -/
theorem compareCollections_eq_nil_iff {old new : Data} {oldForm newForm : CollectionForm}
    (oldShows : CollectionForm.of? old = some oldForm) (newShows : CollectionForm.of? new = some newForm)
    (sameAddress : oldForm.address = newForm.address) :
    ∃ changes, compareCollections (.text newForm.address) old new = .ok changes ∧
      (changes = [] ↔ newForm = oldForm) := by
  rcases CollectionForm.of?_eq_some.mp oldShows with ⟨_, oldSchema, oldKey⟩
  rcases CollectionForm.of?_eq_some.mp newShows with ⟨_, newSchema, newKey⟩
  unfold compareCollections
  simp only [Data.member_of_get? oldSchema, Data.member_of_get? newSchema, Data.member_of_get? oldKey,
    Data.member_of_get? newKey, ok_bind, Data.items_list, Data.same_text, Data.same_texts, beq_iff_eq]
  refine ⟨_, rfl, ?_⟩
  rw [List.append_eq_nil_iff, unless_eq_nil_iff, unless_eq_nil_iff]
  rcases oldForm with ⟨_, oldSchema, oldKey⟩
  rcases newForm with ⟨_, newSchema, newKey⟩
  subst sameAddress
  simp [eq_comm]

/-- No change is found between collections exactly if they are the same up to their order. -/
theorem diffCollections_eq_nil_iff {previous next : Data} {olds news : List CollectionForm}
    (oldShows : Lists (fun value form => CollectionForm.of? value = some form) "collections" previous olds)
    (newShows : Lists (fun value form => CollectionForm.of? value = some form) "collections" next news)
    (oldDistinct : (olds.map CollectionForm.address).Nodup) (newDistinct : (news.map CollectionForm.address).Nodup) :
    ∃ changes, diffCollections previous next = .ok changes ∧ (changes = [] ↔ olds.Perm news) := by
  rcases compareSections_eq_nil_iff (addition .collectionAdded "Collection" "Collection") compareCollections
    .collectionRemoved "Collection" "Collection"
    (fun shows => (CollectionForm.of?_eq_some.mp shows).1)
    (fun shows newShows _ _ => compareCollections_eq_nil_iff shows newShows)
    oldShows newShows oldDistinct newDistinct with
    ⟨oldTable, newTable, changes, oldIndex, newIndex, compared, unchanged⟩
  refine ⟨_, ?_, unchanged⟩
  unfold diffCollections
  simp only [oldIndex, newIndex, ok_bind, compared]
  rfl

/-- No change is found between two dispatches of one full name exactly if they say the same. -/
theorem compareDispatches_eq_nil_iff {old new : Data} {oldForm newForm : DispatchForm}
    (oldShows : DispatchForm.of? old = some oldForm) (newShows : DispatchForm.of? new = some newForm)
    (sameAddress : oldForm.address = newForm.address) :
    ∃ changes, compareDispatches (.text newForm.address) old new = .ok changes ∧
      (changes = [] ↔ newForm = oldForm) := by
  rcases DispatchForm.of?_eq_some.mp oldShows with ⟨_, oldRequest⟩
  rcases DispatchForm.of?_eq_some.mp newShows with ⟨_, newRequest⟩
  unfold compareDispatches
  simp only [Data.member_of_get? oldRequest, Data.member_of_get? newRequest, ok_bind, Data.same_text, beq_iff_eq]
  refine ⟨_, rfl, ?_⟩
  rw [unless_eq_nil_iff]
  rcases oldForm with ⟨_, oldRequest⟩
  rcases newForm with ⟨_, newRequest⟩
  subst sameAddress
  simp [eq_comm]

/-- No change is found between dispatches exactly if they are the same up to their order. -/
theorem diffDispatches_eq_nil_iff {previous next : Data} {olds news : List DispatchForm}
    (oldShows : Lists (fun value form => DispatchForm.of? value = some form) "dispatches" previous olds)
    (newShows : Lists (fun value form => DispatchForm.of? value = some form) "dispatches" next news)
    (oldDistinct : (olds.map DispatchForm.address).Nodup) (newDistinct : (news.map DispatchForm.address).Nodup) :
    ∃ changes, diffDispatches previous next = .ok changes ∧ (changes = [] ↔ olds.Perm news) := by
  rcases compareSections_eq_nil_iff (addition .dispatchAdded "Dispatch" "Dispatch") compareDispatches
    .dispatchRemoved "Dispatch" "Dispatch"
    (fun shows => (DispatchForm.of?_eq_some.mp shows).1)
    (fun shows newShows _ _ => compareDispatches_eq_nil_iff shows newShows)
    oldShows newShows oldDistinct newDistinct with
    ⟨oldTable, newTable, changes, oldIndex, newIndex, compared, unchanged⟩
  refine ⟨_, ?_, unchanged⟩
  unfold diffDispatches
  simp only [oldIndex, newIndex, ok_bind, compared]
  rfl

end Manifest

end SpecGraph
