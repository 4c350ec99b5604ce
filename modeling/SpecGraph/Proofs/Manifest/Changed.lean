import SpecGraph.Proofs.Manifest.Unchanged

/-!
# What is different is touched

A version grows where the path of a change says so. A schema may differ from the one that a manifest has under its full
name in that there is none, in its flag, and in that a field is gone, inserted, moved, retyped, or required where it was
optional. Whichever it is, some change is found, and every change between two schemas of one full name is at the path of
the schema or of one of its fields. So the schema is touched, and a field that is new or different is touched at its own
path.

Nothing is assumed of the manifest but that it can be read. Of two schemas with one full name, and of two fields with
one name, the last one counts, as it does in the tables by which the entries are found.
-/

namespace SpecGraph

namespace Manifest

theorem touches_of_fieldPath {change : Change} {path name : String}
    (isPath : change.path = fieldPath path (.text name)) : Touches change path :=
  Or.inr ⟨name.toList, by rw [isPath, toList_fieldPath]⟩

theorem OwnChange.touches {old new : SchemaForm} {change : Change} (own : OwnChange old new change) :
    Touches change ("Schema:" ++ old.address) := by
  rcases own with ⟨isPath, _⟩ | ⟨name, _, _, isPath⟩
  · exact Or.inl isPath
  · exact touches_of_fieldPath isPath

section Schemas

variable {old new : Data} {oldForm newForm : SchemaForm} (oldShows : SchemaForm.of? old = some oldForm)
  (newShows : SchemaForm.of? new = some newForm) (newDistinct : (newForm.fields.map FieldForm.name).Nodup)
  {changes : List Change} (compared : compareSchemas old new = .ok changes)
include oldShows newShows newDistinct compared

theorem touches_of_mem_compareSchemas {change : Change} (changeMem : change ∈ changes) :
    Touches change ("Schema:" ++ oldForm.address) := by
  rcases exists_schemaEntry oldShows with ⟨olds, oldEntry⟩
  rcases exists_schemaEntry newShows with ⟨news, newEntry⟩
  rcases ownChange_or_of_mem oldEntry newEntry newDistinct compared changeMem with
    own | ⟨field, fieldMem, part, found, inPart⟩
  · exact own.touches
  · exact touches_of_fieldPath
      (path_of_changesOfField oldEntry.shows (newEntry.shows field fieldMem) found inPart)

theorem isTouched_of_schema_ne (sameAddress : oldForm.address = newForm.address) (different : oldForm ≠ newForm) :
    isTouched changes ("Schema:" ++ newForm.address) = true := by
  have some_ : changes ≠ [] := by
    rintro rfl
    exact different (eq_of_compareSchemas_nil oldShows newShows newDistinct sameAddress compared).symm
  rcases List.exists_mem_of_ne_nil changes some_ with ⟨change, changeMem⟩
  rw [← sameAddress]
  exact isTouched_eq_true changeMem
    (touches_of_mem_compareSchemas oldShows newShows newDistinct compared changeMem)

theorem isTouched_of_field_ne {field : FieldForm} (fieldMem : field ∈ newForm.fields)
    (different : Table.lastOf? FieldForm.name oldForm.fields field.name ≠ some field) :
    isTouched changes (fieldPath ("Schema:" ++ oldForm.address) (.text field.name)) = true := by
  rcases exists_schemaEntry oldShows with ⟨olds, oldEntry⟩
  rcases exists_schemaEntry newShows with ⟨news, newEntry⟩
  rw [← newEntry.forms] at fieldMem
  rcases List.mem_map.mp fieldMem with ⟨entry, entryMem, rfl⟩
  have shows := newEntry.shows entry entryMem
  rcases exists_part_of_field oldEntry newEntry newDistinct compared entryMem with ⟨part, found, inChanges⟩
  rw [← oldEntry.forms] at different
  have some_ : part ≠ [] := fun none => different ((changesOfField_eq_nil_iff oldEntry.shows shows found).mp none)
  rcases List.exists_mem_of_ne_nil part some_ with ⟨change, changeMem⟩
  exact isTouched_eq_true (inChanges changeMem)
    (Or.inl (path_of_changesOfField oldEntry.shows shows found changeMem))

end Schemas

/-- The changes that a schema makes after some others: it is added, or compared with the last one of its full name. -/
inductive SchemaPart (olds : List SchemaForm) (new : SchemaForm) (part : List Change) : Prop
  | added (unknown : Table.lastOf? SchemaForm.address olds new.address = none)
      (isPart : part = [addition .schemaAdded "Schema" "Schema" (.text new.address)]) : SchemaPart olds new part
  | compared {old : SchemaForm} (known : Table.lastOf? SchemaForm.address olds new.address = some old)
      {oldValue value : Data} (oldShows : SchemaForm.of? oldValue = some old)
      (shows : SchemaForm.of? value = some new) (isPart : compareSchemas oldValue value = .ok part) :
      SchemaPart olds new part

section Manifests

variable {previous next : Data} {olds news : List SchemaForm}
  (oldLists : Lists (fun value form => SchemaForm.of? value = some form) "schema" previous olds)
  (newLists : Lists (fun value form => SchemaForm.of? value = some form) "schema" next news)
  (newDistinct : (news.map SchemaForm.address).Nodup) {changes : List Change}
  (compared : diffSchemas previous next = .ok changes) {new : SchemaForm} (newMem : new ∈ news)
include oldLists newLists newDistinct compared newMem

/-- The changes that each schema makes are among those of the manifest. -/
theorem exists_schemaPart : ∃ part, SchemaPart olds new part ∧ part ⊆ changes := by
  have addressed {value : Data} {form : SchemaForm} (shows : SchemaForm.of? value = some form) :
      value.get? "fqn" = some (.text form.address) := (SchemaForm.of?_eq_some.mp shows).1
  rcases exists_index SchemaForm.address addressed oldLists with ⟨oldEntries, rfl, oldShows, oldIndex⟩
  rcases index_of_lists SchemaForm.address addressed newLists newDistinct with ⟨newEntries, rfl, newShows, newIndex⟩
  rcases List.mem_map.mp newMem with ⟨entry, entryMem, rfl⟩
  unfold diffSchemas at compared
  rw [oldIndex, newIndex, ok_bind, ok_bind] at compared
  rcases bind_eq_ok.mp compared with ⟨found, areFound, whole⟩
  cases whole
  unfold compareEntries at areFound
  rcases bind_eq_ok.mp areFound with ⟨parts, mapped, isWhole⟩
  cases isWhole
  rw [textual_byAddress, List.mapM_map] at mapped
  rcases exists_part_of_mem mapped entryMem with ⟨part, isPart, inParts⟩
  refine ⟨part, ?_, List.subset_append_of_subset_right _ inParts⟩
  dsimp only [Function.comp_apply] at isPart
  rw [get?_byAddress] at isPart
  cases isOld : Table.lastOf? (fun old : Data × SchemaForm => old.2.address) oldEntries entry.2.address with
  | none =>
      rw [isOld] at isPart
      cases isPart
      exact .added (by rw [Table.lastOf?_map, isOld]; rfl) rfl
  | some old =>
      rw [isOld] at isPart
      exact .compared (by rw [Table.lastOf?_map, isOld]; rfl) (oldShows old (Table.mem_of_lastOf? isOld).1)
        (newShows entry entryMem) isPart

/-- A schema that is not the one that the manifest has under its full name is touched. -/
theorem isTouched_of_new (fieldsDistinct : (new.fields.map FieldForm.name).Nodup)
    (different : Table.lastOf? SchemaForm.address olds new.address ≠ some new) :
    isTouched changes ("Schema:" ++ new.address) = true := by
  rcases exists_schemaPart oldLists newLists newDistinct compared newMem with ⟨part, ofSchema, inChanges⟩
  have touched : isTouched part ("Schema:" ++ new.address) = true := by
    cases ofSchema with
    | added _ isPart =>
        subst isPart
        exact isTouched_eq_true List.mem_cons_self (Or.inl rfl)
    | compared known oldShows shows isPart =>
        refine isTouched_of_schema_ne oldShows shows fieldsDistinct isPart (Table.mem_of_lastOf? known).2 ?_
        rintro rfl
        exact different known
  exact isTouched_of_subset inChanges touched

/-- A field that is not the one that the manifest has under its name in the schema is touched. -/
theorem isTouched_of_newField (fieldsDistinct : (new.fields.map FieldForm.name).Nodup) {old : SchemaForm}
    (known : Table.lastOf? SchemaForm.address olds new.address = some old) {field : FieldForm}
    (fieldMem : field ∈ new.fields) (different : Table.lastOf? FieldForm.name old.fields field.name ≠ some field) :
    isTouched changes (fieldPath ("Schema:" ++ new.address) (.text field.name)) = true := by
  rcases exists_schemaPart oldLists newLists newDistinct compared newMem with ⟨part, ofSchema, inChanges⟩
  cases ofSchema with
  | added unknown => cases known.symm.trans unknown
  | compared isOld oldShows shows isPart =>
      cases known.symm.trans isOld
      rw [← (Table.mem_of_lastOf? known).2]
      exact isTouched_of_subset inChanges
        (isTouched_of_field_ne oldShows shows fieldsDistinct isPart fieldMem different)

end Manifests

end Manifest

end SpecGraph
