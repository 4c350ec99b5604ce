import SpecGraph.Proofs.Json.RoundTrip
import SpecGraph.Proofs.Manifest.Compatible

/-!
# Where changes are

A change of a manifest of schemas has the path of a schema or of a field of a schema. What did not change has
no change at its path. But the mark between the path of a schema and the name of a field is plain text, which
may also stand in a name. Where no name has the mark, a path is split at it in one way only, and a schema or a
field is touched only by changes of its own.
-/

namespace SpecGraph

/-- A text has the mark that stands before the name of a field in a path. -/
def IsMarked (text : String) : Prop := ".field:".toList <:+: text.toList

instance (text : String) : Decidable (IsMarked text) :=
  inferInstanceAs (Decidable (".field:".toList <:+: text.toList))

namespace Manifest

section Mark

/-- A mark before other characters and the same mark after them: there are none, or the mark is in them. -/
theorem eq_nil_of_mark {more rest other : List Char}
    (same : ".field:".toList ++ rest = more ++ (".field:".toList ++ other)) :
    more = [] ∨ ".field:".toList <:+: more := by
  rcases List.append_eq_append_iff.mp same with ⟨between, whole, _⟩ | ⟨between, whole, shifted⟩
  · exact Or.inr ⟨[], between, by rw [whole, List.nil_append]⟩
  · cases more with
    | nil => exact Or.inl rfl
    | cons first rest =>
        cases between with
        | nil => exact Or.inr ⟨[], [], by rw [whole]; simp⟩
        | cons next others =>
            -- the dot starts the mark, and there is no other one in it
            have isDot : '.' = next := (List.cons.inj shifted).1
            have inTail : next ∈ "field:".toList := by
              have tail : "field:".toList = rest ++ next :: others := (List.cons.inj whole).2
              rw [tail]
              exact List.mem_append_right _ List.mem_cons_self
            rw [← isDot] at inTail
            exact absurd inTail (by decide)

/-- Texts without the mark are told from what stands before the first mark. -/
theorem mark_inj {first second rest other : List Char} (firstBare : ¬".field:".toList <:+: first)
    (secondBare : ¬".field:".toList <:+: second)
    (same : first ++ (".field:".toList ++ rest) = second ++ (".field:".toList ++ other)) :
    first = second ∧ rest = other := by
  have one : first = second := by
    rcases List.append_eq_append_iff.mp same with ⟨more, rfl, shifted⟩ | ⟨more, rfl, shifted⟩
    · rcases eq_nil_of_mark shifted with rfl | inside
      · rw [List.append_nil]
      · exact (secondBare (inside.trans (List.suffix_append _ _).isInfix)).elim
    · rcases eq_nil_of_mark shifted with rfl | inside
      · rw [List.append_nil]
      · exact (firstBare (inside.trans (List.suffix_append _ _).isInfix)).elim
  subst one
  exact ⟨rfl, List.append_cancel_left (List.append_cancel_left same)⟩

end Mark

theorem pure_unless {fine : Prop} [Decidable fine] (front : List Change) (change : Change) :
    (if fine then pure front else pure (front ++ [change]) : Except Fault (List Change)) =
      .ok (front ++ if fine then [] else [change]) := by
  split
  · rw [List.append_nil]
    rfl
  · rfl

/-- Comparing two fields finds a change of the type and a change of the flag at their path, where they differ. -/
theorem exists_compareFields (path : String) {old new : Data} {oldForm newForm : FieldForm}
    (oldShows : FieldForm.of? old = some oldForm) (newShows : FieldForm.of? new = some newForm) :
    ∃ retyped relaxed : Change, compareFields path old new =
        .ok ((if oldForm.type = newForm.type then [] else [retyped]) ++
          if oldForm.required = newForm.required then [] else [relaxed]) ∧
      retyped.path = path ∧ relaxed.path = path := by
  rcases FieldForm.of?_eq_some.mp oldShows with ⟨oldName, oldType, _⟩
  rcases FieldForm.of?_eq_some.mp newShows with ⟨_, newType, _⟩
  unfold compareFields
  simp only [Data.member_of_get? oldType, Data.member_of_get? newType, Data.member_of_get? oldName,
    isRequired_of_form oldShows, isRequired_of_form newShows, ok_bind, Data.same_text, beq_iff_eq]
  refine ⟨_, _, pure_unless _ _, rfl, ?_⟩
  split <;> rfl

theorem path_of_appendedField {path : String} {name value : Data} {form : FieldForm}
    (shows : FieldForm.of? value = some form) {change : Change}
    (appended : appendedField path name value = .ok change) : change.path = path := by
  obtain ⟨_, type, _⟩ := FieldForm.of?_eq_some.mp shows
  unfold appendedField at appended
  rw [isRequired_of_form shows, Data.member_of_get? type] at appended
  dsimp only [bind, Except.bind] at appended
  cases required : form.required <;> rw [required] at appended <;> cases appended <;> rfl

section ChangesOfField

variable {path : String} {olds : List (Data × FieldForm)} (oldShows : ∀ old ∈ olds, FieldForm.of? old.1 = some old.2)
  {field : Data × FieldForm} (shows : FieldForm.of? field.1 = some field.2) {changes : List Change}
  (found : changesOfField path olds field = .ok changes)
include oldShows shows found

/-- The changes of a field of a new schema are at its path. -/
theorem path_of_changesOfField {change : Change} (changeMem : change ∈ changes) :
    change.path = fieldPath path (.text field.2.name) := by
  rw [changesOfField_eq] at found
  split at found
  · rcases bind_eq_ok.mp found with ⟨added, appended, isChanges⟩
    cases isChanges
    rw [List.mem_singleton.mp changeMem]
    exact path_of_appendedField shows appended
  · next old isOld =>
      rcases exists_compareFields (fieldPath path (.text field.2.name)) (oldShows old (Table.mem_of_lastOf? isOld).1)
        shows with ⟨retyped, relaxed, compared, retypedPath, relaxedPath⟩
      cases compared.symm.trans found
      rcases List.mem_append.mp changeMem with isRetyped | isRelaxed
      · rw [(mem_unless isRetyped).2, retypedPath]
      · rw [(mem_unless isRelaxed).2, relaxedPath]

/-- A field of a new schema has no changes exactly if the old schema has it: the last field of its name says the
same. -/
theorem changesOfField_eq_nil_iff :
    changes = [] ↔ Table.lastOf? FieldForm.name (olds.map Prod.snd) field.2.name = some field.2 := by
  rw [Table.lastOf?_map]
  rw [changesOfField_eq] at found
  split at found
  · next absent =>
      rcases bind_eq_ok.mp found with ⟨added, _, isChanges⟩
      cases isChanges
      rw [absent]
      exact iff_of_false (List.cons_ne_nil _ _) nofun
  · next old isOld =>
      rcases Table.mem_of_lastOf? isOld with ⟨oldMem, sameName⟩
      rcases exists_compareFields (fieldPath path (.text field.2.name)) (oldShows old oldMem) shows with
        ⟨_, _, compared, _, _⟩
      cases compared.symm.trans found
      rw [isOld, List.append_eq_nil_iff, unless_eq_nil_iff, unless_eq_nil_iff, Option.map_some, Option.some_inj]
      rcases old with ⟨_, name, type, required⟩
      rcases field with ⟨_, _, _, _⟩
      subst sameName
      simp

end ChangesOfField

theorem exists_of_mem_flatten {α : Type} {image : α → Except Fault (List Change)} {elements : List α}
    {parts : List (List Change)} (mapped : elements.mapM image = .ok parts) {change : Change}
    (changeMem : change ∈ parts.flatten) :
    ∃ element ∈ elements, ∃ part, image element = .ok part ∧ change ∈ part := by
  rcases List.mem_flatten.mp changeMem with ⟨part, partMem, inPart⟩
  rcases forall₂_exists_of_mem_right (Json.forall₂_of_mapM_ok mapped) partMem with ⟨element, elementMem, found⟩
  exact ⟨element, elementMem, part, found, inPart⟩

theorem exists_part_of_mem {α : Type} {image : α → Except Fault (List Change)} {elements : List α}
    {parts : List (List Change)} (mapped : elements.mapM image = .ok parts) {element : α}
    (elementMem : element ∈ elements) : ∃ part, image element = .ok part ∧ part ⊆ parts.flatten := by
  rcases Json.forall₂_exists_of_mem (Json.forall₂_of_mapM_ok mapped) elementMem with ⟨part, partMem, isPart⟩
  exact ⟨part, isPart, fun change changeMem => List.mem_flatten.mpr ⟨part, partMem, changeMem⟩⟩

/-- A change from a schema to another one: they are different, and the change is at the path of the schema or
of a field that is not the same in both. -/
structure SchemaChange (old new : SchemaForm) (change : Change) : Prop where
  /-- The schemas say something different. -/
  different : ¬(new.compact = old.compact ∧ new.fields = old.fields)
  /-- The change is about the schema or one of its fields. -/
  place : change.path = "Schema:" ++ old.address ∨
    ∃ name ∈ old.fields.map FieldForm.name ++ new.fields.map FieldForm.name,
      change.path = fieldPath ("Schema:" ++ old.address) (.text name) ∧
        ∀ field ∈ new.fields, field.name = name → field ∉ old.fields

theorem OwnChange.schemaChange {old new : SchemaForm} {change : Change} (own : OwnChange old new change) :
    SchemaChange old new change := by
  rcases own with ⟨isPath, different⟩ | ⟨name, inOld, notInNew, isPath⟩
  · exact ⟨fun same => different ⟨same.1, by rw [same.2]⟩, Or.inl isPath⟩
  · refine ⟨fun same => notInNew (by rw [same.2]; exact inOld),
      Or.inr ⟨name, List.mem_append_left _ inOld, isPath, ?_⟩⟩
    intro field fieldMem sameName
    exact (notInNew (sameName ▸ List.mem_map_of_mem fieldMem)).elim

section Parts

variable {old new : Data} {oldForm newForm : SchemaForm} {olds news : List (Data × FieldForm)}
  (oldEntry : SchemaEntry old oldForm olds) (newEntry : SchemaEntry new newForm news)
  (newDistinct : (newForm.fields.map FieldForm.name).Nodup) {changes : List Change}
  (compared : compareSchemas old new = .ok changes)
include oldEntry newEntry newDistinct compared

/-- The changes from a schema to another one are its own and those of the fields of the other one. -/
theorem ownChange_or_of_mem {change : Change} (changeMem : change ∈ changes) :
    OwnChange oldForm newForm change ∨
      ∃ field ∈ news, ∃ part, changesOfField ("Schema:" ++ oldForm.address) olds field = .ok part ∧
        change ∈ part := by
  rcases exists_ownChanges oldEntry newEntry newDistinct with ⟨own, asParts, _, areOwn⟩
  rcases bind_eq_ok.mp (asParts.symm.trans compared) with ⟨parts, mapped, whole⟩
  cases whole
  exact (List.mem_append.mp changeMem).imp (areOwn change) (exists_of_mem_flatten mapped)

/-- The changes of each field of a new schema are among those of the schema. -/
theorem exists_part_of_field {field : Data × FieldForm} (fieldMem : field ∈ news) :
    ∃ part, changesOfField ("Schema:" ++ oldForm.address) olds field = .ok part ∧ part ⊆ changes := by
  rcases exists_ownChanges oldEntry newEntry newDistinct with ⟨own, asParts, _, _⟩
  rcases bind_eq_ok.mp (asParts.symm.trans compared) with ⟨parts, mapped, whole⟩
  cases whole
  rcases exists_part_of_mem mapped fieldMem with ⟨part, isPart, inParts⟩
  exact ⟨part, isPart, List.subset_append_of_subset_right _ inParts⟩

end Parts

theorem mem_compareSchemas {old new : Data} {oldForm newForm : SchemaForm}
    (oldShows : SchemaForm.of? old = some oldForm) (newShows : SchemaForm.of? new = some newForm)
    (oldDistinct : (oldForm.fields.map FieldForm.name).Nodup)
    (newDistinct : (newForm.fields.map FieldForm.name).Nodup) {changes : List Change}
    (compared : compareSchemas old new = .ok changes) {change : Change} (changeMem : change ∈ changes) :
    SchemaChange oldForm newForm change := by
  rcases exists_schemaEntry oldShows with ⟨olds, oldEntry⟩
  rcases exists_schemaEntry newShows with ⟨news, newEntry⟩
  rcases ownChange_or_of_mem oldEntry newEntry newDistinct compared changeMem with
    isOwn | ⟨field, fieldMem, part, found, inPart⟩
  · exact isOwn.schemaChange
  have inNew : field.2 ∈ newForm.fields := newEntry.forms ▸ List.mem_map_of_mem fieldMem
  have isPath := path_of_changesOfField oldEntry.shows (newEntry.shows field fieldMem) found inPart
  have notInOld : field.2 ∉ oldForm.fields := by
    intro inOld
    have same := Table.lastOf?_of_mem oldDistinct inOld
    rw [← oldEntry.forms] at same
    rw [(changesOfField_eq_nil_iff oldEntry.shows (newEntry.shows field fieldMem) found).mpr same] at inPart
    cases inPart
  refine ⟨fun same => notInOld (same.2 ▸ inNew),
    Or.inr ⟨field.2.name, List.mem_append_right _ (List.mem_map_of_mem inNew), isPath, ?_⟩⟩
  intro other otherMem sameName
  rwa [List.inj_on_of_nodup_map newDistinct otherMem inNew sameName]

/-- A change from some schemas to others. -/
inductive ChangeAmong (olds news : List SchemaForm) (change : Change) : Prop
  /-- A full name is that of a schema on one side only. -/
  | alone {schema : SchemaForm} (isPath : change.path = "Schema:" ++ schema.address)
      (isThere : schema ∈ olds ++ news)
      (isAlone : ¬(schema.address ∈ olds.map SchemaForm.address ∧ schema.address ∈ news.map SchemaForm.address)) :
      ChangeAmong olds news change
  /-- A schema is different from the one of its full name. -/
  | common {old new : SchemaForm} (oldMem : old ∈ olds) (newMem : new ∈ news) (same : new.address = old.address)
      (changed : SchemaChange old new change) : ChangeAmong olds news change

theorem mem_diffSchemas {previous next : Data} {olds news : List SchemaForm}
    (oldLists : Lists (fun value form => SchemaForm.of? value = some form) "schema" previous olds)
    (newLists : Lists (fun value form => SchemaForm.of? value = some form) "schema" next news)
    (oldDistinct : (olds.map SchemaForm.address).Nodup) (newDistinct : (news.map SchemaForm.address).Nodup)
    (oldFields : ∀ old ∈ olds, (old.fields.map FieldForm.name).Nodup)
    (newFields : ∀ new ∈ news, (new.fields.map FieldForm.name).Nodup) {changes : List Change}
    (compared : diffSchemas previous next = .ok changes) {change : Change} (changeMem : change ∈ changes) :
    ChangeAmong olds news change := by
  rcases index_of_lists SchemaForm.address (fun shows => (SchemaForm.of?_eq_some.mp shows).1) oldLists oldDistinct
    with ⟨oldEntries, rfl, oldShows, oldIndex⟩
  rcases index_of_lists SchemaForm.address (fun shows => (SchemaForm.of?_eq_some.mp shows).1) newLists newDistinct
    with ⟨newEntries, rfl, newShows, newIndex⟩
  unfold diffSchemas at compared
  rw [oldIndex, newIndex, ok_bind, ok_bind] at compared
  rcases bind_eq_ok.mp compared with ⟨found, areFound, whole⟩
  cases whole
  rcases List.mem_append.mp changeMem with isRemoval | isFound
  · unfold removals at isRemoval
    rcases List.mem_map.mp isRemoval with ⟨entry, entryMem, rfl⟩
    rcases List.mem_filter.mp entryMem with ⟨inOld, notInNew⟩
    rw [textual_byAddress] at inOld
    rcases List.mem_map.mp inOld with ⟨old, oldMem, rfl⟩
    refine .alone rfl (List.mem_append_left _ (List.mem_map_of_mem oldMem)) fun both => ?_
    rw [Table.has_textual, Bool.not_eq_true', Option.isSome_eq_false_iff, Option.isNone_iff_eq_none,
      Table.lookup_eq_none, keys_byAddress] at notInNew
    exact notInNew (by simpa [Function.comp_def] using both.2)
  · unfold compareEntries at areFound
    rcases bind_eq_ok.mp areFound with ⟨parts, mapped, whole⟩
    cases whole
    rcases exists_of_mem_flatten mapped isFound with ⟨entry, entryMem, part, isPart, inPart⟩
    rw [textual_byAddress] at entryMem
    rcases List.mem_map.mp entryMem with ⟨new, newMem, rfl⟩
    dsimp only at isPart
    rw [Table.get?_textual] at isPart
    cases isOld : (byAddress SchemaForm.address oldEntries).lookup new.2.address with
    | none =>
        rw [isOld] at isPart
        cases isPart
        rw [List.mem_singleton] at inPart
        subst inPart
        refine .alone rfl (List.mem_append_right _ (List.mem_map_of_mem newMem)) fun both => ?_
        rw [Table.lookup_eq_none, keys_byAddress] at isOld
        exact isOld (by simpa [Function.comp_def] using both.1)
    | some value =>
        rw [isOld] at isPart
        rcases List.mem_map.mp (Table.mem_of_lookup isOld) with ⟨old, oldMem, same⟩
        rcases Prod.mk.inj same with ⟨sameAddress, rfl⟩
        have inOld := List.mem_map_of_mem (f := Prod.snd) oldMem
        have inNew := List.mem_map_of_mem (f := Prod.snd) newMem
        exact .common inOld inNew sameAddress.symm (mem_compareSchemas (oldShows old oldMem) (newShows new newMem)
          (oldFields _ inOld) (newFields _ inNew) isPart inPart)

/-- A change is at a path or at a field below it. -/
def Touches (change : Change) (path : String) : Prop :=
  change.path = path ∨ ∃ rest, change.path.toList = path.toList ++ (".field:".toList ++ rest)

theorem isTouched_eq_false {changes : List Change} {path : String}
    (none : ∀ change ∈ changes, ¬Touches change path) : isTouched changes path = false := by
  unfold isTouched
  rw [List.any_eq_false]
  intro change changeMem test
  rw [Bool.or_eq_true, beq_iff_eq, List.isPrefixOf_iff_prefix] at test
  refine none change changeMem (test.imp_right fun ⟨rest, whole⟩ => ⟨rest, ?_⟩)
  rw [← whole, String.toList_append, List.append_assoc]

theorem isTouched_eq_true {changes : List Change} {change : Change} (changeMem : change ∈ changes) {path : String}
    (touches : Touches change path) : isTouched changes path = true := by
  unfold isTouched
  refine List.any_eq_true.mpr ⟨change, changeMem, ?_⟩
  rw [Bool.or_eq_true, beq_iff_eq, List.isPrefixOf_iff_prefix]
  refine touches.imp_right fun ⟨rest, whole⟩ => ⟨rest, ?_⟩
  rw [whole, String.toList_append, List.append_assoc]

theorem isTouched_of_subset {part changes : List Change} (inChanges : part ⊆ changes) {path : String}
    (touched : isTouched part path = true) : isTouched changes path = true := by
  rcases List.any_eq_true.mp touched with ⟨change, changeMem, test⟩
  exact List.any_eq_true.mpr ⟨change, inChanges changeMem, test⟩

section Paths

variable {address other name another : String}

theorem toList_fieldPath (path name : String) :
    (fieldPath path (.text name)).toList = path.toList ++ (".field:".toList ++ name.toList) := by
  rw [fieldPath, Data.display, String.toList_append, String.toList_append, List.append_assoc]

theorem isMarked_of_eq {rest : List Char}
    (same : ("Schema:" ++ other).toList = ("Schema:" ++ address).toList ++ (".field:".toList ++ rest)) :
    IsMarked other := by
  rw [String.toList_append, String.toList_append, List.append_assoc] at same
  unfold IsMarked
  rw [List.append_cancel_left same]
  exact ⟨address.toList, rest, by rw [List.append_assoc]⟩

theorem split_inj (bare : ¬IsMarked address) (otherBare : ¬IsMarked other) {rest more : List Char}
    (same : ("Schema:" ++ address).toList ++ (".field:".toList ++ rest) =
      ("Schema:" ++ other).toList ++ (".field:".toList ++ more)) : address = other ∧ rest = more := by
  rw [String.toList_append, String.toList_append, List.append_assoc, List.append_assoc] at same
  rcases mark_inj bare otherBare (List.append_cancel_left same) with ⟨sameText, sameRest⟩
  exact ⟨String.toList_inj.mp sameText, sameRest⟩

variable {change : Change}

/-- A change at the path of a schema touches that schema only. -/
theorem Touches.eq_of_schema (isPath : change.path = "Schema:" ++ other) (otherBare : ¬IsMarked other)
    (touches : Touches change ("Schema:" ++ address)) : other = address := by
  rw [Touches, isPath] at touches
  rcases touches with same | ⟨rest, whole⟩
  · rw [← String.toList_inj, String.toList_append, String.toList_append] at same
    exact String.toList_inj.mp (List.append_cancel_left same)
  · exact (otherBare (isMarked_of_eq whole)).elim

/-- A change at the path of a schema touches no field. -/
theorem not_touches_field (isPath : change.path = "Schema:" ++ other) (otherBare : ¬IsMarked other) :
    ¬Touches change (fieldPath ("Schema:" ++ address) (.text name)) := by
  rw [Touches, isPath, toList_fieldPath]
  rintro (same | ⟨rest, whole⟩)
  · rw [← String.toList_inj, toList_fieldPath] at same
    exact otherBare (isMarked_of_eq same)
  · rw [List.append_assoc, List.append_assoc] at whole
    exact otherBare (isMarked_of_eq whole)

/-- A change at the path of a field touches its schema only. -/
theorem Touches.eq_of_field (isPath : change.path = fieldPath ("Schema:" ++ other) (.text another))
    (bare : ¬IsMarked address) (otherBare : ¬IsMarked other)
    (touches : Touches change ("Schema:" ++ address)) : other = address := by
  rw [Touches, isPath, toList_fieldPath] at touches
  rcases touches with same | ⟨rest, whole⟩
  · rw [← String.toList_inj, toList_fieldPath] at same
    exact (bare (isMarked_of_eq same.symm)).elim
  · exact (split_inj otherBare bare whole).1

/-- A change at the path of a field touches that field only, unless its name has the mark. -/
theorem Touches.eq_of_fields (isPath : change.path = fieldPath ("Schema:" ++ other) (.text another))
    (bare : ¬IsMarked address) (otherBare : ¬IsMarked other)
    (touches : Touches change (fieldPath ("Schema:" ++ address) (.text name))) :
    other = address ∧ (¬IsMarked another → another = name) := by
  rw [Touches, isPath, toList_fieldPath, toList_fieldPath] at touches
  rcases touches with same | ⟨rest, whole⟩
  · rw [← String.toList_inj, toList_fieldPath, toList_fieldPath] at same
    rcases split_inj otherBare bare same with ⟨sameAddress, sameName⟩
    exact ⟨sameAddress, fun _ => String.toList_inj.mp sameName⟩
  · rw [List.append_assoc, List.append_assoc] at whole
    rcases split_inj otherBare bare whole with ⟨sameAddress, sameName⟩
    refine ⟨sameAddress, fun anotherBare => (anotherBare ?_).elim⟩
    unfold IsMarked
    rw [sameName]
    exact ⟨name.toList, rest, by rw [List.append_assoc]⟩

end Paths

section Untouched

variable {olds news : List SchemaForm} {changes : List Change}
  (among : ∀ change ∈ changes, ChangeAmong olds news change)
  (bare : ∀ schema ∈ olds ++ news, ¬IsMarked schema.address)
  (oldDistinct : (olds.map SchemaForm.address).Nodup) (newDistinct : (news.map SchemaForm.address).Nodup)
  {old new : SchemaForm} (oldMem : old ∈ olds) (newMem : new ∈ news) (same : new.address = old.address)
include among bare oldDistinct newDistinct oldMem newMem same

/-- A schema that says what it said is not touched. -/
theorem isTouched_schema (sameCompact : new.compact = old.compact) (sameFields : new.fields = old.fields) :
    isTouched changes ("Schema:" ++ old.address) = false := by
  have oldBare := bare old (List.mem_append_left _ oldMem)
  refine isTouched_eq_false fun change changeMem touches => ?_
  cases among change changeMem with
  | alone isPath isThere isAlone =>
      have one := touches.eq_of_schema isPath (bare _ isThere)
      exact isAlone (one ▸ ⟨List.mem_map_of_mem oldMem, same ▸ List.mem_map_of_mem newMem⟩)
  | @common old' new' oldMem' newMem' same' changed =>
      have one : old'.address = old.address := by
        have otherBare := bare old' (List.mem_append_left _ oldMem')
        rcases changed.place with isPath | ⟨_, _, isPath, _⟩
        · exact touches.eq_of_schema isPath otherBare
        · exact touches.eq_of_field isPath oldBare otherBare
      rw [List.inj_on_of_nodup_map oldDistinct oldMem' oldMem one,
        List.inj_on_of_nodup_map newDistinct newMem' newMem (same'.trans (one.trans same.symm))] at changed
      exact changed.different ⟨sameCompact, sameFields⟩

/-- A field that says what it said is not touched. -/
theorem isTouched_field {field : FieldForm} (inOld : field ∈ old.fields) (inNew : field ∈ new.fields)
    (fieldsBare : ∀ field ∈ old.fields ++ new.fields, ¬IsMarked field.name) :
    isTouched changes (fieldPath ("Schema:" ++ old.address) (.text field.name)) = false := by
  have oldBare := bare old (List.mem_append_left _ oldMem)
  refine isTouched_eq_false fun change changeMem touches => ?_
  cases among change changeMem with
  | alone isPath isThere isAlone => exact not_touches_field isPath (bare _ isThere) touches
  | @common old' new' oldMem' newMem' same' changed =>
      have otherBare := bare old' (List.mem_append_left _ oldMem')
      rcases changed.place with isPath | ⟨name, nameMem, isPath, different⟩
      · exact not_touches_field isPath otherBare touches
      · rcases touches.eq_of_fields isPath oldBare otherBare with ⟨one, isName⟩
        rw [List.inj_on_of_nodup_map oldDistinct oldMem' oldMem one,
          List.inj_on_of_nodup_map newDistinct newMem' newMem (same'.trans (one.trans same.symm))] at nameMem different
        have bareName : ¬IsMarked name := by
          rw [← List.map_append] at nameMem
          rcases List.mem_map.mp nameMem with ⟨other, otherMem, rfl⟩
          exact fieldsBare other otherMem
        exact different field inNew (isName bareName).symm inOld

end Untouched

end Manifest

end SpecGraph
