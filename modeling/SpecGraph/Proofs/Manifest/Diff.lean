import SpecGraph.Proofs.Effect
import SpecGraph.Proofs.Manifest.Form

/-!
# When a manifest extends another one

A schema extends an earlier one if it has the same flag, starts with the same fields in the same places,
where a required field may have become optional, and goes on with optional fields only. Comparing the two
finds no breaking change exactly if the later one extends the earlier one. Likewise two manifests are
compared without a breaking change exactly if every entry of the earlier one has an entry of the same
address in the later one that extends it, which for collections and dispatches is to say the same.
-/

namespace SpecGraph

/-- A field that has the name and the type of an earlier one, and is not required if that was not. -/
def FieldForm.ExtendedBy (old new : FieldForm) : Prop :=
  new.name = old.name ∧ new.type = old.type ∧ (old.required = false → new.required = false)

/-- A schema that has the flag of an earlier one, and its fields with optional fields after them. -/
def SchemaForm.ExtendedBy (old new : SchemaForm) : Prop :=
  new.compact = old.compact ∧ ∃ kept added, new.fields = kept ++ added ∧
    List.Forall₂ FieldForm.ExtendedBy old.fields kept ∧ ∀ field ∈ added, field.required = false

section Lists

variable {α β γ : Type} {relation : α → β → Prop}

theorem forall₂_append_left {front back : List α} {others : List β}
    (all : List.Forall₂ relation (front ++ back) others) :
    ∃ first second, others = first ++ second ∧ List.Forall₂ relation front first ∧
      List.Forall₂ relation back second := by
  induction front generalizing others with
  | nil => exact ⟨[], others, rfl, List.Forall₂.nil, all⟩
  | cons element rest ih =>
      cases all with
      | cons here there =>
          obtain ⟨first, second, rfl, front, back⟩ := ih there
          exact ⟨_ :: first, second, rfl, List.Forall₂.cons here front, back⟩

theorem forall₂_trans {before : α → β → Prop} {after : β → γ → Prop} {whole : α → γ → Prop}
    (chain : ∀ first second third, before first second → after second third → whole first third)
    {firsts : List α} {seconds : List β} {thirds : List γ} (early : List.Forall₂ before firsts seconds)
    (late : List.Forall₂ after seconds thirds) : List.Forall₂ whole firsts thirds := by
  induction early generalizing thirds with
  | nil =>
      cases late
      exact List.Forall₂.nil
  | cons here _ ih =>
      cases late with
      | cons next others => exact List.Forall₂.cons (chain _ _ _ here next) (ih others)

theorem forall₂_exists_of_mem_right {lefts : List α} {rights : List β}
    (all : List.Forall₂ relation lefts rights) {right : β} (right_mem : right ∈ rights) :
    ∃ left ∈ lefts, relation left right := by
  induction all with
  | nil => cases right_mem
  | @cons first second _ _ related _ ih =>
      rcases List.mem_cons.mp right_mem with rfl | later
      · exact ⟨first, List.mem_cons_self, related⟩
      · obtain ⟨left, left_mem, found⟩ := ih later
        exact ⟨left, List.mem_cons_of_mem _ left_mem, found⟩

/-- Related lists are the two sides of a list of related pairs. -/
theorem exists_pairs {lefts : List α} {rights : List β} (all : List.Forall₂ relation lefts rights) :
    ∃ pairs : List (α × β), pairs.map Prod.fst = lefts ∧ pairs.map Prod.snd = rights ∧
      ∀ pair ∈ pairs, relation pair.1 pair.2 := by
  obtain ⟨same, related⟩ := List.forall₂_iff_zip.mp all
  exact ⟨lefts.zip rights, List.map_fst_zip (Nat.le_of_eq same), List.map_snd_zip (Nat.le_of_eq same.symm),
    fun pair pair_mem => related pair_mem⟩

theorem exists_mapM {ε : Type} {image : α → Except ε β} {elements : List α}
    (each : ∀ element ∈ elements, ∃ result, image element = .ok result ∧ relation element result) :
    ∃ results, elements.mapM image = .ok results ∧ List.Forall₂ relation elements results := by
  induction elements with
  | nil => exact ⟨[], rfl, List.Forall₂.nil⟩
  | cons element rest ih =>
      obtain ⟨result, found, related⟩ := each element List.mem_cons_self
      obtain ⟨others, allFound, allRelated⟩ :=
        ih fun other other_mem => each other (List.mem_cons_of_mem _ other_mem)
      refine ⟨result :: others, ?_, List.Forall₂.cons related allRelated⟩
      rw [List.mapM_cons, found, allFound]
      rfl

end Lists

namespace FieldForm

theorem ExtendedBy.refl (field : FieldForm) : field.ExtendedBy field := ⟨rfl, rfl, id⟩

theorem ExtendedBy.trans {first second third : FieldForm} (before : first.ExtendedBy second)
    (after : second.ExtendedBy third) : first.ExtendedBy third :=
  ⟨after.1.trans before.1, after.2.1.trans before.2.1,
    fun optional => after.2.2 (before.2.2 optional)⟩

end FieldForm

namespace SchemaForm

theorem ExtendedBy.refl (schema : SchemaForm) : schema.ExtendedBy schema :=
  ⟨rfl, schema.fields, [], (List.append_nil _).symm,
    List.forall₂_same.mpr fun field _ => FieldForm.ExtendedBy.refl field, by simp⟩

/-- An extension of an extension is an extension. -/
theorem ExtendedBy.trans {first second third : SchemaForm} (before : first.ExtendedBy second)
    (after : second.ExtendedBy third) : first.ExtendedBy third := by
  obtain ⟨compact, kept, added, fields, keeps, adds⟩ := before
  obtain ⟨laterCompact, laterKept, laterAdded, laterFields, laterKeeps, laterAdds⟩ := after
  rw [fields] at laterKeeps
  obtain ⟨front, back, rfl, frontKeeps, backKeeps⟩ := forall₂_append_left laterKeeps
  refine ⟨laterCompact.trans compact, front, back ++ laterAdded, by rw [laterFields, List.append_assoc],
    forall₂_trans (fun _ _ _ before after => before.trans after) keeps frontKeeps, ?_⟩
  intro field field_mem
  rcases List.mem_append.mp field_mem with inBack | inAdded
  · obtain ⟨earlier, earlier_mem, extends_⟩ := forall₂_exists_of_mem_right backKeeps inBack
    exact extends_.2.2 (adds earlier earlier_mem)
  · exact laterAdds field inAdded

end SchemaForm

/-- Fields extend others of other names if they start with the same names in the same places, each field
with an earlier one of its name extends that, and the others are optional. -/
theorem exists_extension_iff {old new : List FieldForm} (distinct : (new.map FieldForm.name).Nodup) :
    (∃ kept added, new = kept ++ added ∧ List.Forall₂ FieldForm.ExtendedBy old kept ∧
      ∀ field ∈ added, field.required = false) ↔
    (new.map FieldForm.name).take old.length = old.map FieldForm.name ∧
      ∀ field ∈ new,
        (∀ previous ∈ old, previous.name = field.name →
          field.type = previous.type ∧ (previous.required = false → field.required = false)) ∧
        (field.name ∉ old.map FieldForm.name → field.required = false) := by
  constructor
  · rintro ⟨kept, added, rfl, keeps, adds⟩
    have length := keeps.length_eq
    have names : kept.map FieldForm.name = old.map FieldForm.name := by
      rw [← List.forall₂_eq_eq_eq, List.forall₂_map_left_iff, List.forall₂_map_right_iff]
      exact keeps.flip.imp fun _ _ extends_ => extends_.1
    rw [List.map_append] at distinct ⊢
    refine ⟨by rw [List.take_left' (by rw [List.length_map, length]), names], ?_⟩
    intro field field_mem
    rcases List.mem_append.mp field_mem with inKept | inAdded
    · obtain ⟨earlier, earlier_mem, extends_⟩ := forall₂_exists_of_mem_right keeps inKept
      refine ⟨?_, fun absent => (absent ?_).elim⟩
      · intro previous previous_mem sameName
        have same : previous = earlier := by
          have oldDistinct : (old.map FieldForm.name).Nodup := names ▸ (List.nodup_append.mp distinct).1
          exact List.inj_on_of_nodup_map oldDistinct previous_mem earlier_mem
            (sameName.trans extends_.1)
        exact same ▸ extends_.2
      · exact extends_.1 ▸ List.mem_map_of_mem earlier_mem
    · refine ⟨?_, fun _ => adds field inAdded⟩
      intro previous previous_mem sameName
      have inNames : field.name ∈ kept.map FieldForm.name :=
        names ▸ sameName ▸ List.mem_map_of_mem previous_mem
      exact ((List.nodup_append.mp distinct).2.2 _ inNames _ (List.mem_map_of_mem inAdded) rfl).elim
  · rintro ⟨starts, fields⟩
    have names : (new.take old.length).map FieldForm.name = old.map FieldForm.name := by
      rw [List.map_take, starts]
    have named : List.Forall₂ (fun previous field : FieldForm => previous.name = field.name) old
        (new.take old.length) := by
      rw [← List.forall₂_eq_eq_eq, List.forall₂_map_left_iff, List.forall₂_map_right_iff] at names
      exact names.flip.imp fun _ _ same => same.symm
    refine ⟨new.take old.length, new.drop old.length, (List.take_append_drop _ _).symm, ?_, ?_⟩
    · rw [List.forall₂_iff_zip] at named ⊢
      refine ⟨named.1, fun {previous field} pair_mem => ?_⟩
      obtain ⟨previous_mem, field_mem⟩ := List.of_mem_zip pair_mem
      have sameName := named.2 pair_mem
      exact ⟨sameName.symm,
        (fields field (List.mem_of_mem_take field_mem)).1 previous previous_mem sameName⟩
    · intro field field_mem
      refine (fields field (List.mem_of_mem_drop field_mem)).2 fun inOld => ?_
      rw [← names] at inOld
      rw [← List.take_append_drop old.length new, List.map_append] at distinct
      exact (List.nodup_append.mp distinct).2.2 _ inOld _ (List.mem_map_of_mem field_mem) rfl

namespace Manifest

theorem breaking_append (front back : List Change) :
    breaking (front ++ back) = breaking front ++ breaking back :=
  List.filter_append _ _

theorem breaking_flatten_eq_nil {changes : List (List Change)} :
    breaking changes.flatten = [] ↔ ∀ part ∈ changes, breaking part = [] := by
  simp only [breaking, List.filter_eq_nil_iff, List.mem_flatten]
  constructor
  · intro none part part_mem change change_mem
    exact none change ⟨part, part_mem, change_mem⟩
  · rintro none change ⟨part, part_mem, change_mem⟩
    exact none part part_mem change change_mem

theorem isRequired_of_form {value : Data} {form : FieldForm} (shows : FieldForm.of? value = some form) :
    isRequired value = .ok form.required := by
  obtain ⟨_, _, required⟩ := FieldForm.of?_eq_some.mp shows
  rw [isRequired, Data.memberOr_of_get? required]
  rfl

/-- Two fields are compared without a breaking change exactly if the type is the same and no optional
field becomes required. -/
theorem compareFields_of_forms (path : String) {old new : Data} {oldForm newForm : FieldForm}
    (oldShows : FieldForm.of? old = some oldForm) (newShows : FieldForm.of? new = some newForm) :
    ∃ changes, compareFields path old new = .ok changes ∧
      (breaking changes = [] ↔ newForm.type = oldForm.type ∧
        (oldForm.required = false → newForm.required = false)) := by
  obtain ⟨oldName, oldType, _⟩ := FieldForm.of?_eq_some.mp oldShows
  obtain ⟨_, newType, _⟩ := FieldForm.of?_eq_some.mp newShows
  unfold compareFields
  rw [Data.member_of_get? oldType, Data.member_of_get? newType, isRequired_of_form oldShows,
    isRequired_of_form newShows]
  dsimp only [bind, Except.bind]
  rw [Data.same_text, Data.member_of_get? oldName]
  by_cases retyped : oldForm.type = newForm.type
  · cases oldForm.required <;> cases newForm.required <;>
      exact ⟨_, rfl, by simp [retyped, breaking, Change.isBreaking, ChangeKind.isBreaking]⟩
  · have test : (oldForm.type == newForm.type) = false := beq_eq_false_iff_ne.mpr retyped
    rw [test]
    cases oldForm.required <;> cases newForm.required <;>
      exact ⟨_, rfl, by simp [Ne.symm retyped, breaking, Change.isBreaking, ChangeKind.isBreaking]⟩

theorem appendedField_of_form (path : String) (name : Data) {value : Data} {form : FieldForm}
    (shows : FieldForm.of? value = some form) :
    ∃ change, appendedField path name value = .ok change ∧
      (breaking [change] = [] ↔ form.required = false) := by
  obtain ⟨_, type, _⟩ := FieldForm.of?_eq_some.mp shows
  unfold appendedField
  rw [isRequired_of_form shows, Data.member_of_get? type]
  dsimp only [bind, Except.bind]
  cases form.required <;>
    exact ⟨_, rfl, by simp [breaking, Change.isBreaking, ChangeKind.isBreaking]⟩

theorem mapM_member_name {fields : List (Data × FieldForm)}
    (shows : ∀ field ∈ fields, FieldForm.of? field.1 = some field.2) :
    (fields.map Prod.fst).mapM (fun field => field.member "name") =
      .ok ((fields.map fun field => field.2.name).map Data.text) := by
  induction fields with
  | nil => rfl
  | cons field rest ih =>
      have name := (FieldForm.of?_eq_some.mp (shows field List.mem_cons_self)).1
      rw [List.map_cons, List.mapM_cons, Data.member_of_get? name,
        ih fun other other_mem => shows other (List.mem_cons_of_mem _ other_mem)]
      rfl

/-- The table of fields by name. -/
theorem keyedBy_name {fields : List (Data × FieldForm)}
    (shows : ∀ field ∈ fields, FieldForm.of? field.1 = some field.2) :
    Table.keyedBy (fields.map Prod.fst) (fun field => field.member "name") =
      .ok (Table.textual (Table.insertTexts [] (fields.map fun field => (field.2.name, field.1)))) :=
  Table.keyedBy_map fun field field_mem =>
    Data.member_of_get? (FieldForm.of?_eq_some.mp (shows field field_mem)).1

theorem breaking_map_eq_nil {α : Type} {items : List α} {change : α → Change}
    (breaks : ∀ item ∈ items, (change item).isBreaking = true) :
    breaking (items.map change) = [] ↔ items = [] := by
  cases items with
  | nil => simp [breaking]
  | cons item rest => simp [breaking, breaks item List.mem_cons_self]

theorem ok_bind {ε α β : Type} (value : α) (next : α → Except ε β) :
    (.ok value >>= next) = next value := rfl

theorem exists_bind_mapM {α β γ ε : Type} (relation : α → β → Prop) {image : α → Except ε β}
    {elements : List α} {next : List β → Except ε γ} {goal : γ → Prop}
    (each : ∀ element ∈ elements, ∃ result, image element = .ok result ∧ relation element result)
    (after : ∀ results, List.Forall₂ relation elements results → ∃ last, next results = .ok last ∧ goal last) :
    ∃ last, (elements.mapM image >>= next) = .ok last ∧ goal last := by
  obtain ⟨results, found, related⟩ := exists_mapM each
  rw [found]
  exact after results related

theorem breaking_unless {fine : Prop} [Decidable fine] {change : Change}
    (breaks : change.isBreaking = true) :
    breaking (if fine then [] else [change]) = [] ↔ fine := by
  by_cases holds : fine <;> simp [holds, breaking, breaks]

theorem mem_unless {fine : Prop} [Decidable fine] {change other : Change}
    (there : change ∈ if fine then [] else [other]) : ¬fine ∧ change = other := by
  by_cases holds : fine
  · rw [if_pos holds] at there
    exact (List.not_mem_nil there).elim
  · rw [if_neg holds, List.mem_singleton] at there
    exact ⟨holds, there⟩

theorem unless_eq_nil_iff {fine : Prop} [Decidable fine] {change : Change} :
    (if fine then [] else [change]) = [] ↔ fine := by
  split <;> simp_all

/-- What comparing a field of a new schema with the fields of an old one may find. -/
structure FieldChanges (olds : List (Data × FieldForm)) (field : FieldForm) (changes : List Change) :
    Prop where
  /-- The earlier field of the name is compared with the field. -/
  compared : ∀ old ∈ olds,
    (Table.insertTexts [] (olds.map fun old => (old.2.name, old.1))).lookup field.name = some old.1 →
      (breaking changes = [] ↔ field.type = old.2.type ∧ (old.2.required = false → field.required = false))
  /-- A field without an earlier one of its name breaks the schema if it is required. -/
  added : field.name ∉ olds.map (fun old => old.2.name) →
    (breaking changes = [] ↔ field.required = false)

/-- The changes of a field of a new schema, given the fields of an old one. -/
def changesOfField (path : String) (olds : List (Data × FieldForm)) (field : Data × FieldForm) :
    Except Fault (List Change) :=
  let path := fieldPath path (.text field.2.name)
  match (Table.insertTexts [] (olds.map fun old => (old.2.name, old.1))).lookup field.2.name with
  | none => do
      let change ← appendedField path (.text field.2.name) field.1
      return [change]
  | some previous => compareFields path previous field.1

/-- A field is compared with the last one of its name. -/
theorem changesOfField_eq (path : String) (olds : List (Data × FieldForm)) (field : Data × FieldForm) :
    changesOfField path olds field =
      match Table.lastOf? (fun old : Data × FieldForm => old.2.name) olds field.2.name with
      | none => do
          let change ← appendedField (fieldPath path (.text field.2.name)) (.text field.2.name) field.1
          return [change]
      | some old => compareFields (fieldPath path (.text field.2.name)) old.1 field.1 := by
  rw [changesOfField, Table.lookup_insertTexts_map (fun old : Data × FieldForm => old.2.name) Prod.fst]
  cases Table.lastOf? (fun old : Data × FieldForm => old.2.name) olds field.2.name <;> rfl

theorem exists_fieldChanges (path : String) {olds : List (Data × FieldForm)}
    (oldShows : ∀ field ∈ olds, FieldForm.of? field.1 = some field.2) {value : Data}
    {form : FieldForm} (shows : FieldForm.of? value = some form) :
    ∃ changes, changesOfField path olds (value, form) = .ok changes ∧ FieldChanges olds form changes := by
  unfold changesOfField
  dsimp only
  cases previous : (Table.insertTexts [] (olds.map fun old => (old.2.name, old.1))).lookup form.name with
  | none =>
      obtain ⟨change, found, breaks⟩ :=
        appendedField_of_form (fieldPath path (.text form.name)) (.text form.name) shows
      refine ⟨[change], by simp only [found]; rfl, fun old _ taken => ?_, fun _ => breaks⟩
      rw [previous] at taken
      cases taken
  | some earlier =>
      obtain ⟨old, old_mem, same⟩ := List.mem_map.mp (Table.mem_of_lookup_insertTexts previous)
      obtain ⟨sameName, rfl⟩ := Prod.mk.inj same
      obtain ⟨changes, found, breaks⟩ :=
        compareFields_of_forms (fieldPath path (.text form.name)) (oldShows old old_mem) shows
      refine ⟨changes, found, fun other other_mem taken => ?_, fun absent => (absent ?_).elim⟩
      · have sameForm : old.2 = other.2 := by
          have shown := oldShows other other_mem
          rw [← Option.some.inj (previous.symm.trans taken), oldShows old old_mem] at shown
          exact Option.some.inj shown
        rw [← sameForm]
        exact breaks
      · exact List.mem_map.mpr ⟨old, old_mem, sameName⟩

/-- No breaking change is found among the fields exactly if each extends the earlier one of its name or is
optional. -/
theorem fieldChanges_eq_nil_iff {olds news : List (Data × FieldForm)} {parts : List (List Change)}
    (distinct : (olds.map fun old => old.2.name).Nodup)
    (found : List.Forall₂ (fun field changes => FieldChanges olds field.2 changes) news parts) :
    (∀ part ∈ parts, breaking part = []) ↔
      ∀ field ∈ news.map Prod.snd,
        (∀ previous ∈ olds.map Prod.snd, previous.name = field.name →
          field.type = previous.type ∧ (previous.required = false → field.required = false)) ∧
        (field.name ∉ (olds.map Prod.snd).map FieldForm.name → field.required = false) := by
  have lookup {old : Data × FieldForm} (old_mem : old ∈ olds) :
      (Table.insertTexts [] (olds.map fun old => (old.2.name, old.1))).lookup old.2.name =
        some old.1 := by
    have distinctKeys : ((olds.map fun old => (old.2.name, old.1)).map Prod.fst).Nodup := by
      simpa [Function.comp_def] using distinct
    rw [Table.insertTexts_of_nodup [] _ (by simpa using distinctKeys)]
    exact Table.lookup_of_mem distinctKeys (List.mem_map.mpr ⟨old, old_mem, rfl⟩)
  have one {field : Data × FieldForm} {part : List Change} (changes : FieldChanges olds field.2 part) :
      breaking part = [] ↔
        (∀ previous ∈ olds.map Prod.snd, previous.name = field.2.name →
          field.2.type = previous.type ∧ (previous.required = false → field.2.required = false)) ∧
        (field.2.name ∉ (olds.map Prod.snd).map FieldForm.name → field.2.required = false) := by
    by_cases known : field.2.name ∈ (olds.map Prod.snd).map FieldForm.name
    · rw [List.map_map] at known
      obtain ⟨old, old_mem, sameName⟩ := List.mem_map.mp known
      have compared := changes.compared old old_mem (sameName ▸ lookup old_mem)
      rw [compared]
      constructor
      · intro extends_
        refine ⟨fun previous previous_mem name => ?_, fun absent => (absent ?_).elim⟩
        · obtain ⟨other, other_mem, rfl⟩ := List.mem_map.mp previous_mem
          have same := List.inj_on_of_nodup_map distinct other_mem old_mem (name.trans sameName.symm)
          exact same ▸ extends_
        · rw [← sameName]
          exact List.mem_map_of_mem (List.mem_map_of_mem old_mem)
      · rintro ⟨all, _⟩
        exact all old.2 (List.mem_map_of_mem old_mem) sameName
    · have absent : field.2.name ∉ olds.map (fun old => old.2.name) := by
        simpa [Function.comp_def] using known
      rw [changes.added absent]
      refine ⟨fun optional => ⟨fun previous previous_mem name => ?_, fun _ => optional⟩,
        fun all => all.2 known⟩
      exact (known (name ▸ List.mem_map_of_mem previous_mem)).elim
  induction found with
  | nil => simp
  | cons here there ih =>
      rw [List.forall_mem_cons, List.map_cons, List.forall_mem_cons]
      exact and_congr (one here) ih

/-- All names of one list are at the start of another one exactly if none of them is removed and those that
are kept stand in the same places. -/
theorem take_names_iff (oldNames : List String) {newNames : List String} {kept : Data → Bool}
    (isKept : ∀ name, kept (.text name) = true ↔ name ∈ newNames) :
    newNames.take oldNames.length = oldNames ↔
      (oldNames.map Data.text).filter (fun name => !kept name) = [] ∧
        (Data.list ((newNames.map Data.text).take ((oldNames.map Data.text).filter kept).length)).same
          (.list ((oldNames.map Data.text).filter kept)) = true := by
  have all : (oldNames.map Data.text).filter (fun name => !kept name) = [] ↔
      ∀ name ∈ oldNames, name ∈ newNames := by
    simp [List.filter_eq_nil_iff, isKept]
  rw [all]
  have keepsAll (there : ∀ name ∈ oldNames, name ∈ newNames) :
      (oldNames.map Data.text).filter kept = oldNames.map Data.text := by
    rw [List.filter_eq_self]
    intro value value_mem
    obtain ⟨name, name_mem, rfl⟩ := List.mem_map.mp value_mem
    exact (isKept name).mpr (there name name_mem)
  constructor
  · intro starts
    have there : ∀ name ∈ oldNames, name ∈ newNames := fun name name_mem =>
      List.mem_of_mem_take (starts.symm ▸ name_mem)
    refine ⟨there, ?_⟩
    rw [keepsAll there, List.length_map, ← List.map_take, starts, Data.same_texts]
    exact beq_self_eq_true _
  · rintro ⟨there, sameNames⟩
    rw [keepsAll there, List.length_map, ← List.map_take, Data.same_texts] at sameNames
    exact beq_iff_eq.mp sameNames

/-- A value is an entry for a schema whose fields are read from some values. -/
structure SchemaEntry (value : Data) (form : SchemaForm) (fields : List (Data × FieldForm)) : Prop where
  /-- The entry has the address of the schema. -/
  address : value.get? "fqn" = some (.text form.address)
  /-- The entry has the flag of the schema. -/
  compact : value.get? "compact" = some (.bool form.compact)
  /-- The entry has the values of the fields. -/
  values : value.get? "fields" = some (.list (fields.map Prod.fst))
  /-- The values are read as the fields of the schema. -/
  forms : fields.map Prod.snd = form.fields
  /-- Each value is read as its field. -/
  shows : ∀ field ∈ fields, FieldForm.of? field.1 = some field.2

theorem exists_schemaEntry {value : Data} {form : SchemaForm} (shows : SchemaForm.of? value = some form) :
    ∃ fields, SchemaEntry value form fields := by
  obtain ⟨address, compact, items, there, all⟩ := SchemaForm.of?_eq_some.mp shows
  obtain ⟨fields, rfl, forms, fieldShows⟩ := exists_pairs all
  exact ⟨fields, address, compact, there, forms, fieldShows⟩

theorem SchemaEntry.names {value : Data} {form : SchemaForm} {fields : List (Data × FieldForm)}
    (entry : SchemaEntry value form fields) :
    form.fields.map FieldForm.name = fields.map fun field => field.2.name := by
  rw [← entry.forms, List.map_map]
  rfl

/-- A change that is not about a field of the new schema: it is about the schema, whose flag or names are
different, or about a field that is removed. -/
def OwnChange (old new : SchemaForm) (change : Change) : Prop :=
  (change.path = "Schema:" ++ old.address ∧
    ¬(new.compact = old.compact ∧ new.fields.map FieldForm.name = old.fields.map FieldForm.name)) ∨
  ∃ name ∈ old.fields.map FieldForm.name, name ∉ new.fields.map FieldForm.name ∧
    change.path = fieldPath ("Schema:" ++ old.address) (.text name)

/-- Comparing schemas finds changes of the schema and of each of its new fields. -/
theorem exists_ownChanges {old new : Data} {oldForm newForm : SchemaForm} {olds news : List (Data × FieldForm)}
    (oldEntry : SchemaEntry old oldForm olds) (newEntry : SchemaEntry new newForm news)
    (distinct : (newForm.fields.map FieldForm.name).Nodup) :
    ∃ own, compareSchemas old new =
        (news.mapM (changesOfField ("Schema:" ++ oldForm.address) olds) >>=
          fun parts => .ok (own ++ parts.flatten)) ∧
      (breaking own = [] ↔ newForm.compact = oldForm.compact ∧
        (newForm.fields.map FieldForm.name).take oldForm.fields.length =
          oldForm.fields.map FieldForm.name) ∧
      ∀ change ∈ own, OwnChange oldForm newForm change := by
  have newKeys : (news.map fun new => (new.2.name, new.1)).map Prod.fst =
      news.map fun new => new.2.name := by
    rw [List.map_map]
    rfl
  rw [newEntry.names] at distinct
  have newTable : Table.insertTexts [] (news.map fun new => (new.2.name, new.1)) =
      news.map fun new => (new.2.name, new.1) :=
    Table.insertTexts_of_nodup [] _ (newKeys ▸ distinct)
  have isKept (name : String) :
      (Table.textual (news.map fun new => (new.2.name, new.1))).has (.text name) = true ↔
        name ∈ news.map fun new => new.2.name := by
    rw [Table.has_textual, Option.isSome_iff_ne_none, ne_eq, Table.lookup_eq_none, not_not, newKeys]
  have starts := take_names_iff (olds.map fun old => old.2.name) isKept
  have truthy (flag : Bool) : (Data.bool flag).isTruthy = flag := rfl
  unfold compareSchemas
  rw [Data.member_of_get? oldEntry.address, Data.memberOr_of_get? oldEntry.compact,
    Data.memberOr_of_get? newEntry.compact, Data.memberOr_of_get? oldEntry.values,
    Data.memberOr_of_get? newEntry.values]
  simp only [ok_bind, Data.items_list, keyedBy_name oldEntry.shows, keyedBy_name newEntry.shows,
    mapM_member_name oldEntry.shows, mapM_member_name newEntry.shows, newTable]
  rw [List.mapM_map, List.mapM_map]
  have sameParts (field : Data × FieldForm) (fieldMem : field ∈ news) :
      (Table.textual (news.map fun new => (new.2.name, new.1))).get? (.text field.2.name) = some field.1 := by
    rw [Table.get?_textual]
    exact Table.lookup_of_mem (newKeys ▸ distinct) (List.mem_map.mpr ⟨field, fieldMem, rfl⟩)
  refine ⟨_, congrArg (· >>= _) (mapM_congr_left fun field fieldMem => ?_), ?_, ?_⟩
  · dsimp only [Function.comp_apply]
    rw [sameParts field fieldMem, Table.get?_textual]
    unfold changesOfField
    cases (Table.insertTexts [] (olds.map fun old => (old.2.name, old.1))).lookup field.2.name <;> rfl
  · rw [breaking_append, breaking_append, List.append_eq_nil_iff, List.append_eq_nil_iff,
      breaking_map_eq_nil fun _ _ => rfl, breaking_unless rfl, breaking_unless rfl, truthy, truthy, and_assoc,
      ← starts, newEntry.names, ← List.length_map (f := FieldForm.name), oldEntry.names,
      eq_comm (a := oldForm.compact)]
  · intro change changeMem
    rw [List.mem_append, List.mem_append] at changeMem
    unfold OwnChange
    rw [oldEntry.names, newEntry.names]
    rcases changeMem with (isPacked | isRemoved) | isMoved
    · rcases mem_unless isPacked with ⟨different, rfl⟩
      rw [truthy, truthy] at different
      exact Or.inl ⟨rfl, fun same => different same.1.symm⟩
    · rcases List.mem_map.mp isRemoved with ⟨value, valueMem, rfl⟩
      rcases List.mem_filter.mp valueMem with ⟨isName, notKept⟩
      rcases List.mem_map.mp isName with ⟨name, nameMem, rfl⟩
      refine Or.inr ⟨name, nameMem, fun there => ?_, rfl⟩
      rw [(isKept name).mpr there] at notKept
      cases notKept
    -- where the names are the same, all are kept and stand in their places
    · rcases mem_unless isMoved with ⟨different, rfl⟩
      refine Or.inl ⟨rfl, fun same => different ((starts.mp ?_).2)⟩
      rw [same.2, List.take_length]

/-- Two schemas are compared without a breaking change exactly if the new one extends the old one. -/
theorem compareSchemas_of_forms {old new : Data} {oldForm newForm : SchemaForm}
    (oldShows : SchemaForm.of? old = some oldForm) (newShows : SchemaForm.of? new = some newForm)
    (distinct : (newForm.fields.map FieldForm.name).Nodup) :
    ∃ changes, compareSchemas old new = .ok changes ∧
      (breaking changes = [] ↔ oldForm.ExtendedBy newForm) := by
  obtain ⟨olds, oldEntry⟩ := exists_schemaEntry oldShows
  obtain ⟨news, newEntry⟩ := exists_schemaEntry newShows
  obtain ⟨own, compared, breaks, _⟩ := exists_ownChanges oldEntry newEntry distinct
  rw [SchemaForm.ExtendedBy, exists_extension_iff distinct, compared]
  refine exists_bind_mapM (fun field changes => FieldChanges olds field.2 changes)
    (fun field field_mem => exists_fieldChanges _ oldEntry.shows (newEntry.shows field field_mem))
    (fun parts related => ⟨_, rfl, ?_⟩)
  rw [breaking_append, List.append_eq_nil_iff, breaking_flatten_eq_nil, breaks, and_assoc,
    and_congr_right_iff]
  intro _
  rw [and_congr_right_iff]
  intro sameStart
  have oldDistinct : (oldForm.fields.map FieldForm.name).Nodup :=
    sameStart ▸ distinct.sublist (List.take_sublist _ _)
  rw [oldEntry.names] at oldDistinct
  rw [fieldChanges_eq_nil_iff oldDistinct related, newEntry.forms, oldEntry.forms]

end Manifest

end SpecGraph
