import Mathlib.Data.List.Basic
import Mathlib.Data.List.Nodup
import SpecGraph.Data.Access
import SpecGraph.Proofs.Effect

/-!
# Tables with texts as keys

Two texts are alike exactly if they are equal, so a table whose keys are texts is an association list.
Adding under a key changes what is found under that key alone. A table of entries has under each key the
last value that the entries give it, and it is the list of the entries itself if no key occurs twice.
-/

namespace SpecGraph

namespace Data

@[simp]
theorem same_text (left right : String) : same (.text left) (.text right) = (left == right) := by
  simp [same, expanded, sameTrees, unmarked]

@[simp]
theorem alike_text (left right : String) : alike (.text left) (.text right) = (left == right) := by
  simp [alike, sameBits]

@[simp]
theorem isKey_text (value : String) : isKey (.text value) = true := rfl

theorem expandedItems_texts (values : List String) :
    expandedItems (values.map Data.text) = values.map Data.text := by
  induction values with
  | nil => rfl
  | cons value rest ih => simp [expandedItems, expanded, ih]

theorem sameLists_texts (left right : List String) :
    sameLists (left.map Data.text) (right.map Data.text) = (left == right) := by
  induction left generalizing right with
  | nil => cases right <;> simp [sameLists]
  | cons value rest ih =>
      cases right with
      | nil => simp [sameLists]
      | cons other others => simp [sameLists, sameBits, sameTrees, unmarked, ih]

/-- Two lists of texts are the same exactly if they are equal. -/
theorem same_texts (left right : List String) :
    same (.list (left.map Data.text)) (.list (right.map Data.text)) = (left == right) := by
  rw [same, expanded, expanded, expandedItems_texts, expandedItems_texts]
  simp [sameTrees, unmarked, sameLists_texts]

end Data

namespace Table

variable {α β : Type}

/-- The table of entries with texts as keys, in their order. -/
def textual (entries : List (String × α)) : Table α :=
  entries.map fun entry => (.text entry.1, entry.2)

theorem textual_cons (entry : String × α) (rest : List (String × α)) :
    textual (entry :: rest) = (.text entry.1, entry.2) :: textual rest := rfl

theorem has_eq_isSome_get? (table : Table α) (key : Data) :
    table.has key = (table.get? key).isSome := by
  rw [get?, Option.isSome_map, has, Bool.eq_iff_iff, List.any_eq_true, List.find?_isSome]

/-- What is found in a table with texts as keys. -/
@[simp]
theorem get?_textual (entries : List (String × α)) (key : String) :
    (textual entries).get? (.text key) = entries.lookup key := by
  induction entries with
  | nil => rfl
  | cons entry rest ih =>
      rw [textual_cons, get?, List.find?_cons, List.lookup_cons]
      by_cases equal : entry.1 = key
      · simp [equal]
      · have test : (entry.1 == key) = false := beq_eq_false_iff_ne.mpr equal
        have turned : (key == entry.1) = false := beq_eq_false_iff_ne.mpr (Ne.symm equal)
        rw [Data.alike_text, test, turned]
        exact ih

@[simp]
theorem has_textual (entries : List (String × α)) (key : String) :
    (textual entries).has (.text key) = (entries.lookup key).isSome := by
  rw [has_eq_isSome_get?, get?_textual]

/-- Entries with a value under a text, in the place of an earlier one or else at the end. -/
def insertText (entries : List (String × α)) (key : String) (value : α) : List (String × α) :=
  match entries with
  | [] => [(key, value)]
  | entry :: rest =>
      if entry.1 = key then (entry.1, value) :: rest else entry :: insertText rest key value

theorem insert_textual (entries : List (String × α)) (key : String) (value : α) :
    (textual entries).insert (.text key) value = textual (insertText entries key value) := by
  induction entries with
  | nil => rfl
  | cons entry rest ih =>
      rw [textual_cons, insert, insertText]
      by_cases equal : entry.1 = key
      · simp [equal, textual_cons]
      · simp [equal, textual_cons, ih]

theorem lookup_insertText (entries : List (String × α)) (key other : String) (value : α) :
    (insertText entries key value).lookup other =
      if other = key then some value else entries.lookup other := by
  induction entries with
  | nil =>
      by_cases equal : other = key
      · simp [insertText, equal]
      · simp [insertText, equal, List.lookup_cons, beq_eq_false_iff_ne.mpr equal]
  | cons entry rest ih =>
      rw [insertText]
      by_cases taken : entry.1 = key
      · rw [if_pos taken, List.lookup_cons, List.lookup_cons, taken]
        by_cases equal : other = key
        · simp [equal]
        · simp [equal, beq_eq_false_iff_ne.mpr equal]
      · rw [if_neg taken, List.lookup_cons, List.lookup_cons, ih]
        by_cases first : other = entry.1
        · have apart : ¬other = key := fun same => taken (first.symm.trans same)
          simp [first, taken]
        · simp [beq_eq_false_iff_ne.mpr first]

/-- The entries of a table after some more were added one by one. -/
def insertTexts (table entries : List (String × α)) : List (String × α) :=
  entries.foldl (fun table entry => insertText table entry.1 entry.2) table

theorem foldl_insert_textual (table entries : List (String × α)) :
    (textual entries).foldl (fun table entry => insert table entry.1 entry.2) (textual table) =
      textual (insertTexts table entries) := by
  induction entries generalizing table with
  | nil => rfl
  | cons entry rest ih =>
      rw [textual_cons, List.foldl_cons, insert_textual, ih]
      rfl

theorem ofEntries_textual (entries : List (String × α)) :
    ofEntries (textual entries) = textual (insertTexts [] entries) :=
  foldl_insert_textual [] entries

/-- Under each key is the last value that was added under it. -/
theorem lookup_insertTexts (table entries : List (String × α)) (key : String) :
    (insertTexts table entries).lookup key = (entries.reverse.lookup key).or (table.lookup key) := by
  induction entries generalizing table with
  | nil => rfl
  | cons entry rest ih =>
      rw [insertTexts, List.foldl_cons, ← insertTexts, ih, lookup_insertText, List.reverse_cons,
        List.lookup_append, List.lookup_cons, List.lookup_nil]
      by_cases equal : key = entry.1
      · simp [equal]
      · simp [equal, beq_eq_false_iff_ne.mpr equal]

theorem insertText_of_not_mem (entries : List (String × α)) {key : String} (value : α)
    (fresh : key ∉ entries.map Prod.fst) :
    insertText entries key value = entries ++ [(key, value)] := by
  induction entries with
  | nil => rfl
  | cons entry rest ih =>
      rw [List.map_cons, List.mem_cons, not_or] at fresh
      rw [insertText, if_neg fun same => fresh.1 same.symm, ih fresh.2]
      rfl

theorem insertTexts_of_nodup (table entries : List (String × α))
    (distinct : ((table ++ entries).map Prod.fst).Nodup) :
    insertTexts table entries = table ++ entries := by
  induction entries generalizing table with
  | nil => simp [insertTexts]
  | cons entry rest ih =>
      have fresh : entry.1 ∉ table.map Prod.fst := by
        rw [List.map_append, List.map_cons] at distinct
        intro entry_mem
        exact (List.nodup_append.mp distinct).2.2 _ entry_mem _ List.mem_cons_self rfl
      rw [insertTexts, List.foldl_cons, ← insertTexts, insertText_of_not_mem _ _ fresh, ih]
      · simp
      · simpa using distinct

/-- Entries of which no two have one key are a table as they stand. -/
theorem ofEntries_of_nodup (entries : List (String × α)) (distinct : (entries.map Prod.fst).Nodup) :
    ofEntries (textual entries) = textual entries := by
  rw [ofEntries_textual, insertTexts_of_nodup [] entries distinct]
  rfl

/-- Every entry of a table is one that was added. -/
theorem mem_of_mem_insertText {entries : List (String × α)} {key : String} {value : α}
    {entry : String × α} (entry_mem : entry ∈ insertText entries key value) :
    entry = (key, value) ∨ entry ∈ entries := by
  induction entries with
  | nil => simpa [insertText] using entry_mem
  | cons first rest ih =>
      rw [insertText] at entry_mem
      by_cases equal : first.1 = key
      · rw [if_pos equal, List.mem_cons] at entry_mem
        rcases entry_mem with rfl | rest_mem
        · exact Or.inl (by rw [equal])
        · exact Or.inr (List.mem_cons_of_mem _ rest_mem)
      · rw [if_neg equal, List.mem_cons] at entry_mem
        rcases entry_mem with rfl | rest_mem
        · exact Or.inr List.mem_cons_self
        · rcases ih rest_mem with added | earlier
          · exact Or.inl added
          · exact Or.inr (List.mem_cons_of_mem _ earlier)

theorem mem_of_mem_insertTexts {table entries : List (String × α)} {entry : String × α}
    (entry_mem : entry ∈ insertTexts table entries) : entry ∈ table ∨ entry ∈ entries := by
  induction entries generalizing table with
  | nil => exact Or.inl entry_mem
  | cons first rest ih =>
      rw [insertTexts, List.foldl_cons, ← insertTexts] at entry_mem
      rcases ih entry_mem with inTable | inRest
      · rcases mem_of_mem_insertText inTable with added | earlier
        · exact Or.inr (added ▸ List.mem_cons_self)
        · exact Or.inl earlier
      · exact Or.inr (List.mem_cons_of_mem _ inRest)

theorem map_insertText (image : α → β) (entries : List (String × α)) (key : String) (value : α) :
    (insertText entries key value).map (fun entry => (entry.1, image entry.2)) =
      insertText (entries.map fun entry => (entry.1, image entry.2)) key (image value) := by
  induction entries with
  | nil => rfl
  | cons entry rest ih =>
      rw [insertText, List.map_cons, insertText]
      by_cases equal : entry.1 = key
      · rw [if_pos equal, if_pos equal, List.map_cons]
      · rw [if_neg equal, if_neg equal, List.map_cons, ih]

/-- What is made of the values of a table may be made of the added values as well. -/
theorem map_insertTexts (image : α → β) (table entries : List (String × α)) :
    (insertTexts table entries).map (fun entry => (entry.1, image entry.2)) =
      insertTexts (table.map fun entry => (entry.1, image entry.2))
        (entries.map fun entry => (entry.1, image entry.2)) := by
  induction entries generalizing table with
  | nil => rfl
  | cons entry rest ih =>
      rw [insertTexts, List.foldl_cons, ← insertTexts, ih, map_insertText]
      rfl

theorem nodup_insertText {entries : List (String × α)} (distinct : (entries.map Prod.fst).Nodup) (key : String)
    (value : α) : ((insertText entries key value).map Prod.fst).Nodup := by
  induction entries with
  | nil => exact List.nodup_singleton key
  | cons entry rest ih =>
      rw [List.map_cons, List.nodup_cons] at distinct
      rw [insertText]
      by_cases equal : entry.1 = key
      · rw [if_pos equal]
        exact List.nodup_cons.mpr distinct
      · rw [if_neg equal, List.map_cons, List.nodup_cons]
        refine ⟨fun entryMem => ?_, ih distinct.2⟩
        obtain ⟨other, otherMem, same⟩ := List.mem_map.mp entryMem
        rcases mem_of_mem_insertText otherMem with rfl | earlier
        · exact equal same.symm
        · exact distinct.1 (List.mem_map.mpr ⟨other, earlier, same⟩)

/-- No key occurs twice in a table. -/
theorem nodup_insertTexts {table : List (String × α)} (distinct : (table.map Prod.fst).Nodup)
    (entries : List (String × α)) : ((insertTexts table entries).map Prod.fst).Nodup := by
  induction entries generalizing table with
  | nil => exact distinct
  | cons entry rest ih => exact ih (nodup_insertText distinct entry.1 entry.2)

/-- The table of values under the texts read from them. -/
theorem keyedBy_map {sources : List β} {value : β → α} {key : α → Except Fault Data}
    {name : β → String} (named : ∀ source ∈ sources, key (value source) = .ok (.text (name source))) :
    keyedBy (sources.map value) key =
      .ok (textual (insertTexts [] (sources.map fun source => (name source, value source)))) := by
  suffices general : ∀ table : List (String × α),
      (sources.map value).foldlM (fun table value => do
        let found ← key value
        if found.isKey then pure (insert table found value) else throw Fault.wrongKind)
          (textual table) =
        .ok (textual (insertTexts table (sources.map fun source => (name source, value source)))) from
    general []
  induction sources with
  | nil => exact fun table => rfl
  | cons source rest ih =>
      intro table
      have first := named source List.mem_cons_self
      have others := ih fun other other_mem => named other (List.mem_cons_of_mem _ other_mem)
      rw [List.map_cons, List.foldlM_cons, first]
      have step : (do
          let found ← (.ok (.text (name source)) : Except Fault Data)
          if found.isKey then pure (insert (textual table) found (value source))
            else throw Fault.wrongKind) =
            (.ok (textual (insertText table (name source) (value source))) :
              Except Fault (Table α)) := by
        rw [← insert_textual]
        rfl
      rw [step]
      exact others (insertText table (name source) (value source))

theorem lookup_of_mem {entries : List (String × α)} (distinct : (entries.map Prod.fst).Nodup)
    {key : String} {value : α} (there : (key, value) ∈ entries) : entries.lookup key = some value := by
  induction entries with
  | nil => cases there
  | cons entry rest ih =>
      rw [List.map_cons, List.nodup_cons] at distinct
      rw [List.lookup_cons]
      rcases List.mem_cons.mp there with first | later
      · simp [← first]
      · have other : key ≠ entry.1 := fun same =>
          distinct.1 (same ▸ List.mem_map.mpr ⟨(key, value), later, rfl⟩)
        rw [beq_eq_false_iff_ne.mpr other]
        exact ih distinct.2 later

theorem mem_of_lookup {entries : List (String × α)} {key : String} {value : α}
    (found : entries.lookup key = some value) : (key, value) ∈ entries := by
  induction entries with
  | nil => cases found
  | cons entry rest ih =>
      rw [List.lookup_cons] at found
      by_cases same : key = entry.1
      · subst same
        simp only [beq_self_eq_true, Option.some.injEq] at found
        rw [← found]
        exact List.mem_cons_self
      · rw [beq_eq_false_iff_ne.mpr same] at found
        exact List.mem_cons_of_mem _ (ih found)

theorem lookup_eq_none {entries : List (String × α)} {key : String} :
    entries.lookup key = none ↔ key ∉ entries.map Prod.fst := by
  induction entries with
  | nil => simp
  | cons entry rest ih =>
      rw [List.lookup_cons, List.map_cons, List.mem_cons, not_or, ← ih]
      by_cases same : key = entry.1
      · simp [same]
      · simp [same, beq_eq_false_iff_ne.mpr same]

/-- What a table made of entries has under a key is one of the values that the entries give it. -/
theorem mem_of_lookup_insertTexts {entries : List (String × α)} {key : String} {value : α}
    (found : (insertTexts [] entries).lookup key = some value) : (key, value) ∈ entries := by
  rw [lookup_insertTexts, List.lookup_nil, Option.or_none] at found
  exact List.mem_reverse.mp (mem_of_lookup found)

theorem lookup_insertTexts_eq_none {entries : List (String × α)} {key : String} :
    (insertTexts [] entries).lookup key = none ↔ key ∉ entries.map Prod.fst := by
  rw [lookup_insertTexts, List.lookup_nil, Option.or_none, lookup_eq_none, List.map_reverse,
    List.mem_reverse]

section Last

variable {name : α → String} {elements : List α} {element : α} {key : String}

/-- The last element of a name: the one that a table of the elements has under it. -/
def lastOf? (name : α → String) (elements : List α) (key : String) : Option α :=
  elements.findRev? fun element => name element == key

theorem lookup_map (name : α → String) (value : α → β) (elements : List α) (key : String) :
    (elements.map fun element => (name element, value element)).lookup key =
      (elements.find? fun element => name element == key).map value := by
  induction elements with
  | nil => rfl
  | cons element rest ih =>
      rw [List.map_cons, List.lookup_cons, List.find?_cons, ih]
      by_cases same : name element = key
      · simp [same]
      · simp [beq_eq_false_iff_ne.mpr same, beq_eq_false_iff_ne.mpr (Ne.symm same)]

theorem lookup_insertTexts_map (name : α → String) (value : α → β) (elements : List α) (key : String) :
    (insertTexts [] (elements.map fun element => (name element, value element))).lookup key =
      (lastOf? name elements key).map value := by
  rw [lookup_insertTexts, List.lookup_nil, Option.or_none, ← List.map_reverse, lookup_map, lastOf?,
    List.findRev?_eq_find?_reverse]

theorem lastOf?_map (name : α → String) (image : β → α) (elements : List β) (key : String) :
    lastOf? name (elements.map image) key = (lastOf? (fun element => name (image element)) elements key).map image := by
  rw [lastOf?, lastOf?, List.findRev?_eq_find?_reverse, List.findRev?_eq_find?_reverse, ← List.map_reverse,
    List.find?_map]
  rfl

theorem mem_of_lastOf? (found : lastOf? name elements key = some element) :
    element ∈ elements ∧ name element = key := by
  rw [lastOf?, List.findRev?_eq_find?_reverse] at found
  have isNamed := List.find?_some (p := fun element => name element == key) found
  exact ⟨List.mem_reverse.mp (List.mem_of_find?_eq_some found), beq_iff_eq.mp isNamed⟩

/-- If no name occurs twice, the last element of a name is the only one. -/
theorem lastOf?_of_mem (distinct : (elements.map name).Nodup) (elementMem : element ∈ elements) :
    lastOf? name elements (name element) = some element := by
  cases found : lastOf? name elements (name element) with
  | none =>
      rw [lastOf?, List.findRev?_eq_find?_reverse, List.find?_eq_none] at found
      exact absurd (beq_self_eq_true _) (found element (List.mem_reverse.mpr elementMem))
  | some other =>
      rcases mem_of_lastOf? found with ⟨otherMem, sameName⟩
      rw [List.inj_on_of_nodup_map distinct otherMem elementMem sameName]

end Last

section Holds

variable {such : α → Prop} {table : Table α}

/-- All values of a table are such. -/
def Holds (such : α → Prop) (table : Table α) : Prop := ∀ entry ∈ table, such entry.2

theorem Holds.insert (holds : Holds such table) (key : Data) {value : α} (isSuch : such value) :
    Holds such (table.insert key value) := by
  induction table with
  | nil => exact List.forall_mem_singleton.mpr isSuch
  | cons entry rest ih =>
      rcases List.forall_mem_cons.mp holds with ⟨ofEntry, ofRest⟩
      rw [Table.insert]
      split
      · exact List.forall_mem_cons.mpr ⟨isSuch, ofRest⟩
      · exact List.forall_mem_cons.mpr ⟨ofEntry, ih ofRest⟩

theorem holds_ofEntries {entries : List (Data × α)} (all : ∀ entry ∈ entries, such entry.2) :
    Holds such (ofEntries entries) := by
  suffices general : ∀ table : Table α, Holds such table →
      Holds such (entries.foldl (fun table entry => table.insert entry.1 entry.2) table) from
    general [] (List.forall_mem_nil _)
  induction entries with
  | nil => exact fun _ holds => holds
  | cons entry rest ih =>
      intro table holds
      rw [List.forall_mem_cons] at all
      exact ih all.2 _ (holds.insert entry.1 all.1)

theorem holds_keyedBy {values : List α} {key : α → Except Fault Data} (keyed : keyedBy values key = .ok table)
    (all : ∀ value ∈ values, such value) : Holds such table := by
  refine foldlM_keeps (fun value valueMem start next holds inserted => ?_) (List.forall_mem_nil _) keyed
  rcases bind_eq_ok.mp inserted with ⟨name, _, isNext⟩
  split at isNext
  · cases isNext
    exact holds.insert name (all value valueMem)
  · cases isNext

theorem Holds.get? (holds : Holds such table) {key : Data} {value : α} (found : table.get? key = some value) :
    such value := by
  rcases Option.map_eq_some_iff.mp found with ⟨entry, isFound, rfl⟩
  exact holds entry (List.mem_of_find?_eq_some isFound)

end Holds

end Table

end SpecGraph
