import SpecGraph.Proofs.Data.Table

/-!
# Values that are the same

Lists are the same if their items are, one by one. Mappings are the same if they have the same keys with the same
values, in any order. Values of JSON that are equal are found to be so.
-/

namespace SpecGraph

namespace Data

mutual

/-- All texts in a value are such texts, those of its keys too. -/
def allTexts (such : String → Bool) : Data → Bool
  | .text value => such value
  | .list items => allTextsOfItems such items
  | .map entries => allTextsOfEntries such entries
  | _ => true

/-- All texts in some values are such texts. -/
def allTextsOfItems (such : String → Bool) : List Data → Bool
  | [] => true
  | item :: rest => allTexts such item && allTextsOfItems such rest

/-- All texts in some entries are such texts. -/
def allTextsOfEntries (such : String → Bool) : List (Data × Data) → Bool
  | [] => true
  | (key, value) :: rest => allTexts such key && (allTexts such value && allTextsOfEntries such rest)

end

variable {such : String → Bool}

@[simp]
theorem allTexts_text (value : String) : (Data.text value).allTexts such = such value := rfl

@[simp]
theorem allTexts_list (items : List Data) :
    (Data.list items).allTexts such = true ↔ ∀ item ∈ items, item.allTexts such = true := by
  rw [allTexts]
  induction items with
  | nil => simp [allTextsOfItems]
  | cons item rest ih => simp [allTextsOfItems, ih]

@[simp]
theorem allTexts_map (entries : List (Data × Data)) :
    (Data.map entries).allTexts such = true ↔
      ∀ entry ∈ entries, entry.1.allTexts such = true ∧ entry.2.allTexts such = true := by
  rw [allTexts]
  induction entries with
  | nil => simp [allTextsOfEntries]
  | cons entry rest ih => simp [allTextsOfEntries, ih, and_assoc]

@[simp]
theorem allTexts_object (entries : List (String × Data)) :
    (object entries).allTexts such = true ↔
      ∀ entry ∈ entries, such entry.1 = true ∧ entry.2.allTexts such = true := by
  rw [object, allTexts_map, List.forall_mem_map]
  rfl

/-! Values are the same if their parts are. -/

theorem same_list_of_forall₂ {items others : List Data}
    (each : List.Forall₂ (fun item other => item.same other = true) items others) :
    (Data.list items).same (.list others) = true := by
  have parts : sameLists (expandedItems items) (expandedItems others) = true := by
    induction each with
    | nil => simp [expandedItems, sameLists]
    | @cons item other _ _ first _ ih =>
        have ofFirst : sameTrees item.expanded other.expanded = true := first
        rw [expandedItems, expandedItems, sameLists, ih, ofFirst, Bool.or_true, Bool.and_true]
  simpa [same, expanded, sameTrees, unmarked] using parts

theorem expandedEntries_object (entries : List (String × Data)) :
    expandedEntries (entries.map fun entry => (Data.text entry.1, entry.2)) =
      (entries.map fun entry => (Data.text entry.1, entry.2.expanded)) := by
  induction entries with
  | nil => rfl
  | cons entry rest ih => rw [List.map_cons, expandedEntries, ih, List.map_cons]

theorem same_object {entries others : List (String × Data)} (sameLength : entries.length = others.length)
    (each : ∀ entry ∈ entries, ∃ other ∈ others, other.1 = entry.1 ∧ entry.2.same other.2 = true) :
    (object entries).same (object others) = true := by
  have parts : sameEntries (entries.map fun entry => (.text entry.1, entry.2.expanded))
      (others.map fun other => (.text other.1, other.2.expanded)) = true := by
    clear sameLength
    induction entries with
    | nil => simp [sameEntries]
    | cons entry rest ih =>
        rw [List.map_cons, sameEntries, ih fun entry entryMem => each entry (List.mem_cons_of_mem _ entryMem),
          Bool.and_true, List.any_map, List.any_eq_true]
        rcases each entry List.mem_cons_self with ⟨other, otherMem, sameKey, sameValue⟩
        have values : sameTrees entry.2.expanded other.2.expanded = true := sameValue
        exact ⟨other, otherMem, by simp [sameTrees, unmarked, sameKey, values]⟩
  simpa [object, same, expanded, expandedEntries_object, sameTrees, unmarked, sameLength] using parts

mutual

/-- Two values are one and the same. Only values of JSON are told to be so. -/
def isEqual : Data → Data → Bool
  | .null, .null => true
  | .bool value, .bool other => value == other
  | .int value, .int other => value == other
  | .text value, .text other => value == other
  | .list items, .list others => areEqual items others
  | .map entries, .map others => areEqualEntries entries others
  | _, _ => false

/-- The items of two lists are equal one by one. -/
def areEqual : List Data → List Data → Bool
  | [], [] => true
  | item :: rest, other :: others => isEqual item other && areEqual rest others
  | _, _ => false

/-- The entries of two mappings are equal one by one. -/
def areEqualEntries : List (Data × Data) → List (Data × Data) → Bool
  | [], [] => true
  | (key, value) :: rest, (other, value') :: others =>
      isEqual key other && (isEqual value value' && areEqualEntries rest others)
  | _, _ => false

end

mutual

theorem eq_of_isEqual : ∀ {value other : Data}, value.isEqual other = true → value = other
  | .null, .null, _ => rfl
  | .bool _, .bool _, same | .int _, .int _, same | .text _, .text _, same => by
      rw [isEqual, beq_iff_eq] at same
      rw [same]
  | .list _, .list _, same => by
      rw [isEqual] at same
      rw [eq_of_areEqual same]
  | .map _, .map _, same => by
      rw [isEqual] at same
      rw [eq_of_areEqualEntries same]

theorem eq_of_areEqual : ∀ {items others : List Data}, areEqual items others = true → items = others
  | [], [], _ => rfl
  | _ :: _, _ :: _, same => by
      rw [areEqual, Bool.and_eq_true] at same
      rw [eq_of_isEqual same.1, eq_of_areEqual same.2]

theorem eq_of_areEqualEntries :
    ∀ {entries others : List (Data × Data)}, areEqualEntries entries others = true → entries = others
  | [], [], _ => rfl
  | (_, _) :: _, (_, _) :: _, same => by
      rw [areEqualEntries, Bool.and_eq_true, Bool.and_eq_true] at same
      rw [eq_of_isEqual same.1, eq_of_isEqual same.2.1, eq_of_areEqualEntries same.2.2]

end

end Data

end SpecGraph
