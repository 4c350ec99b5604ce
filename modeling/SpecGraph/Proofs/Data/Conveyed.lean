import SpecGraph.Data.Access
import SpecGraph.Proofs.Data.Table

/-!
# What values convey

The values that are read from a text are in a store, so a value of a text is not the tree that was written, even where
it means the same. A tree of texts, truth values, lists, and mappings with texts for keys is conveyed by a value with
the same texts and truth values in the same places. A text or a truth value is conveyed by itself alone.
-/

namespace SpecGraph

namespace Data

mutual

/-- A value conveys a tree of texts, truth values, lists and mappings. -/
def conveys (value : Data) : Data → Bool
  | .text word =>
      match value with
      | .text other => other == word
      | _ => false
  | .bool flag =>
      match value with
      | .bool other => other == flag
      | _ => false
  | .list trees =>
      match value.bare with
      | .list items => conveyItems items trees
      | _ => false
  | .map trees =>
      match value.bare with
      | .map entries => conveyEntries entries trees
      | _ => false
  | _ => false

/-- Items convey trees, one after the other. -/
def conveyItems : List Data → List Data → Bool
  | [], [] => true
  | item :: items, tree :: trees => conveys item tree && conveyItems items trees
  | _, _ => false

/-- Entries convey those of a tree, one after the other: the keys are the same texts, and the values convey those of
the tree. -/
def conveyEntries : List (Data × Data) → List (Data × Data) → Bool
  | [], [] => true
  | (.text key, item) :: entries, (.text name, tree) :: trees =>
      key == name && conveys item tree && conveyEntries entries trees
  | _, _ => false

end

theorem eq_of_conveys_text {value : Data} {word : String} (conveyed : value.conveys (.text word) = true) :
    value = .text word := by
  cases value with
  | text other => exact congrArg Data.text (beq_iff_eq.mp conveyed)
  | _ => cases conveyed

theorem eq_of_conveys_bool {value : Data} {flag : Bool} (conveyed : value.conveys (.bool flag) = true) :
    value = .bool flag := by
  cases value with
  | bool other => exact congrArg Data.bool (beq_iff_eq.mp conveyed)
  | _ => cases conveyed

theorem conveyItems_iff {items trees : List Data} :
    conveyItems items trees = true ↔ List.Forall₂ (fun item tree => item.conveys tree = true) items trees := by
  induction items generalizing trees with
  | nil => cases trees <;> simp [conveyItems]
  | cons item items ih => cases trees <;> simp [conveyItems, ih]

/-- Texts are conveyed by themselves alone. -/
theorem eq_of_conveyed_texts {items trees : List Data} (areTexts : ∀ tree ∈ trees, ∃ word, tree = .text word)
    (conveyed : List.Forall₂ (fun item tree => item.conveys tree = true) items trees) : items = trees := by
  induction conveyed with
  | nil => rfl
  | cons first rest ih =>
      rw [List.forall_mem_cons] at areTexts
      rcases areTexts.1 with ⟨word, rfl⟩
      rw [eq_of_conveys_text first, ih areTexts.2]

theorem conveys_list {value : Data} {trees : List Data} :
    value.conveys (.list trees) = true ↔ ∃ items, value.bare = .list items ∧
      List.Forall₂ (fun item tree => item.conveys tree = true) items trees := by
  rw [conveys]
  split
  next items isList => simp [isList, conveyItems_iff]
  next notList =>
    refine iff_of_false Bool.false_ne_true fun found => ?_
    rcases found with ⟨items, isList, _⟩
    exact notList items isList

theorem conveyEntries_iff {entries : List (Data × Data)} {trees : List (String × Data)} :
    conveyEntries entries (Table.textual trees) = true ↔ ∃ members, entries = Table.textual members ∧
      List.Forall₂ (fun member tree => member.1 = tree.1 ∧ member.2.conveys tree.2 = true) members trees := by
  induction trees generalizing entries with
  | nil =>
      cases entries with
      | nil => exact iff_of_true rfl ⟨[], rfl, .nil⟩
      | cons entry entries =>
          refine iff_of_false (by simp [Table.textual, conveyEntries]) fun found => ?_
          rcases found with ⟨members, same, conveyed⟩
          cases conveyed
          cases same
  | cons tree trees ih =>
      rw [Table.textual_cons]
      constructor
      · intro conveyed
        rcases entries with _ | ⟨⟨key, item⟩, entries⟩
        · simp [conveyEntries] at conveyed
        · cases key with
          | text key =>
              simp only [conveyEntries, Bool.and_eq_true, beq_iff_eq] at conveyed
              rcases ih.mp conveyed.2 with ⟨members, rfl, rest⟩
              exact ⟨(key, item) :: members, rfl, .cons ⟨conveyed.1.1, conveyed.1.2⟩ rest⟩
          | _ => simp [conveyEntries] at conveyed
      · rintro ⟨members, rfl, conveyed⟩
        cases conveyed with
        | cons first rest =>
            rw [Table.textual_cons, conveyEntries, first.1, beq_self_eq_true, first.2, Bool.true_and, Bool.true_and]
            exact ih.mpr ⟨_, rfl, rest⟩

theorem conveys_object {value : Data} {trees : List (String × Data)} :
    value.conveys (.object trees) = true ↔ ∃ members, value.bare = .object members ∧
      List.Forall₂ (fun member tree => member.1 = tree.1 ∧ member.2.conveys tree.2 = true) members trees := by
  rw [object, conveys]
  split
  next entries isMap =>
    change conveyEntries entries (Table.textual trees) = true ↔ _
    rw [isMap, conveyEntries_iff]
    exact exists_congr fun members => and_congr_left' ⟨congrArg Data.map, Data.map.inj⟩
  next notMap =>
    refine iff_of_false Bool.false_ne_true fun found => ?_
    rcases found with ⟨members, isMap, _⟩
    exact notMap _ isMap

/-- A mapping conveys itself if its members do. -/
theorem object_conveys_self {trees : List (String × Data)} (each : ∀ tree ∈ trees, tree.2.conveys tree.2 = true) :
    (object trees).conveys (.object trees) = true :=
  conveys_object.mpr ⟨trees, rfl, List.forall₂_same.mpr fun tree treeMem => ⟨rfl, each tree treeMem⟩⟩

/-- A member of a tree is conveyed by that of the same name, and what a tree does not have a value that conveys it does
not have either. -/
theorem lookup_of_conveyed {members trees : List (String × Data)}
    (conveyed : List.Forall₂ (fun member tree => member.1 = tree.1 ∧ member.2.conveys tree.2 = true) members trees)
    (name : String) :
    (trees.lookup name = none → members.lookup name = none) ∧
      ∀ tree, trees.lookup name = some tree →
        ∃ value, members.lookup name = some value ∧ value.conveys tree = true := by
  induction conveyed with
  | nil => exact ⟨id, fun tree found => by cases found⟩
  | @cons member tree _ _ first rest ih =>
      rw [List.lookup_cons, List.lookup_cons, first.1]
      cases name == tree.1 with
      | true =>
          refine ⟨fun absent => ?_, fun other found => ⟨member.2, rfl, ?_⟩⟩
          · cases absent
          · rw [← Option.some.inj found]
            exact first.2
      | false => exact ih

end Data

end SpecGraph
