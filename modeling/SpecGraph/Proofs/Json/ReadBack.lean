import SpecGraph.Proofs.Json.Canonical

/-!
# What is written is read back

A tree of JSON with settled texts is read back from each of its texts as it is, but for the order of its keys where the
layout sorts them. A list that is nested too deeply has a text as well, but is not read.
-/

namespace SpecGraph

namespace Json

variable {layout : Layout}

theorem isRegular_line : Layout.line.IsRegular :=
  ⟨(isRegular_lines 0).keys.imp fun _ shape => ⟨congrArg (',' :: ·) (List.cons.inj shape.1).2, shape.2⟩,
    (isRegular_lines 0).keys, fun _ noUnit => by cases noUnit⟩

/-- A tree with settled texts is read back as it is, but for the order of its keys. -/
theorem IsSettled.alike_reread {value : Data} (json : IsSettled value) : Alike (reread layout value) value := by
  induction json with
  | null => exact .null
  | bool => exact .bool
  | int => exact .int
  | text isSettled =>
      rw [reread_text, isSettled]
      exact .text
  | @list items _ ih =>
      let paired (item : Data) : Data × Data := (reread layout item, item)
      have alike : Alike (.list ((items.map paired).map Prod.fst)) (.list ((items.map paired).map Prod.snd)) :=
        .list (List.forall_mem_map.mpr ih)
      rw [List.map_map, List.map_map] at alike
      rw [reread_list]
      simpa only [paired, Function.comp_def, List.map_id'] using alike
  | @object entries _ settled apart ih =>
      rw [reread_object_of_keys layout (areKeys settled apart)]
      refine .object (entries.map fun entry => (entry.1, reread layout entry.2, entry.2)) ?_ ?_ ?_
      · rw [List.map_map]
        exact (ordered_perm layout entries).map _
      · simp only [List.map_map, Function.comp_def, Prod.mk.eta, List.map_id']
        exact .refl entries
      · exact List.forall_mem_map.mpr ih

/-- Where keys are not sorted, a tree with settled texts is read back as it is. -/
theorem IsSettled.reread_eq (unsorted : layout.sorted = false) {value : Data} (json : IsSettled value) :
    reread layout value = value := by
  induction json with
  | null | bool | int => rfl
  | text isSettled => rw [reread_text, isSettled]
  | list _ ih => rw [reread_list, List.map_congr_left ih, List.map_id']
  | @object entries _ settled apart ih =>
      have inOrder : ordered layout entries = entries := by
        unfold ordered
        simp [unsorted]
      rw [reread_object_of_keys layout (areKeys settled apart), inOrder]
      refine congrArg Data.object ((List.map_congr_left fun entry entryMem => ?_).trans (List.map_id' entries))
      rw [ih entry entryMem]

/-- An indentation that can be made: none, or by a number of blanks that a text can be repeated by. -/
def IsIndent (indent : Data) : Prop :=
  indent = .null ∨ ∃ width, indent.integer? = some width ∧ Layout.isCount width = true

theorem IsIndent.exists_layout {indent : Data} (isIndent : IsIndent indent) :
    ∃ layout, Layout.indentedBy indent = .ok layout ∧ layout.IsRegular ∧ layout.sorted = false := by
  rcases isIndent with rfl | ⟨width, isInteger, isCount⟩
  · exact ⟨.line, rfl, isRegular_line, rfl⟩
  · refine ⟨.lines width.toNat, ?_, isRegular_lines _, rfl⟩
    cases indent with
    | bool | int =>
        simp only [Layout.indentedBy, isInteger, isCount, if_true]
        rfl
    | _ => cases isInteger

/-! Lists inside one another are read only to some depth. -/

/-- A list inside a list, and so on. -/
def nested : (levels : Nat) → Data
  | 0 => .null
  | levels + 1 => .list [nested levels]

theorem isTree_nested (levels : Nat) : IsTree levels (nested levels) := by
  induction levels with
  | zero => exact .null
  | succ levels ih => exact .list (List.forall_mem_singleton.mpr ih)

theorem isJson_nested {ints : Int → Prop} {texts : String → Prop} (levels : Nat) :
    IsJson ints texts (nested levels) := by
  induction levels with
  | zero => exact .null
  | succ levels ih => exact .list (List.forall_mem_singleton.mpr ih)

theorem exists_written_nested {levels depth : Nat} {characters : List Char}
    (isText : written layout depth (nested (levels + 1)) = .ok characters) :
    ∃ inner, written layout (depth + 1) (nested levels) = .ok inner ∧
      characters = '[' :: (layout.lineStart (depth + 1) ++ inner ++ layout.lineStart depth ++ [']']) := by
  rw [nested, written_list, List.mapM_cons] at isText
  cases isInner : written layout (depth + 1) (nested levels) with
  | error fault =>
      rw [isInner] at isText
      cases isText
  | ok inner =>
      rw [isInner] at isText
      refine ⟨inner, rfl, (Except.ok.inj isText).symm.trans ?_⟩
      simp [enclosedItems, Layout.enclose, List.intercalate]

/-- Items are not read if the first of them is not. -/
theorem readItems_ne {room fuel : Nat} {text : List Char}
    (unread : ∀ fuel found, readValue room fuel text ≠ .ok found) (found : List Data × List Char) :
    readItems room fuel text ≠ .ok found := by
  intro isRead
  cases fuel with
  | zero => cases isRead
  | succ fuel =>
      rw [readItems] at isRead
      cases isItem : readValue room fuel text with
      | ok item => exact unread fuel item isItem
      | error error =>
          rw [isItem] at isRead
          cases isRead

/-- A list whose only item starts with a bracket is read by reading its items in the room inside it. -/
theorem exists_items_of_readValue (regular : layout.IsRegular) {room fuel depth : Nat} {inner rest : List Char}
    (starts : ∃ innermost, inner = '[' :: innermost) {found : Data × List Char}
    (isRead : readValue (room + 1) (fuel + 1)
      ('[' :: (layout.lineStart (depth + 1) ++ inner ++ layout.lineStart depth ++ [']']) ++ rest) = .ok found) :
    ∃ items, readItems room fuel (inner ++ (layout.lineStart depth ++ ']' :: rest)) = .ok items := by
  rcases starts with ⟨innermost, rfl⟩
  let after := layout.lineStart depth ++ ']' :: rest
  have text : '[' :: (layout.lineStart (depth + 1) ++ '[' :: innermost ++ layout.lineStart depth ++ [']']) ++ rest =
      '[' :: (layout.lineStart (depth + 1) ++ '[' :: (innermost ++ after)) := by
    simp [after]
  have start : skipBlanks (layout.lineStart (depth + 1) ++ '[' :: (innermost ++ after)) =
      '[' :: (innermost ++ after) := by
    rw [skipBlanks_append (isGap_lineStart regular (depth + 1)).blank, skipBlanks_of_head (by decide)]
  rw [text, readValue_list (by omega : 0 < room + 1) start (by decide), Nat.add_sub_cancel] at isRead
  cases areRead : readItems room fuel ('[' :: (innermost ++ after)) with
  | ok items => exact ⟨items, areRead⟩
  | error error =>
      rw [areRead] at isRead
      cases isRead

/-- Where there is room for fewer levels than a list has, it is not read. -/
theorem readValue_nested_ne (regular : layout.IsRegular) {levels depth room fuel : Nat} {characters : List Char}
    (isText : written layout depth (nested levels) = .ok characters) (small : room < levels) (rest : List Char)
    (found : Data × List Char) : readValue room fuel (characters ++ rest) ≠ .ok found := by
  induction levels generalizing depth room fuel characters rest found with
  | zero => omega
  | succ levels ih =>
      intro isRead
      rcases exists_written_nested isText with ⟨inner, isInner, rfl⟩
      cases fuel with
      | zero => cases isRead
      | succ fuel =>
          cases room with
          | zero => cases isRead
          | succ room =>
              -- There is room for a level, so the list inside has a level as well, and too little room is left for it.
              obtain ⟨fewer, rfl⟩ : ∃ fewer, levels = fewer + 1 := ⟨levels - 1, by omega⟩
              rcases exists_written_nested isInner with ⟨innermost, _, isShape⟩
              rcases exists_items_of_readValue regular ⟨_, isShape⟩ isRead with ⟨items, areRead⟩
              refine readItems_ne (fun fuel item => ?_) items areRead
              exact ih isInner (by omega) _ item

/-- A list with too many levels is written but not read. -/
theorem read_nested_ne (regular : layout.IsRegular) {levels room : Nat} (deep : room < levels) {text : String}
    (isText : write layout (nested levels) = .ok text) (gap : String) (value : Data) :
    readWithin room (text ++ gap) ≠ .ok value := by
  intro isRead
  cases isWritten : written layout 0 (nested levels) with
  | error fault =>
      rw [write, writeCharacters, isWritten] at isText
      cases isText
  | ok characters =>
      rw [write, writeCharacters, isWritten] at isText
      obtain rfl := Except.ok.inj isText
      obtain ⟨fewer, rfl⟩ : ∃ fewer, levels = fewer + 1 := ⟨levels - 1, by omega⟩
      rcases exists_written_nested isWritten with ⟨inner, _, isShape⟩
      have start : skipBlanks (characters ++ gap.toList) = characters ++ gap.toList := by
        rw [isShape, List.cons_append, skipBlanks_of_head (by decide)]
      rw [readWithin, String.toList_append, String.toList_ofList, readCharacters, start] at isRead
      cases isFound : readValue room (2 * (characters ++ gap.toList).length + 2) (characters ++ gap.toList) with
      | ok found => exact readValue_nested_ne regular isWritten deep gap.toList found isFound
      | error error =>
          rw [isFound] at isRead
          cases isRead

/-- A tree of JSON without numbers in floating-point format, with no more levels than some number. -/
structure IsForm (levels : Nat) (value : Data) : Prop where
  /-- The value is a tree with few levels. -/
  tree : IsTree levels value
  /-- The value is a tree of JSON. -/
  json : IsJson (Text.isShowable · = true) (fun _ => True) value

variable {levels : Nat}

/-- A tree whose texts are found to be settled is settled. -/
theorem IsForm.isSettled {value : Data} (form : IsForm levels value) (settled : value.allTexts Text.isSettled = true) :
    IsSettled value :=
  (form.json.of_allTexts settled).imp (fun _ isSuch => isSuch) fun _ isSettled => beq_iff_eq.mp isSettled

theorem isForm_text (value : String) : IsForm levels (.text value) := ⟨.text, .text trivial⟩

theorem isForm_bool (value : Bool) : IsForm levels (.bool value) := ⟨.bool, .bool⟩

theorem isForm_list_map {α : Type} {image : α → Data} {elements : List α}
    (each : ∀ element ∈ elements, IsForm levels (image element)) :
    IsForm (levels + 1) (.list (elements.map image)) where
  tree := .list (List.forall_mem_map.mpr fun element elementMem => (each element elementMem).tree)
  json := .list (List.forall_mem_map.mpr fun element elementMem => (each element elementMem).json)

theorem isForm_object {entries : List (String × Data)} (keys : AreKeys (entries.map Prod.fst))
    (parts : ∀ entry ∈ entries, IsForm levels entry.2) : IsForm (levels + 1) (Data.object entries) where
  tree := by
    refine .object (fun entry entryMem => (parts entry entryMem).tree) ?_
    have settled := keys.settled
    rw [List.map_map] at settled
    change (entries.map (Text.joined ∘ Prod.fst)).Nodup
    rw [settled]
    exact keys.distinct
  json := .object (fun entry entryMem => (parts entry entryMem).json) (fun _ _ => trivial) keys.distinct

end Json

end SpecGraph
