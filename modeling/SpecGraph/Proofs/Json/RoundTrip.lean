import SpecGraph.Proofs.Data.Sort
import SpecGraph.Proofs.Json.Scalar

/-!
# Reading written values

A tree of nulls, truth values, numbers, texts, lists and mappings with texts as keys, in which integers are
shown and nothing is not a number but the canonical such value, has a JSON text in every regular layout, and
the text is read back as the tree with its texts joined and its entries in the order they were written in. Keys have to stay apart when they are joined, since of two
members with one name only one is read. A value has a text only if all its parts have one, so in a manifest
that was written every number can be shown.
-/

namespace SpecGraph

namespace Json

/-- A value that JSON has a form for, with no more levels of collections than some number. -/
inductive IsTree : (levels : Nat) → Data → Prop
  | null {levels : Nat} : IsTree levels .null
  | bool {levels : Nat} {value : Bool} : IsTree levels (.bool value)
  | int {levels : Nat} {value : Int} (showable : Text.isShowable value = true) :
      IsTree levels (.int value)
  | float {levels : Nat} {value : Binary64} (canonical : readFloat value = value) :
      IsTree levels (.float value)
  | text {levels : Nat} {value : String} : IsTree levels (.text value)
  | list {levels : Nat} {items : List Data} (parts : ∀ item ∈ items, IsTree levels item) :
      IsTree (levels + 1) (.list items)
  | object {levels : Nat} {entries : List (String × Data)}
      (parts : ∀ entry ∈ entries, IsTree levels entry.2)
      (apart : (entries.map fun entry => Text.joined entry.1).Nodup) :
      IsTree (levels + 1) (Data.object entries)

/-- Entries in the order in which a layout writes them. -/
def orderOf {α : Type} (layout : Layout) (entries : List (Data × α)) : List (Data × α) :=
  match arranged layout entries with
  | .ok arrangement => arrangement
  | .error _ => entries

/-- A key as it is read back. -/
def rereadKey : Data → Data
  | .text value => .text (Text.joined value)
  | key => key

mutual

/-- A value as it is read back from its text in a layout. -/
def reread (layout : Layout) : Data → Data
  | .text value => .text (Text.joined value)
  | .list items => .list (rereadItems layout items)
  | .map entries =>
      .map ((orderOf layout (rereadEntries layout entries)).map fun entry =>
        (rereadKey entry.1, entry.2))
  | value => value

/-- Values as they are read back. -/
def rereadItems (layout : Layout) : List Data → List Data
  | [] => []
  | item :: rest => reread layout item :: rereadItems layout rest

/-- Entries with their values as they are read back. -/
def rereadEntries (layout : Layout) : List (Data × Data) → List (Data × Data)
  | [] => []
  | (key, value) :: rest => (key, reread layout value) :: rereadEntries layout rest

end

/-- Entries with texts as keys in the order in which a layout writes them. -/
def ordered {α : Type} (layout : Layout) (entries : List (String × α)) : List (String × α) :=
  if !layout.sorted then entries
  else
    (Data.sortBy? (fun left right => some (Data.textBefore left.1 right.1)) entries).getD entries

theorem ordered_perm {α : Type} (layout : Layout) (entries : List (String × α)) :
    (ordered layout entries).Perm entries := by
  unfold ordered
  split
  · exact List.Perm.refl _
  · obtain ⟨sorted, isSorted, same⟩ := Data.exists_sortBy?
      (fun left right : String × α => Data.textBefore left.1 right.1) entries
    rw [isSorted]
    exact same

/-- The code points of the key of an entry. -/
def keyCodes {α : Type} (entry : String × α) : List Nat := Text.codes entry.1.toList

theorem ordered_eq {α : Type} {layout : Layout} (sorts : layout.sorted = true) (entries : List (String × α)) :
    ordered layout entries = (Data.sortBy? (Data.keyBefore keyCodes) entries).getD entries := by
  unfold ordered
  rw [sorts]
  simp only [Data.keyBefore_codes]
  rfl

theorem isSorted_ordered {α : Type} {layout : Layout} (sorts : layout.sorted = true) (entries : List (String × α)) :
    Data.IsSorted keyCodes (ordered layout entries) := by
  obtain ⟨sorted, found, isSorted, _⟩ := Data.exists_isSorted keyCodes entries
  rw [ordered_eq sorts, found]
  exact isSorted

/-- Entries in order stay as they are. -/
theorem ordered_of_isSorted {α : Type} (layout : Layout) {entries : List (String × α)}
    (isSorted : Data.IsSorted keyCodes entries) : ordered layout entries = entries := by
  by_cases sorts : layout.sorted = true
  · rw [ordered_eq sorts, isSorted.sortBy?_eq]
    rfl
  · unfold ordered
    simp [sorts]

theorem ordered_map {α β : Type} (layout : Layout) (image : α → β) (entries : List (String × α)) :
    ordered layout (entries.map fun entry => (entry.1, image entry.2)) =
      (ordered layout entries).map fun entry => (entry.1, image entry.2) := by
  obtain ⟨sorted, isSorted, _⟩ := Data.exists_sortBy?
    (fun left right : String × α => Data.textBefore left.1 right.1) entries
  unfold ordered
  split
  · rfl
  · rw [Data.sortBy?_map, isSorted]
    rfl

theorem ordered_ordered {α : Type} (layout : Layout) (entries : List (String × α)) :
    ordered layout (ordered layout entries) = ordered layout entries := by
  by_cases sorts : layout.sorted = true
  · exact ordered_of_isSorted layout (isSorted_ordered sorts entries)
  · unfold ordered
    simp [sorts]

/-- Some of the entries are in the order in which they are among all. -/
theorem ordered_filter {α : Type} {layout : Layout} (sorts : layout.sorted = true) {entries : List (String × α)}
    (apart : (entries.map keyCodes).Nodup) (test : String × α → Bool) :
    (ordered layout entries).filter test = ordered layout (entries.filter test) := by
  have same := ordered_perm layout entries
  have filtered : Data.IsSorted keyCodes ((ordered layout entries).filter test) :=
    (isSorted_ordered sorts entries).sublist List.filter_sublist
  apply filtered.eq_of_perm (isSorted_ordered sorts _)
  · exact ((same.map keyCodes).nodup_iff.mpr apart).sublist (List.filter_sublist.map keyCodes)
  · exact (same.filter test).trans (ordered_perm layout _).symm

/-- Entries with texts as keys can be arranged. -/
theorem arranged_map {α β : Type} (layout : Layout) (entries : List (String × α)) (image : α → β) :
    arranged layout (entries.map fun entry => (Data.text entry.1, image entry.2)) =
      .ok ((ordered layout entries).map fun entry => (Data.text entry.1, image entry.2)) := by
  unfold arranged ordered
  split
  · rfl
  · obtain ⟨sorted, isSorted, _⟩ := Data.exists_sortBy?
      (fun left right : String × α => Data.textBefore left.1 right.1) entries
    rw [Data.sortBy?_map]
    simp only [Data.isBefore?_text, isSorted]
    rfl

theorem rereadItems_eq_map (layout : Layout) (items : List Data) :
    rereadItems layout items = items.map (reread layout) := by
  induction items with
  | nil => rfl
  | cons item rest ih => rw [rereadItems, ih, List.map_cons]

theorem rereadEntries_eq_map (layout : Layout) (entries : List (Data × Data)) :
    rereadEntries layout entries = entries.map fun entry => (entry.1, reread layout entry.2) := by
  induction entries with
  | nil => rfl
  | cons entry rest ih => rw [rereadEntries, ih, List.map_cons]

theorem writtenEntries_eq_map (layout : Layout) (depth : Nat) (entries : List (Data × Data)) :
    writtenEntries layout depth entries =
      entries.map fun entry => (entry.1, written layout depth entry.2) := by
  induction entries with
  | nil => rfl
  | cons entry rest ih => rw [writtenEntries, ih, List.map_cons]

/-- The text of a mapping has its entries in order. -/
theorem written_object (layout : Layout) (depth : Nat) (entries : List (String × Data)) :
    written layout depth (Data.object entries) = (do
      let parts ← (ordered layout entries).mapM fun entry =>
        writtenEntry layout (.text entry.1) (written layout (depth + 1) entry.2)
      return enclosedEntries layout depth parts) := by
  have arrangement := arranged_map layout entries (written layout (depth + 1))
  rw [Data.object, written, joinEntries, writtenEntries_eq_map, List.map_map]
  simp only [Function.comp_def, arrangement]
  change (List.mapM _ _ >>= _) = _
  rw [List.mapM_map]
  rfl

theorem writtenItems_eq_mapM (layout : Layout) (depth : Nat) (items : List Data) :
    writtenItems layout depth items = items.mapM (written layout depth) := by
  induction items with
  | nil => rfl
  | cons item rest ih => rw [writtenItems, ih, List.mapM_cons]

theorem written_list (layout : Layout) (depth : Nat) (items : List Data) :
    written layout depth (.list items) = (do
      let parts ← items.mapM (written layout (depth + 1))
      return enclosedItems layout depth parts) := by
  rw [written, writtenItems_eq_mapM]

@[simp]
theorem reread_text (layout : Layout) (value : String) :
    reread layout (.text value) = .text (Text.joined value) := rfl

@[simp]
theorem reread_bool (layout : Layout) (value : Bool) : reread layout (.bool value) = .bool value := rfl

@[simp]
theorem reread_int (layout : Layout) (value : Int) : reread layout (.int value) = .int value := rfl

@[simp]
theorem reread_list (layout : Layout) (items : List Data) :
    reread layout (.list items) = .list (items.map (reread layout)) := by
  rw [reread, rereadItems_eq_map]

/-- A mapping is read back with its entries as they were written. -/
theorem reread_object (layout : Layout) (entries : List (String × Data)) :
    reread layout (Data.object entries) =
      Data.object ((ordered layout entries).map fun entry =>
        (Text.joined entry.1, reread layout entry.2)) := by
  have order := arranged_map layout entries (reread layout)
  rw [Data.object, reread, rereadEntries_eq_map, List.map_map, Data.object]
  unfold orderOf
  simp only [Function.comp_def, order, List.map_map, rereadKey]

/-- Blanks, none of which is a carriage return. -/
def IsGap (characters : List Char) : Prop :=
  ∀ character ∈ characters, isBlank character = true ∧ character ≠ '\r'

theorem IsGap.blank {gap : List Char} (isGap : IsGap gap) :
    ∀ character ∈ gap, isBlank character = true :=
  fun character character_mem => (isGap character character_mem).1

/-- A layout of commas, colons and blanks. -/
structure Layout.IsRegular (layout : Layout) : Prop where
  /-- Items are separated by a comma with blanks after it. -/
  items : ∃ gap, layout.itemSeparator = ',' :: gap ∧ IsGap gap
  /-- Keys are separated from their values by a colon with blanks after it. -/
  keys : ∃ gap, layout.keySeparator = ':' :: gap ∧ IsGap gap
  /-- Lines are indented by blanks. -/
  lines : ∀ unit ∈ layout.indent, IsGap unit

theorem isRegular_lines (width : Nat) : (Layout.lines width).IsRegular := by
  refine ⟨⟨[], rfl, by simp [IsGap]⟩, ⟨[' '], rfl, by simp [IsGap, isBlank]⟩, ?_⟩
  intro unit unit_mem blank blank_mem
  obtain rfl := Option.some.inj unit_mem
  rw [List.eq_of_mem_replicate blank_mem]
  decide

theorem isRegular_sortedLines (width : Nat) : (Layout.sortedLines width).IsRegular :=
  ⟨(isRegular_lines width).items, (isRegular_lines width).keys, (isRegular_lines width).lines⟩

theorem isGap_lineStart {layout : Layout} (regular : layout.IsRegular) (depth : Nat) :
    IsGap (layout.lineStart depth) := by
  intro blank blank_mem
  rw [Layout.lineStart] at blank_mem
  split at blank_mem
  · cases blank_mem
  · next unit indented =>
      rcases List.mem_cons.mp blank_mem with rfl | inside
      · decide
      · obtain ⟨copy, copy_mem, inCopy⟩ := List.mem_flatten.mp inside
        rw [List.eq_of_mem_replicate copy_mem] at inCopy
        exact regular.lines unit indented blank inCopy

theorem skipBlanks_append {blanks : List Char} (allBlank : ∀ blank ∈ blanks, isBlank blank = true)
    (rest : List Char) : skipBlanks (blanks ++ rest) = skipBlanks rest := by
  induction blanks with
  | nil => rfl
  | cons blank others ih =>
      rw [List.cons_append, skipBlanks,
        List.dropWhile_cons_of_pos (allBlank blank List.mem_cons_self)]
      exact ih fun other other_mem => allBlank other (List.mem_cons_of_mem _ other_mem)

theorem skipBlanks_of_head {first : Char} (dark : ¬isBlank first = true) (rest : List Char) :
    skipBlanks (first :: rest) = first :: rest :=
  List.dropWhile_cons_of_neg dark

theorem forall₂_exists_of_mem {α β : Type} {relation : α → β → Prop} {lefts : List α} {rights : List β}
    (all : List.Forall₂ relation lefts rights) {left : α} (left_mem : left ∈ lefts) :
    ∃ right ∈ rights, relation left right := by
  induction all with
  | nil => cases left_mem
  | @cons first second _ _ related _ ih =>
      rcases List.mem_cons.mp left_mem with rfl | later
      · exact ⟨second, List.mem_cons_self, related⟩
      · obtain ⟨right, right_mem, found⟩ := ih later
        exact ⟨right, List.mem_cons_of_mem _ right_mem, found⟩

theorem intercalate_singleton {α : Type} (separator part : List α) :
    separator.intercalate [part] = part := by
  simp [List.intercalate]

theorem intercalate_cons_cons {α : Type} (separator part next : List α) (others : List (List α)) :
    separator.intercalate (part :: next :: others) =
      part ++ (separator ++ separator.intercalate (next :: others)) := by
  simp [List.intercalate]

/-- Parts with something between them start with the first part. -/
theorem intercalate_starts {α : Type} (separator : List α) (first : α) (part : List α)
    (others : List (List α)) :
    ∃ rest, separator.intercalate ((first :: part) :: others) = first :: rest := by
  cases others with
  | nil => exact ⟨part, intercalate_singleton _ _⟩
  | cons next others => exact ⟨_, by rw [intercalate_cons_cons, List.cons_append]⟩

theorem mem_intercalate {α : Type} {separator : List α} {parts : List (List α)} {element : α}
    (element_mem : element ∈ separator.intercalate parts) :
    element ∈ separator ∨ ∃ part ∈ parts, element ∈ part := by
  induction parts with
  | nil => cases element_mem
  | cons part others ih =>
      cases others with
      | nil =>
          rw [intercalate_singleton] at element_mem
          exact Or.inr ⟨part, List.mem_cons_self, element_mem⟩
      | cons next others =>
          rw [intercalate_cons_cons, List.mem_append, List.mem_append] at element_mem
          rcases element_mem with first | between | later
          · exact Or.inr ⟨part, List.mem_cons_self, first⟩
          · exact Or.inl between
          · rcases ih later with between | ⟨found, found_mem, inFound⟩
            · exact Or.inl between
            · exact Or.inr ⟨found, List.mem_cons_of_mem _ found_mem, inFound⟩

/-- Blanks before a stop are a stop. -/
theorem stops_blanks_append {blanks : List Char}
    (blank : ∀ character ∈ blanks, isBlank character = true) {stop : Char}
    (isStop_stop : isStop stop = true) (rest : List Char) : Stops (blanks ++ stop :: rest) := by
  intro first head
  cases blanks with
  | nil =>
      obtain rfl := Option.some.inj head
      exact isStop_stop
  | cons other others =>
      obtain rfl := Option.some.inj head
      simp [isStop, blank other List.mem_cons_self]

/-- A comma after an item is left, and the items after it are read. -/
theorem readItems_comma {room fuel : Nat} {text after : List Char} {item : Data}
    (read : readValue room fuel text = .ok (item, ',' :: after)) :
    readItems room (fuel + 1) text =
      (readItems room fuel (skipBlanks after)).map fun found => (item :: found.1, found.2) := by
  rw [readItems, read]
  change (readItems room fuel (skipBlanks after) >>= fun found =>
    (.ok (item :: found.1, found.2) : Except Error _)) = _
  cases readItems room fuel (skipBlanks after) <;> rfl

/-- The closing bracket ends a list. -/
theorem readItems_last {room fuel : Nat} {text blanks rest : List Char} {item : Data}
    (blank : ∀ character ∈ blanks, isBlank character = true)
    (read : readValue room fuel text = .ok (item, blanks ++ ']' :: rest)) :
    readItems room (fuel + 1) text = .ok ([item], rest) := by
  have closing : skipBlanks (blanks ++ ']' :: rest) = ']' :: rest := by
    rw [skipBlanks_append blank, skipBlanks_of_head (by decide)]
  rw [readItems, read]
  dsimp only [bind, Except.bind]
  rw [closing]
  rfl

/-- Items between commas are read one after the other up to the closing bracket. -/
theorem readItems_intercalate {levels : Nat} (room : Nat) (inside : levels ≤ room) {parts : List (List Char)}
    {values : List Data} (read : List.Forall₂ (Reads levels) parts values) (some_part : parts ≠ [])
    {blanks gap : List Char} (blank : ∀ character ∈ blanks, isBlank character = true)
    (gapBlank : ∀ character ∈ gap, isBlank character = true) (fuel : Nat)
    (enough : 2 * ((',' :: gap).intercalate parts).length + 1 ≤ fuel) (rest : List Char) :
    readItems room fuel ((',' :: gap).intercalate parts ++ (blanks ++ ']' :: rest)) =
      .ok (values, rest) := by
  induction read generalizing fuel with
  | nil => exact (some_part rfl).elim
  | @cons part value others otherValues first othersRead ih =>
      obtain ⟨fuel, rfl⟩ : ∃ less, fuel = less + 1 := ⟨fuel - 1, by omega⟩
      cases othersRead with
      | nil =>
          rw [intercalate_singleton] at enough ⊢
          exact readItems_last blank
            (first.reads room fuel inside (by omega) (stops_blanks_append blank (by decide) rest))
      | @cons next nextValue others otherValues nextRead othersRead =>
          rw [intercalate_cons_cons, List.length_append, List.cons_append, List.length_cons] at enough
          have tail := ih (by simp) fuel (by rw [List.length_append] at enough; omega)
          have comma : Stops (',' :: (gap ++ ((',' :: gap).intercalate (next :: others) ++
              (blanks ++ ']' :: rest)))) := by
            intro character head
            obtain rfl := Option.some.inj head
            rfl
          have read := first.reads room fuel inside (by omega) comma
          obtain ⟨nextFirst, nextOthers, shape, dark, _⟩ := nextRead.starts
          obtain ⟨tailOthers, tailShape⟩ := intercalate_starts (',' :: gap) nextFirst nextOthers others
          have start : skipBlanks (gap ++ ((',' :: gap).intercalate (next :: others) ++
              (blanks ++ ']' :: rest))) =
                (',' :: gap).intercalate (next :: others) ++ (blanks ++ ']' :: rest) := by
            rw [skipBlanks_append gapBlank, shape, tailShape, List.cons_append,
              skipBlanks_of_head (by simp [dark])]
          have step := readItems_comma read
          rw [start, tail] at step
          rw [intercalate_cons_cons, List.append_assoc, List.cons_append, List.cons_append,
            List.append_assoc]
          exact step

/-- The characters are read as the name of an entry, the separator and its value. -/
def ReadsEntry (levels : Nat) (gap part : List Char) (entry : String × Data) : Prop :=
  ∃ key characters, part = writtenText key.toList ++ (':' :: gap) ++ characters ∧
    Text.joined key = entry.1 ∧ Reads levels characters entry.2

/-- The name and the value of an entry are read, and what comes after it decides how to go on. -/
theorem readEntries_entry {levels room fuel : Nat} (inside : levels ≤ room) {gap part : List Char}
    (gapBlank : ∀ character ∈ gap, isBlank character = true) {entry : String × Data}
    (reads : ReadsEntry levels gap part entry) {rest : List Char} (stops : Stops rest)
    (enough : 2 * part.length ≤ fuel) :
    readEntries room (fuel + 1) (part ++ rest) =
      match skipBlanks rest with
      | closing :: more =>
          if closing = ',' then
            (readEntries room fuel (skipBlanks more)).map fun found =>
              ((.text entry.1, entry.2) :: found.1, found.2)
          else if closing.toNat = 125 then .ok ([(.text entry.1, entry.2)], more)
          else .error .notJson
      | [] => .error .notJson := by
  obtain ⟨key, characters, shape, name, read⟩ := reads
  obtain ⟨first, others, start, dark, _⟩ := read.starts
  have value := read.reads room fuel inside
    (by rw [shape, List.length_append] at enough; omega) stops
  have blanks : skipBlanks (gap ++ (characters ++ rest)) = characters ++ rest := by
    rw [skipBlanks_append gapBlank, start, List.cons_append, skipBlanks_of_head (by simp [dark])]
  have text : part ++ rest = '"' :: (escaped (Text.codes key.toList) ++
      '"' :: ':' :: (gap ++ (characters ++ rest))) := by
    simp [shape, writtenText_eq]
  have colon : skipBlanks (':' :: (gap ++ (characters ++ rest))) =
      ':' :: (gap ++ (characters ++ rest)) := skipBlanks_of_head (show ¬isBlank ':' = true by decide) _
  rw [text, readEntries, readText_escaped]
  dsimp only [bind, Except.bind]
  rw [colon]
  simp only [blanks, value, ← name]
  cases skipBlanks rest with
  | nil => rfl
  | cons closing more =>
      change (if closing = ',' then _ else _) = (if closing = ',' then _ else _)
      split
      · cases readEntries room fuel (skipBlanks more) <;> rfl
      · rfl

/-- Entries between commas are read one after the other up to the closing brace. -/
theorem readEntries_intercalate {levels : Nat} (room : Nat) (inside : levels ≤ room)
    {parts : List (List Char)} {entries : List (String × Data)} {keyGap : List Char}
    (read : List.Forall₂ (ReadsEntry levels keyGap) parts entries) (some_part : parts ≠ [])
    {blanks gap : List Char} (blank : ∀ character ∈ blanks, isBlank character = true)
    (gapBlank : ∀ character ∈ gap, isBlank character = true)
    (keyBlank : ∀ character ∈ keyGap, isBlank character = true) (fuel : Nat)
    (enough : 2 * ((',' :: gap).intercalate parts).length + 1 ≤ fuel) (rest : List Char) :
    readEntries room fuel ((',' :: gap).intercalate parts ++ (blanks ++ Char.ofNat 125 :: rest)) =
      .ok (Table.textual entries, rest) := by
  induction read generalizing fuel with
  | nil => exact (some_part rfl).elim
  | @cons part entry others otherEntries first othersRead ih =>
      obtain ⟨fuel, rfl⟩ : ∃ less, fuel = less + 1 := ⟨fuel - 1, by omega⟩
      cases othersRead with
      | nil =>
          rw [intercalate_singleton] at enough ⊢
          rw [readEntries_entry inside keyBlank first (stops_blanks_append blank (by decide) rest)
            (by omega), skipBlanks_append blank, skipBlanks_of_head (by decide)]
          rfl
      | @cons next nextEntry others otherEntries nextRead othersRead =>
          rw [intercalate_cons_cons, List.length_append, List.cons_append, List.length_cons] at enough
          have tail := ih (by simp) fuel (by rw [List.length_append] at enough; omega)
          have start : skipBlanks (gap ++ ((',' :: gap).intercalate (next :: others) ++
              (blanks ++ Char.ofNat 125 :: rest))) =
                (',' :: gap).intercalate (next :: others) ++ (blanks ++ Char.ofNat 125 :: rest) := by
            obtain ⟨key, characters, shape, _⟩ := nextRead
            rw [writtenText_eq, List.cons_append, List.cons_append] at shape
            obtain ⟨tailOthers, tailShape⟩ := intercalate_starts (',' :: gap) '"' _ others
            rw [skipBlanks_append gapBlank, shape, tailShape, List.cons_append,
              skipBlanks_of_head (by decide)]
          have comma : Stops (',' :: (gap ++ ((',' :: gap).intercalate (next :: others) ++
              (blanks ++ Char.ofNat 125 :: rest)))) := by
            intro character head
            obtain rfl := Option.some.inj head
            rfl
          rw [intercalate_cons_cons, List.append_assoc, List.cons_append, List.cons_append,
            List.append_assoc, readEntries_entry inside keyBlank first comma (by omega),
            skipBlanks_of_head (by decide)]
          change (readEntries room fuel (skipBlanks _)).map _ = _
          rw [start, tail]
          rfl

/-- An opening bracket before something that is no closing bracket starts a list. -/
theorem readValue_list {room fuel : Nat} {text more : List Char} {first : Char} (space : 0 < room)
    (start : skipBlanks text = first :: more) (noBracket : first ≠ ']') :
    readValue room (fuel + 1) ('[' :: text) =
      (readItems (room - 1) fuel (first :: more)).map fun found => (.list found.1, found.2) := by
  have noQuote : ('[' : Char) ≠ '"' := by decide
  rw [readValue, if_neg noQuote, if_pos rfl, if_neg (by omega : ¬room = 0), start]
  split
  · next closing => exact (noBracket (List.cons.inj closing).1).elim
  · cases readItems (room - 1) fuel (first :: more) <;> rfl

/-- An opening brace before the name of an entry starts a mapping. -/
theorem readValue_map {room fuel : Nat} {text more : List Char} (space : 0 < room)
    (start : skipBlanks text = '"' :: more) :
    readValue room (fuel + 1) (Char.ofNat 123 :: text) =
      (readEntries (room - 1) fuel ('"' :: more)).map fun found =>
        (Data.map (Table.ofEntries found.1), found.2) := by
  have noQuote : Char.ofNat 123 ≠ '"' := by decide
  have noBracket : Char.ofNat 123 ≠ '[' := by decide
  rw [readValue, if_neg noQuote, if_neg noBracket, if_pos (by decide), if_neg (by omega : ¬room = 0),
    start]
  change (readEntries (room - 1) fuel ('"' :: more) >>= fun found =>
    (.ok (Data.map (Table.ofEntries found.1), found.2) : Except Error _)) = _
  cases readEntries (room - 1) fuel ('"' :: more) <;> rfl

section Layouts

variable {layout : Layout} (regular : layout.IsRegular)
include regular

/-- Items and entries are separated by a comma and blanks. -/
theorem exists_gap (depth : Nat) :
    ∃ gap, layout.itemSeparator ++ layout.lineStart depth = ',' :: gap ∧ IsGap gap := by
  obtain ⟨blanks, shape, blank⟩ := regular.items
  refine ⟨blanks ++ layout.lineStart depth, by rw [shape, List.cons_append], ?_⟩
  intro character character_mem
  rcases List.mem_append.mp character_mem with before | line
  · exact blank character before
  · exact isGap_lineStart regular depth character line

theorem return_notMem_enclose (depth : Nat) {opening closing : Char} (brackets : opening ≠ '\r' ∧ closing ≠ '\r')
    {parts : List (List Char)} (unbroken : ∀ part ∈ parts, '\r' ∉ part) :
    '\r' ∉ layout.enclose depth opening closing parts := by
  have line (depth : Nat) : '\r' ∉ layout.lineStart depth :=
    fun return_mem => (isGap_lineStart regular depth _ return_mem).2 rfl
  obtain ⟨gap, shape, isGap⟩ := exists_gap regular (depth + 1)
  have noReturn : '\r' ∉ gap := fun return_mem => (isGap _ return_mem).2 rfl
  unfold Layout.enclose
  split
  · simp [Ne.symm brackets.1, Ne.symm brackets.2]
  · rw [shape]
    simp only [List.mem_append, List.mem_cons, List.not_mem_nil, or_false, not_or]
    refine ⟨⟨⟨⟨Ne.symm brackets.1, line _⟩, ?_⟩, line _⟩, Ne.symm brackets.2⟩
    intro return_mem
    rcases mem_intercalate return_mem with inGap | ⟨part, part_mem, inPart⟩
    · simp [noReturn] at inGap
    · exact unbroken part part_mem inPart

/-- Written items between brackets are read as the list of what they are read as. -/
theorem reads_enclosedItems {levels : Nat} (depth : Nat) {parts : List (List Char)}
    {values : List Data} (read : List.Forall₂ (Reads levels) parts values) :
    Reads (levels + 1) (enclosedItems layout depth parts) (.list values) := by
  have unbroken : '\r' ∉ enclosedItems layout depth parts := by
    refine return_notMem_enclose regular depth (by decide) ?_
    intro part part_mem
    obtain ⟨value, _, partReads⟩ := forall₂_exists_of_mem read part_mem
    exact partReads.unbroken
  cases read with
  | nil =>
      refine ⟨⟨'[', [']'], rfl, rfl, by decide⟩, unbroken, ?_⟩
      intro room fuel rest inside enough _
      obtain ⟨fuel, rfl⟩ : ∃ less, fuel = less + 1 :=
        ⟨fuel - 1, by have : 2 * 2 ≤ fuel := enough; omega⟩
      have noQuote : ('[' : Char) ≠ '"' := by decide
      change readValue room (fuel + 1) ('[' :: ']' :: rest) = _
      rw [readValue, if_neg noQuote, if_pos rfl, if_neg (by omega : ¬room = 0)]
      rfl
  | @cons part value others otherValues first othersRead =>
      obtain ⟨gap, shape, gapBlank⟩ := exists_gap regular (depth + 1)
      have text : enclosedItems layout depth (part :: others) =
          '[' :: (layout.lineStart (depth + 1) ++ ((',' :: gap).intercalate (part :: others) ++
            (layout.lineStart depth ++ [']']))) := by
        simp [enclosedItems, Layout.enclose, shape]
      refine ⟨⟨'[', _, text, rfl, by decide⟩, unbroken, ?_⟩
      intro room fuel rest inside enough _
      rw [text] at enough ⊢
      simp only [List.length_cons, List.length_append] at enough
      obtain ⟨fuel, rfl⟩ : ∃ less, fuel = less + 1 := ⟨fuel - 1, by omega⟩
      have items := readItems_intercalate (room - 1) (by omega)
        (List.Forall₂.cons first othersRead) (by simp)
        (isGap_lineStart regular depth).blank gapBlank.blank fuel (by omega) rest
      obtain ⟨start, startOthers, startShape, dark, noBracket⟩ := first.starts
      obtain ⟨tailOthers, tailShape⟩ := intercalate_starts (',' :: gap) start startOthers others
      have skipped : skipBlanks (layout.lineStart (depth + 1) ++ ((',' :: gap).intercalate
          (part :: others) ++ (layout.lineStart depth ++ ']' :: rest))) =
            start :: (tailOthers ++ (layout.lineStart depth ++ ']' :: rest)) := by
        rw [skipBlanks_append (isGap_lineStart regular (depth + 1)).blank, startShape, tailShape,
          List.cons_append, skipBlanks_of_head (by simp [dark])]
      rw [startShape, tailShape, List.cons_append] at items
      rw [List.cons_append, List.append_assoc, List.append_assoc, List.append_assoc,
        List.singleton_append, readValue_list (by omega) skipped noBracket, items]
      rfl

/-- Written entries between braces are read as a mapping, if no two have one name. -/
theorem reads_enclosedEntries {levels : Nat} (depth : Nat) {parts : List (List Char)}
    {entries : List (String × Data)} {keyGap : List Char}
    (keyBlank : IsGap keyGap) (read : List.Forall₂ (ReadsEntry levels keyGap) parts entries)
    (apart : (entries.map Prod.fst).Nodup) :
    Reads (levels + 1) (enclosedEntries layout depth parts) (Data.object entries) := by
  have unbroken : '\r' ∉ enclosedEntries layout depth parts := by
    refine return_notMem_enclose regular depth (by decide) ?_
    intro part part_mem
    obtain ⟨entry, _, key, characters, shape, _, valueReads⟩ := forall₂_exists_of_mem read part_mem
    have noReturn : '\r' ∉ keyGap := fun return_mem => (keyBlank _ return_mem).2 rfl
    simp [shape, return_notMem_writtenText, noReturn, valueReads.unbroken]
  cases read with
  | nil =>
      refine ⟨⟨Char.ofNat 123, [Char.ofNat 125], rfl, by decide, by decide⟩, unbroken, ?_⟩
      intro room fuel rest inside enough _
      obtain ⟨fuel, rfl⟩ : ∃ less, fuel = less + 1 :=
        ⟨fuel - 1, by have : 2 * 2 ≤ fuel := enough; omega⟩
      have noQuote : Char.ofNat 123 ≠ '"' := by decide
      have noBracket : Char.ofNat 123 ≠ '[' := by decide
      change readValue room (fuel + 1) (Char.ofNat 123 :: Char.ofNat 125 :: rest) = _
      rw [readValue, if_neg noQuote, if_neg noBracket, if_pos (by decide),
        if_neg (by omega : ¬room = 0)]
      rfl
  | @cons part entry others otherEntries first othersRead =>
      obtain ⟨gap, shape, gapBlank⟩ := exists_gap regular (depth + 1)
      have text : enclosedEntries layout depth (part :: others) =
          Char.ofNat 123 :: (layout.lineStart (depth + 1) ++
            ((',' :: gap).intercalate (part :: others) ++
              (layout.lineStart depth ++ [Char.ofNat 125]))) := by
        simp [enclosedEntries, Layout.enclose, shape]
      refine ⟨⟨Char.ofNat 123, _, text, by decide, by decide⟩, unbroken, ?_⟩
      intro room fuel rest inside enough _
      rw [text] at enough ⊢
      simp only [List.length_cons, List.length_append] at enough
      obtain ⟨fuel, rfl⟩ : ∃ less, fuel = less + 1 := ⟨fuel - 1, by omega⟩
      have found := readEntries_intercalate (room - 1) (by omega)
        (List.Forall₂.cons first othersRead) (by simp)
        (isGap_lineStart regular depth).blank gapBlank.blank keyBlank.blank fuel (by omega) rest
      obtain ⟨key, characters, partShape, _⟩ := first
      rw [writtenText_eq, List.cons_append, List.cons_append] at partShape
      obtain ⟨tailOthers, tailShape⟩ := intercalate_starts (',' :: gap) '"' _ others
      have skipped : skipBlanks (layout.lineStart (depth + 1) ++ ((',' :: gap).intercalate
          (part :: others) ++ (layout.lineStart depth ++ Char.ofNat 125 :: rest))) =
            '"' :: (tailOthers ++ (layout.lineStart depth ++ Char.ofNat 125 :: rest)) := by
        rw [skipBlanks_append (isGap_lineStart regular (depth + 1)).blank, partShape, tailShape,
          List.cons_append, skipBlanks_of_head (by decide)]
      rw [partShape, tailShape, List.cons_append] at found
      rw [List.cons_append, List.append_assoc, List.append_assoc, List.append_assoc,
        List.singleton_append, readValue_map (by omega) skipped, found]
      change Except.ok (Data.map (Table.ofEntries (Table.textual (entry :: otherEntries))), rest) = _
      rw [Table.ofEntries_of_nodup _ apart]
      rfl

/-- A tree has a text in every regular layout, and the text is read back. -/
theorem exists_written {levels : Nat} {value : Data} (tree : IsTree levels value) (depth : Nat) :
    ∃ characters, written layout depth value = .ok characters ∧
      Reads levels characters (reread layout value) := by
  induction tree generalizing depth with
  | null => exact ⟨_, rfl, reads_null _⟩
  | bool => exact ⟨_, rfl, reads_bool _ _⟩
  | @int _ value showable =>
      refine ⟨Text.signedDecimal value, ?_, reads_int showable _⟩
      change writtenInt value = _
      rw [writtenInt, if_pos showable]
      rfl
  | @float levels value canonical =>
      have reads := reads_float value levels
      rw [canonical] at reads
      exact ⟨writtenFloat value, rfl, reads⟩
  | text => exact ⟨_, rfl, reads_text _ _⟩
  | @list levels items parts ih =>
      have each : ∃ texts, items.mapM (written layout (depth + 1)) = .ok texts ∧
          List.Forall₂ (Reads levels) texts (items.map (reread layout)) := by
        clear parts
        induction items with
        | nil => exact ⟨[], rfl, List.Forall₂.nil⟩
        | cons item rest itemsIh =>
            obtain ⟨text, isText, textReads⟩ := ih item List.mem_cons_self (depth + 1)
            obtain ⟨texts, areTexts, textsRead⟩ :=
              itemsIh fun other other_mem => ih other (List.mem_cons_of_mem _ other_mem)
            refine ⟨text :: texts, ?_, List.Forall₂.cons textReads textsRead⟩
            rw [List.mapM_cons, isText, areTexts]
            rfl
      obtain ⟨texts, areTexts, textsRead⟩ := each
      refine ⟨enclosedItems layout depth texts, ?_, ?_⟩
      · rw [written_list, areTexts]
        rfl
      · rw [reread_list]
        exact reads_enclosedItems regular depth textsRead
  | @object levels entries parts apart ih =>
      obtain ⟨keyGap, keyShape, keyBlank⟩ := regular.keys
      have each : ∀ arrangement : List (String × Data), (∀ entry ∈ arrangement, entry ∈ entries) →
          ∃ texts, arrangement.mapM (fun entry =>
              writtenEntry layout (.text entry.1) (written layout (depth + 1) entry.2)) = .ok texts ∧
            List.Forall₂ (ReadsEntry levels keyGap) texts
              (arrangement.map fun entry => (Text.joined entry.1, reread layout entry.2)) := by
        intro arrangement within
        induction arrangement with
        | nil => exact ⟨[], rfl, List.Forall₂.nil⟩
        | cons entry rest restIh =>
            obtain ⟨text, isText, textReads⟩ := ih entry (within entry List.mem_cons_self) (depth + 1)
            obtain ⟨texts, areTexts, textsRead⟩ :=
              restIh fun other other_mem => within other (List.mem_cons_of_mem _ other_mem)
            refine ⟨(writtenText entry.1.toList ++ (':' :: keyGap) ++ text) :: texts, ?_,
              List.Forall₂.cons ⟨entry.1, text, rfl, rfl, textReads⟩ textsRead⟩
            rw [List.mapM_cons, areTexts, writtenEntry, isText, keyShape]
            rfl
      have same := ordered_perm layout entries
      obtain ⟨texts, areTexts, textsRead⟩ :=
        each (ordered layout entries) fun entry entry_mem => same.mem_iff.mp entry_mem
      refine ⟨enclosedEntries layout depth texts, ?_, ?_⟩
      · rw [written_object, areTexts]
        rfl
      · rw [reread_object]
        refine reads_enclosedEntries regular depth keyBlank textsRead ?_
        have names : ((ordered layout entries).map fun entry => Text.joined entry.1).Nodup :=
          (List.Perm.map (fun entry : String × Data => Text.joined entry.1) same).nodup_iff.mpr apart
        rw [List.map_map]
        exact names

/-- A tree is written as a text that is read back where there is room for its levels, also with blanks after it. -/
theorem write_readWithin {levels room : Nat} {value : Data} (tree : IsTree levels value) (shallow : levels ≤ room) :
    ∃ text, write layout value = .ok text ∧ '\r' ∉ text.toList ∧
      ∀ blanks : String, IsGap blanks.toList → readWithin room (text ++ blanks) = .ok (reread layout value) := by
  obtain ⟨characters, isText, reads⟩ := exists_written regular tree 0
  refine ⟨String.ofList characters, ?_, ?_, ?_⟩
  · rw [write, writeCharacters, isText]
    rfl
  · rw [String.toList_ofList]
    exact reads.unbroken
  · intro blanks isGap
    obtain ⟨first, others, shape, dark, _⟩ := reads.starts
    have start : skipBlanks (characters ++ blanks.toList) = characters ++ blanks.toList := by
      rw [shape, List.cons_append, skipBlanks_of_head (by simp [dark])]
    have stops : Stops blanks.toList := by
      intro character head
      have blank := (isGap character (List.mem_of_mem_head? head)).1
      simp [isStop, blank]
    have nothing : skipBlanks blanks.toList = [] := by
      have all := skipBlanks_append isGap.blank []
      rwa [List.append_nil] at all
    have value := reads.reads _ (2 * (characters ++ blanks.toList).length + 2) shallow
      (by rw [List.length_append]; omega) stops
    rw [readWithin, readCharacters, String.toList_append, String.toList_ofList, start, value]
    change (if (skipBlanks blanks.toList).isEmpty then pure _ else throw Error.notJson) = _
    rw [nothing]
    rfl

/-- A tree of not too many levels is written as a text that is read back, also with blanks after it. -/
theorem write_read {levels : Nat} {value : Data} (tree : IsTree levels value) (shallow : levels ≤ mostLevels) :
    ∃ text, write layout value = .ok text ∧ '\r' ∉ text.toList ∧
      ∀ blanks : String, IsGap blanks.toList → read (text ++ blanks) = .ok (reread layout value) :=
  write_readWithin regular tree shallow

end Layouts

/-! A value has a text only if all its parts have one. -/

/-- A value has a text at some depth. -/
def HasText (layout : Layout) (value : Data) : Prop :=
  ∃ depth characters, written layout depth value = .ok characters

theorem hasText_of_write {layout : Layout} {value : Data} {text : String}
    (isText : write layout value = .ok text) : HasText layout value := by
  unfold write writeCharacters at isText
  cases isWritten : written layout 0 value with
  | ok characters => exact ⟨0, characters, isWritten⟩
  | error fault =>
      rw [isWritten] at isText
      cases isText

theorem forall₂_of_mapM_ok {α β ε : Type} {image : α → Except ε β} {elements : List α} {results : List β}
    (mapped : elements.mapM image = .ok results) :
    List.Forall₂ (fun element result => image element = .ok result) elements results := by
  induction elements generalizing results with
  | nil =>
      cases mapped
      exact List.Forall₂.nil
  | cons first rest ih =>
      rw [List.mapM_cons] at mapped
      cases isFirst : image first with
      | error failure =>
          rw [isFirst] at mapped
          cases mapped
      | ok result =>
          cases others : rest.mapM image with
          | error failure =>
              rw [isFirst, others] at mapped
              cases mapped
          | ok more =>
              rw [isFirst, others] at mapped
              cases mapped
              exact List.Forall₂.cons isFirst (ih others)

theorem exists_of_mapM {α β ε : Type} {image : α → Except ε β} {elements : List α} {results : List β}
    (mapped : elements.mapM image = .ok results) {element : α} (elementMem : element ∈ elements) :
    ∃ result, image element = .ok result := by
  rcases forall₂_exists_of_mem (forall₂_of_mapM_ok mapped) elementMem with ⟨result, _, found⟩
  exact ⟨result, found⟩

namespace HasText

variable {layout : Layout}

/-- An integer with a text can be shown. -/
theorem isShowable {value : Int} (hasText : HasText layout (.int value)) : Text.isShowable value = true := by
  rcases hasText with ⟨depth, characters, isWritten⟩
  change writtenInt value = _ at isWritten
  unfold writtenInt at isWritten
  split at isWritten
  · next showable => exact showable
  · cases isWritten

/-- The items of a list with a text have texts. -/
theorem item {items : List Data} (hasText : HasText layout (.list items)) {item : Data}
    (itemMem : item ∈ items) : HasText layout item := by
  rcases hasText with ⟨depth, characters, isWritten⟩
  rw [written_list] at isWritten
  cases mapped : items.mapM (written layout (depth + 1)) with
  | ok texts =>
      rcases exists_of_mapM mapped itemMem with ⟨text, isText⟩
      exact ⟨depth + 1, text, isText⟩
  | error fault =>
      rw [mapped] at isWritten
      cases isWritten

/-- The members of a mapping with a text have texts. -/
theorem entry {entries : List (String × Data)} (hasText : HasText layout (Data.object entries))
    {name : String} {value : Data} (entryMem : (name, value) ∈ entries) : HasText layout value := by
  rcases hasText with ⟨depth, characters, isWritten⟩
  rw [written_object] at isWritten
  cases mapped : (ordered layout entries).mapM (fun entry =>
      writtenEntry layout (.text entry.1) (written layout (depth + 1) entry.2)) with
  | error fault =>
      rw [mapped] at isWritten
      cases isWritten
  | ok texts =>
      have inOrder := (ordered_perm layout entries).mem_iff.mpr entryMem
      rcases exists_of_mapM mapped inOrder with ⟨text, isText⟩
      dsimp only at isText
      cases isValue : written layout (depth + 1) value with
      | ok characters => exact ⟨depth + 1, characters, isValue⟩
      | error fault =>
          rw [writtenEntry, isValue] at isText
          cases isText

end HasText

end Json

end SpecGraph
