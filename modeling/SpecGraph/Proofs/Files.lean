import Mathlib.Data.List.Basic
import SpecGraph.Files

/-!
# What making and writing files changes

A path that leads somewhere leads to its place, which the names and double dots of the path tell without
the tree. Making folders keeps all texts, and puts no folder where there is a text; writing a file changes
the text at one place. So a tree only grows: what a path led to before it leads to afterwards, and a text
that could be read at a path can be read there until another one is written to its place.
-/

namespace SpecGraph

namespace Path

/-- The place that parts lead to from a folder if all folders on the way exist. -/
def walk (start : Location) (parts : List String) : Location :=
  parts.foldl (fun place part => if part = ".." then place.dropLast else place ++ [part]) start

/-- The place that a path leads to if all folders on the way exist. -/
def place (path : Path) : Location := walk (if path.isAbsolute then [] else Files.home) path.parts

theorem walk_cons (start : Location) (part : String) (rest : List String) :
    walk start (part :: rest) =
      walk (if part = ".." then start.dropLast else start ++ [part]) rest := rfl

/-- The last part of a path that is no double dots is the last name of its place. -/
theorem place_child {path : Path} {part : String} (name : part ≠ "..") :
    (path.child part).place = path.place ++ [part] := by
  have last (start : Location) : walk start (path.parts ++ [part]) = walk start path.parts ++ [part] := by
    rw [walk, List.foldl_append, ← walk]
    exact if_neg name
  exact last _

end Path

namespace Files

/-- The text of the file at a place. -/
def textAt? (tree : Files) (place : Location) : Option String :=
  (tree.files.find? fun entry => entry.1 = place).map Prod.snd

theorem nodeAt?_eq_folder {tree : Files} {place : Location} :
    tree.nodeAt? place = some .folder ↔ place = [] ∨ place ∈ tree.folders := by
  unfold nodeAt?
  split
  · next there => simp [there]
  · next absent =>
      simp only [absent, iff_false]
      cases tree.files.find? fun entry => entry.1 = place <;> simp

theorem nodeAt?_of_not_folder {tree : Files} {place : Location}
    (noFolder : tree.nodeAt? place ≠ some .folder) :
    tree.nodeAt? place = (tree.textAt? place).map .file := by
  rw [Ne, nodeAt?_eq_folder] at noFolder
  rw [nodeAt?, if_neg noFolder, textAt?, Option.map_map]
  rfl

theorem textAt?_of_nodeAt? {tree : Files} {place : Location} {text : String}
    (found : tree.nodeAt? place = some (.file text)) : tree.textAt? place = some text := by
  have noFolder : tree.nodeAt? place ≠ some .folder := by
    rw [found]
    simp
  rw [nodeAt?_of_not_folder noFolder] at found
  cases here : tree.textAt? place with
  | none => rw [here] at found; cases found
  | some other => rw [here] at found; simpa using found

/-- Parts lead to their place, or nowhere. -/
theorem follow?_eq_walk {tree : Files} {start place : Location} {parts : List String}
    (followed : tree.follow? start parts = some place) : place = Path.walk start parts := by
  induction parts generalizing start with
  | nil => exact (Option.some.inj followed).symm
  | cons part rest ih =>
      rw [follow?] at followed
      split at followed
      · rw [Path.walk_cons]
        exact ih followed
      · cases followed

/-- A path leads to its place, or nowhere. -/
theorem resolve?_eq_place {tree : Files} {path : Path} {place : Location}
    (resolved : tree.resolve? path = some place) : place = path.place :=
  follow?_eq_walk resolved

/-- The text that a path leads to is the one at its place. -/
theorem textAt?_of_find? {tree : Files} {path : Path} {text : String}
    (found : tree.find? path = some (.file text)) : tree.textAt? path.place = some text := by
  obtain ⟨place, resolved, there⟩ := Option.bind_eq_some_iff.mp found
  rw [← resolve?_eq_place resolved]
  exact textAt?_of_nodeAt? there

/-- A later tree has the folders and texts of an earlier one, and no folder where that had a text. -/
structure Grows (earlier later : Files) : Prop where
  /-- Every folder stays. -/
  folders : ∀ place ∈ earlier.folders, place ∈ later.folders
  /-- A new folder is where no text was. -/
  fresh : ∀ place ∈ later.folders, place ∈ earlier.folders ∨ earlier.textAt? place = none
  /-- Where a text was there is one. -/
  texts : ∀ place, earlier.textAt? place ≠ none → later.textAt? place ≠ none

theorem Grows.refl (tree : Files) : tree.Grows tree :=
  ⟨fun _ there => there, fun _ there => Or.inl there, fun _ there => there⟩

theorem Grows.trans {first second third : Files} (before : first.Grows second)
    (after : second.Grows third) : first.Grows third := by
  refine ⟨fun place there => after.folders place (before.folders place there), ?_,
    fun place there => after.texts place (before.texts place there)⟩
  intro place there
  rcases after.fresh place there with inSecond | noText
  · exact before.fresh place inSecond
  · right
    by_contra some_text
    exact before.texts place some_text noText

variable {tree later : Files}

theorem Grows.isFolder (grows : tree.Grows later) {place : Location}
    (isFolder : tree.nodeAt? place = some .folder) : later.nodeAt? place = some .folder := by
  rw [nodeAt?_eq_folder] at isFolder ⊢
  exact isFolder.imp_right (grows.folders place)

theorem Grows.follow? (grows : tree.Grows later) {start place : Location} {parts : List String}
    (followed : tree.follow? start parts = some place) : later.follow? start parts = some place := by
  induction parts generalizing start with
  | nil => exact followed
  | cons part rest ih =>
      rw [Files.follow?] at followed ⊢
      split at followed
      · next isFolder =>
          rw [if_pos (grows.isFolder isFolder)]
          exact ih followed
      · cases followed

/-- A path that leads somewhere goes on to lead there. -/
theorem Grows.resolve? (grows : tree.Grows later) {path : Path} {place : Location}
    (resolved : tree.resolve? path = some place) : later.resolve? path = some place :=
  grows.follow? resolved

/-- A file that a path leads to stays, though its text may change. -/
theorem Grows.find? (grows : tree.Grows later) {path : Path} {text other : String}
    (found : tree.find? path = some (.file text)) (there : later.textAt? path.place = some other) :
    later.find? path = some (.file other) := by
  obtain ⟨place, resolved, node⟩ := Option.bind_eq_some_iff.mp found
  obtain rfl := resolve?_eq_place resolved
  have noFolder : later.nodeAt? path.place ≠ some .folder := by
    rw [Ne, nodeAt?_eq_folder]
    have before : ¬(path.place = [] ∨ path.place ∈ tree.folders) := by
      rw [← nodeAt?_eq_folder, node]
      simp
    rintro (root | inFolders)
    · exact before (Or.inl root)
    · rcases grows.fresh _ inFolders with earlier | noText
      · exact before (Or.inr earlier)
      · rw [textAt?_of_nodeAt? node] at noText
        cases noText
  rw [Files.find?, grows.resolve? resolved, Option.bind_some, nodeAt?_of_not_folder noFolder, there]
  rfl

theorem Grows.isBlockedByLength (grows : tree.Grows later) {start : Location} {parts : List String}
    (blocked : tree.isBlockedByLength start parts = true) :
    later.isBlockedByLength start parts = true := by
  induction parts generalizing start with
  | nil => cases blocked
  | cons part rest ih =>
      rw [Files.isBlockedByLength] at blocked ⊢
      split at blocked
      · next isFolder =>
          rw [if_pos (grows.isFolder isFolder), Bool.or_eq_true]
          exact ((Bool.or_eq_true _ _).mp blocked).imp_right ih
      · cases blocked

/-- A path that is too long stays too long. -/
theorem Grows.isTooLong (grows : tree.Grows later) {path : Path}
    (long : tree.isTooLong path = true) : later.isTooLong path = true := by
  rw [Files.isTooLong, Bool.or_eq_true] at long ⊢
  exact long.imp_right grows.isBlockedByLength

theorem isBlockedByLength_of_follow? {start place : Location} {parts : List String}
    (followed : tree.follow? start parts = some place) :
    tree.isBlockedByLength start parts =
      parts.any fun part => Path.mostPartBytes < Text.byteSize part := by
  induction parts generalizing start with
  | nil => rfl
  | cons part rest ih =>
      rw [follow?] at followed
      split at followed
      · next isFolder => rw [isBlockedByLength, if_pos isFolder, ih followed, List.any_cons]
      · cases followed

/-- Whether a path that leads somewhere is too long does not change. -/
theorem Grows.isTooLong_eq (grows : tree.Grows later) {path : Path} {place : Location}
    (resolved : tree.resolve? path = some place) : later.isTooLong path = tree.isTooLong path := by
  rw [Files.isTooLong, Files.isTooLong, isBlockedByLength_of_follow? resolved,
    isBlockedByLength_of_follow? (grows.resolve? resolved)]

/-- Making folders changes folders only. -/
structure Deepens (earlier later : Files) : Prop extends Grows earlier later where
  /-- All files stay as they are. -/
  files : later.files = earlier.files

theorem Deepens.refl (tree : Files) : tree.Deepens tree := ⟨Grows.refl tree, rfl⟩

theorem Deepens.trans {first second third : Files} (before : first.Deepens second)
    (after : second.Deepens third) : first.Deepens third :=
  ⟨before.toGrows.trans after.toGrows, after.files.trans before.files⟩

theorem Deepens.textAt? (deepens : tree.Deepens later) (place : Location) :
    later.textAt? place = tree.textAt? place := by
  rw [Files.textAt?, deepens.files, ← Files.textAt?]

theorem deepens_makeFolder {path : Path} (made : tree.makeFolder path = .done later) :
    tree.Deepens later := by
  unfold makeFolder at made
  split at made
  · cases made
  · split at made
    · cases made
      exact Deepens.refl tree
    · next place absent resolved =>
        cases made
        have noNode : tree.nodeAt? place = none := by
          rw [find?, resolved] at absent
          exact absent
        have noText : tree.textAt? place = none := by
          have noFolder : tree.nodeAt? place ≠ some .folder := by
            rw [noNode]
            simp
          rw [nodeAt?_of_not_folder noFolder, Option.map_eq_none_iff] at noNode
          exact noNode
        refine ⟨⟨fun other there => List.mem_append_left _ there, ?_, fun _ there => there⟩, rfl⟩
        intro other there
        rcases List.mem_append.mp there with earlier | new
        · exact Or.inl earlier
        · obtain rfl := List.mem_singleton.mp new
          exact Or.inr noText
    · cases made

theorem deepens_makeFolders (tree : Files) (path : Path) (depth : Nat) :
    tree.Deepens (tree.makeFolders path depth).1 := by
  induction depth generalizing tree path with
  | zero => exact Deepens.refl tree
  | succ depth ih =>
      unfold makeFolders
      split
      · next later made => exact deepens_makeFolder made
      · exact Deepens.refl tree
      · split
        · exact Deepens.refl tree
        · have above := ih tree path.parent
          cases parents : tree.makeFolders path.parent depth with
          | mk middle made =>
              rw [parents] at above
              simp only
              split
              · next later _ done => exact above.trans (deepens_makeFolder done)
              · exact above

theorem deepens_makeParents (tree : Files) (path : Path) : tree.Deepens (tree.makeParents path).1 :=
  deepens_makeFolders tree path.parent _

theorem find?_put (files : List (Location × String)) (place other : Location) (text : String) :
    (put files place text).find? (fun entry => entry.1 = other) =
      if other = place then some (place, text) else files.find? fun entry => entry.1 = other := by
  induction files with
  | nil =>
      by_cases same : other = place
      · simp [put, same]
      · simp [put, same, Ne.symm same]
  | cons entry rest ih =>
      rw [put]
      by_cases here : entry.1 = place
      · rw [if_pos here]
        by_cases same : other = place
        · simp [same]
        · simp [same, here, Ne.symm same]
      · rw [if_neg here, List.find?_cons, List.find?_cons, ih]
        by_cases same : other = place
        · simp [same, here]
        · simp [same]

/-- What it takes to write a file, and what is changed by it. -/
theorem write?_eq_some {path : Path} {text : String} :
    tree.write? path text = some later ↔
      ∃ place, tree.resolve? path = some place ∧ tree.isTooLong path = false ∧
        tree.nodeAt? place ≠ some .folder ∧ tree.nodeAt? place.dropLast = some .folder ∧
        later = { tree with files := put tree.files place text } := by
  unfold write?
  cases resolved : tree.resolve? path with
  | none => simp
  | some place =>
      by_cases long : tree.isTooLong path = true
      · simp [long]
      · by_cases folder : tree.nodeAt? place = some .folder
        · simp [folder]
        · by_cases parent : tree.nodeAt? place.dropLast = some .folder
          · simp [long, parent, eq_comm]
          · simp [long, folder, parent]

theorem exists_of_write? {path : Path} {text : String} (written : tree.write? path text = some later) :
    ∃ place, tree.resolve? path = some place ∧ tree.isTooLong path = false ∧
      tree.nodeAt? place ≠ some .folder ∧ tree.nodeAt? place.dropLast = some .folder ∧
      later = { tree with files := put tree.files place text } :=
  write?_eq_some.mp written

theorem textAt?_of_write? {path : Path} {text : String} (written : tree.write? path text = some later)
    (place : Location) :
    later.textAt? place = if place = path.place then some text else tree.textAt? place := by
  obtain ⟨found, resolved, _, _, _, rfl⟩ := exists_of_write? written
  obtain rfl := resolve?_eq_place resolved
  rw [textAt?, find?_put]
  split <;> rfl

theorem grows_of_write? {path : Path} {text : String} (written : tree.write? path text = some later) :
    tree.Grows later := by
  have texts := textAt?_of_write? written
  obtain ⟨_, _, _, _, _, rfl⟩ := exists_of_write? written
  refine ⟨fun _ there => there, fun _ there => Or.inl there, ?_⟩
  intro place there
  rw [texts]
  split
  · simp
  · exact there

/-- What was written to a file can be read there. -/
theorem find?_of_write? {path : Path} {text : String} (written : tree.write? path text = some later) :
    later.find? path = some (.file text) := by
  have texts := textAt?_of_write? written path.place
  have grows := grows_of_write? written
  obtain ⟨place, resolved, _, noFolder, _, rfl⟩ := exists_of_write? written
  obtain rfl := resolve?_eq_place resolved
  have same : nodeAt? { tree with files := put tree.files path.place text } path.place ≠
      some .folder := by
    rw [Ne, nodeAt?_eq_folder] at noFolder ⊢
    exact noFolder
  rw [find?, grows.resolve? resolved, Option.bind_some, nodeAt?_of_not_folder same, texts, if_pos rfl]
  rfl

theorem isTooLong_of_write? {path : Path} {text : String}
    (written : tree.write? path text = some later) : later.isTooLong path = false := by
  have grows := grows_of_write? written
  obtain ⟨place, resolved, short, _⟩ := exists_of_write? written
  rw [grows.isTooLong_eq resolved, short]

/-- A file that was written can be written again. -/
theorem exists_write?_of_write? {path : Path} {text : String}
    (written : tree.write? path text = some later) (other : String) :
    ∃ last, later.write? path other = some last := by
  have grows := grows_of_write? written
  have short := isTooLong_of_write? written
  obtain ⟨place, resolved, _, noFolder, parent, shape⟩ := exists_of_write? written
  refine ⟨_, write?_eq_some.mpr ⟨place, grows.resolve? resolved, short, ?_, grows.isFolder parent, rfl⟩⟩
  rw [shape, Ne, nodeAt?_eq_folder]
  rw [Ne, nodeAt?_eq_folder] at noFolder
  exact noFolder

theorem follow?_append (tree : Files) (start : Location) (front back : List String) :
    tree.follow? start (front ++ back) = (tree.follow? start front).bind fun place => tree.follow? place back := by
  induction front generalizing start with
  | nil => rfl
  | cons part rest ih =>
      rw [List.cons_append, Files.follow?, Files.follow?]
      split
      · exact ih _
      · rfl

/-- On the way to a folder there are folders only. -/
theorem isBlocked_of_find? {path : Path} (isFolder : tree.find? path = some .folder) :
    tree.isBlocked path = false := by
  obtain ⟨place, resolved, there⟩ := Option.bind_eq_some_iff.mp isFolder
  unfold isBlocked
  rw [List.any_eq_false]
  intro count _
  have way := tree.follow?_append (if path.isAbsolute then [] else home) (path.parts.take count)
    (path.parts.drop count)
  rw [List.take_append_drop] at way
  obtain ⟨middle, first, second⟩ := Option.bind_eq_some_iff.mp (way.symm.trans resolved)
  have middleFolder : tree.nodeAt? middle = some .folder := by
    cases rest : path.parts.drop count with
    | nil =>
        rw [rest] at second
        exact Option.some.inj second ▸ there
    | cons part others =>
        rw [rest, Files.follow?] at second
        split at second
        · assumption
        · cases second
  have found : tree.find? ⟨path.anchor, path.parts.take count⟩ = some .folder :=
    Option.bind_eq_some_iff.mpr ⟨middle, first, middleFolder⟩
  rw [found]
  simp

/-- Nothing has to be made where the folder of a path is there. -/
theorem makeParents_of_find? {path : Path} (isFolder : tree.find? path.parent = some .folder)
    (short : tree.isTooLong path.parent = false) : tree.makeParents path = (tree, true) := by
  unfold makeParents makeFolders makeFolder
  rw [isBlocked_of_find? isFolder, short, isFolder]
  rfl

/-- A text without carriage returns is read as it stands. -/
theorem readText_eq {text : String} (unbroken : '\r' ∉ text.toList) : readText text = text := by
  have each (characters : List Char) (noReturn : '\r' ∉ characters) :
      withLineFeeds characters = characters := by
    induction characters using withLineFeeds.induct with
    | case1 => rfl
    | case2 => simp at noReturn
    | case3 => simp at noReturn
    | case4 character rest notFirst notSecond ih =>
        rw [withLineFeeds, ih fun inside => noReturn (List.mem_cons_of_mem _ inside)]
        · exact notFirst
        · exact notSecond
  rw [readText, each _ unbroken, String.ofList_toList]

end Files

end SpecGraph
