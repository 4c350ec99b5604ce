import SpecGraph.Proofs.Workspace

/-!
# Manifests that stand in their folders

A manifest that was stored stands in a folder which is there. So it can be loaded and stored again, without a folder
being made, as long as the file tree grows and the text stays.
-/

namespace SpecGraph

namespace Files

variable {tree later : Files}

/-- A path in whose place a folder was made is not too long. -/
theorem isTooLong_of_makeFolder {path : Path} (made : tree.makeFolder path = .done later) :
    later.isTooLong path = false := by
  have grows := (deepens_makeFolder made).toGrows
  unfold makeFolder at made
  split at made
  · cases made
  · next free =>
      have short : tree.isTooLong path = false := by
        simp only [Bool.or_eq_true, not_or, Bool.not_eq_true] at free
        exact free.2
      split at made
      · next found =>
          rcases Option.bind_eq_some_iff.mp found with ⟨place, resolved, _⟩
          rw [grows.isTooLong_eq resolved, short]
      · next resolved => rw [grows.isTooLong_eq resolved, short]
      · cases made

theorem isTooLong_of_makeFolders {path : Path} {depth : Nat} (made : tree.makeFolders path depth = (later, true)) :
    later.isTooLong path = false := by
  cases depth with
  | zero => cases made
  | succ depth =>
      unfold makeFolders at made
      split at made
      · next isMade =>
          cases made
          exact isTooLong_of_makeFolder isMade
      · cases made
      · split at made
        · cases made
        · dsimp only at made
          split at made
          · next isMade =>
              cases made
              exact isTooLong_of_makeFolder isMade
          · cases made

/-- Where a file can be written its folder is there. -/
theorem find?_of_resolve? {folder : Path} {name : String} {place : Location}
    (resolved : tree.resolve? (folder.child name) = some place) : tree.find? folder = some .folder := by
  rw [resolve?, Path.child, follow?_append] at resolved
  rcases Option.bind_eq_some_iff.mp resolved with ⟨middle, leads, last⟩
  rw [follow?] at last
  split at last
  · next isFolder => exact Option.bind_eq_some_iff.mpr ⟨middle, leads, isFolder⟩
  · cases last

end Files

namespace Manifest

/-- A file has a text at a path that can be written again, in a folder that is there. -/
structure Stands (files : Files) (path : Path) (text : String) : Prop where
  /-- The path leads to the file. -/
  found : files.find? path = some (.file text)
  /-- The path is not too long. -/
  short : files.isTooLong path = false
  /-- A file can have the path. -/
  possible : path.isPossible = true
  /-- The folder is there. -/
  folder : files.find? path.parent = some .folder
  /-- The path of the folder is not too long. -/
  shortFolder : files.isTooLong path.parent = false

theorem parent_child (folder : Path) (name : String) : (folder.child name).parent = folder := by
  rw [Path.parent, Path.child, List.dropLast_concat]

variable {folder : Path} {name text : String} {files opened later : Files}

/-- A file that was opened and written stands in its folder. -/
theorem stands_of_write? (isOpened : opened? files (folder.child name) = some opened)
    (isWritten : opened.write? (folder.child name) text = some later) : Stands later (folder.child name) text := by
  have possible := (exists_of_opened? isOpened).1
  unfold opened? at isOpened
  rw [if_pos possible] at isOpened
  unfold Files.writeDeep? at isOpened
  split at isOpened
  next deeper made parents =>
  split at isOpened
  case isFalse => cases isOpened
  next isMade =>
  subst isMade
  have shortDeeper : deeper.isTooLong folder = false := by
    have made := Files.isTooLong_of_makeFolders parents
    rwa [parent_child] at made
  have grows := (Files.grows_of_write? isOpened).trans (Files.grows_of_write? isWritten)
  rcases Files.exists_of_write? isOpened with ⟨place, resolved, _⟩
  rcases Option.bind_eq_some_iff.mp (Files.find?_of_resolve? resolved) with ⟨middle, leads, _⟩
  refine ⟨Files.find?_of_write? isWritten, Files.isTooLong_of_write? isWritten, possible, ?_, ?_⟩
  · rw [parent_child]
    exact Files.find?_of_resolve? (grows.resolve? resolved)
  · rw [parent_child, grows.isTooLong_eq leads, shortDeeper]

namespace Stands

/-- A file stands in its folder as long as the file tree grows and the text stays. -/
theorem grows {path : Path} (stands : Stands files path text) (grows : files.Grows later)
    (same : later.textAt? path.place = files.textAt? path.place) : Stands later path text := by
  rcases Option.bind_eq_some_iff.mp stands.found with ⟨place, resolved, _⟩
  rcases Option.bind_eq_some_iff.mp stands.folder with ⟨middle, leads, isFolder⟩
  refine ⟨grows.find? stands.found (same.trans (Files.textAt?_of_find? stands.found)), ?_, stands.possible, ?_, ?_⟩
  · rw [grows.isTooLong_eq resolved, stands.short]
  · exact Option.bind_eq_some_iff.mpr ⟨middle, grows.resolve? leads, grows.isFolder isFolder⟩
  · rw [grows.isTooLong_eq leads, stands.shortFolder]

/-- A file that stands in its folder can be opened. -/
theorem exists_opened? (named : name ≠ "..") (stands : Stands files (folder.child name) text) :
    ∃ opened, opened? files (folder.child name) = some opened := by
  rcases Option.bind_eq_some_iff.mp stands.found with ⟨place, resolved, isFile⟩
  have isFolder : files.nodeAt? place.dropLast = some .folder := by
    have isThere := stands.folder
    rw [parent_child] at isThere
    rcases Option.bind_eq_some_iff.mp isThere with ⟨middle, leads, isFolder⟩
    rw [Files.resolve?_eq_place resolved, Path.place_child named, List.dropLast_concat]
    rwa [← Files.resolve?_eq_place leads]
  have noFolder : files.nodeAt? place ≠ some .folder := by
    rw [isFile]
    simp
  unfold opened? Files.writeDeep?
  rw [if_pos stands.possible, Files.makeParents_of_find? stands.folder stands.shortFolder]
  exact ⟨_, Files.write?_eq_some.mpr ⟨place, resolved, stands.short, noFolder, isFolder, rfl⟩⟩

/-- A manifest with a text is stored where a file stands in its folder. -/
theorem exists_stored (named : name ≠ "..") (stands : Stands files (folder.child name) text) {manifest : Data}
    {other : String} (isText : Json.write layout manifest = .ok other) :
    ∃ later, (store (folder.child name) manifest).action files = (.ok (), later) ∧
      Stands later (folder.child name) (other ++ "\n") := by
  rcases stands.exists_opened? named with ⟨opened, isOpened⟩
  have stored := stored_action (folder.child name) manifest files
  generalize (store (folder.child name) manifest).action files = result at stored ⊢
  rcases result with ⟨outcome, later⟩
  cases stored with
  | closed isClosed => cases isClosed.symm.trans isOpened
  | emptied _ noText => cases isText.symm.trans noText
  | written sameOpened sameText isWritten =>
      cases isText.symm.trans sameText
      exact ⟨later, rfl, stands_of_write? sameOpened isWritten⟩

end Stands

end Manifest

end SpecGraph
