import Mathlib.Data.List.Induction
import SpecGraph.Proofs.Files
import SpecGraph.Proofs.Text.CodePoints

/-!
# Trees whose folders are there

In a tree of files every file and every folder is in a folder. A path without double dots leads to its place if
anything is there, so what it leads to is what is at its place. To make the folders of such a path is to put folders
in all places on its way, which fails at once if a file is in the way. To write a file changes its place only.
-/

namespace SpecGraph

namespace Text

/-- A text that is the one of its code points. -/
def IsCoded (text : String) : Prop := ofCodes (codes text.toList) = text.toList

theorem codes_ofCodes_append {points : List Nat} (small : ∀ code ∈ points, code < 0x110000) (rest : List Char) :
    codes (ofCodes points ++ rest) = points ++ codes rest := by
  induction points with
  | nil => rfl
  | cons code others ih =>
      rw [List.forall_mem_cons] at small
      rw [ofCodes, List.flatMap_cons, List.append_assoc, codes_ofCode_append small.1, ← ofCodes, ih small.2,
        List.cons_append]

theorem IsCoded.codes_append {front : String} (coded : IsCoded front) (rest : List Char) :
    codes (front.toList ++ rest) = codes front.toList ++ codes rest := by
  have along := codes_ofCodes_append (codes_lt front.toList) rest
  rwa [coded] at along

theorem IsCoded.append {front rest : String} (ofFront : IsCoded front) (ofRest : IsCoded rest) :
    IsCoded (front ++ rest) := by
  rw [IsCoded, String.toList_append, ofFront.codes_append, ofCodes, List.flatMap_append, ← ofCodes, ← ofCodes,
    ofFront, ofRest]

theorem IsCoded.intercalate {separator : String} (ofSeparator : IsCoded separator) {parts : List String}
    (coded : ∀ part ∈ parts, IsCoded part) : IsCoded (separator.intercalate parts) := by
  induction parts with
  | nil => rfl
  | cons part rest ih =>
      rw [List.forall_mem_cons] at coded
      cases rest with
      | nil =>
          rw [String.intercalate_singleton]
          exact coded.1
      | cons next others =>
          rw [String.intercalate_cons_cons]
          exact (coded.1.append ofSeparator).append (ih coded.2)

/-- A text that goes on after a text of code points is not smaller. -/
theorem IsCoded.byteSize_le_append {front : String} (coded : IsCoded front) (rest : String) :
    byteSize front ≤ byteSize (front ++ rest) := by
  have grows (width : Nat → Nat) (codes : List Nat) (size : Nat) :
      size ≤ codes.foldl (fun size code => size + width code) size := by
    induction codes generalizing size with
    | nil => exact Nat.le_refl size
    | cons code others ih => exact Nat.le_trans (Nat.le_add_right _ _) (ih _)
  unfold byteSize
  rw [String.toList_append, coded.codes_append, List.foldl_append]
  exact grows (fun code => if code < 0x80 || isHalf code then 1 else (Char.ofNat code).utf8Size) _ _

end Text

namespace Path

/-- The folder that a path starts in. -/
def start (path : Path) : Location := if path.isAbsolute then [] else Files.home

/-- A path without double dots, whose parts are texts that are not too long for names. -/
structure IsStraight (path : Path) : Prop where
  /-- It starts as paths do. -/
  anchor : path.anchor ∈ ["", "/", "//"]
  /-- Its parts are texts. -/
  coded : ∀ part ∈ path.parts, Text.IsCoded part
  /-- No part is too long. -/
  short : ∀ part ∈ path.parts, Text.byteSize part ≤ mostPartBytes
  /-- No part goes to the folder above. -/
  down : ".." ∉ path.parts

end Path

namespace Files

/-- Every file and folder of a tree is in a folder. -/
structure IsTree (tree : Files) : Prop where
  /-- The working folder is there. -/
  home : tree.nodeAt? Files.home = some .folder
  /-- What is at a place is in a folder. -/
  inFolder : ∀ place, tree.nodeAt? place ≠ none → tree.nodeAt? place.dropLast = some .folder

/-- The tree with the working folder and nothing else is one. -/
theorem isTree_empty : empty.IsTree where
  home := by decide
  inFolder place there := by
    have onlyHome : place = [] ∨ place = Files.home := by
      by_contra absent
      refine there ?_
      rw [nodeAt?, if_neg]
      · rfl
      · simpa [empty] using absent
    rcases onlyHome with rfl | rfl
    · decide
    · decide

/-- A file is at a place. -/
def HasFile (tree : Files) (place : Location) : Prop := ∃ text, tree.nodeAt? place = some (.file text)

end Files

section Places

variable {place other : Location}

/-- A place on the way to another one is on the way to its folder. -/
theorem prefix_dropLast (onWay : other <+: place) (isOther : other ≠ place) : other <+: place.dropLast := by
  rcases onWay with ⟨rest, rfl⟩
  have goesOn : rest ≠ [] := by
    rintro rfl
    exact isOther (List.append_nil other).symm
  rw [List.dropLast_append_of_ne_nil goesOn]
  exact List.prefix_append _ _

theorem prefix_of_dropLast (onWay : other <+: place.dropLast) : other <+: place :=
  onWay.trans (List.dropLast_prefix place)

end Places

namespace Path

variable {path : Path}

theorem walk_eq_append {start : Location} {parts : List String} (down : ".." ∉ parts) :
    walk start parts = start ++ parts := by
  induction parts generalizing start with
  | nil => exact (List.append_nil start).symm
  | cons part rest ih =>
      rw [List.mem_cons, not_or] at down
      rw [walk_cons, if_neg (Ne.symm down.1), ih down.2, List.append_assoc, List.singleton_append]

theorem place_eq (down : ".." ∉ path.parts) : path.place = path.start ++ path.parts := walk_eq_append down

theorem place_parent (down : ".." ∉ path.parts) (hasParts : path.parts ≠ []) :
    path.parent.place = path.place.dropLast := by
  have downAbove : ".." ∉ path.parent.parts := fun above => down (List.dropLast_subset _ above)
  rw [place_eq down, place_eq downAbove, List.dropLast_append_of_ne_nil hasParts]
  rfl

/-- A beginning of a straight path is straight. -/
theorem IsStraight.take (straight : path.IsStraight) (count : Nat) :
    IsStraight ⟨path.anchor, path.parts.take count⟩ where
  anchor := straight.anchor
  coded part partMem := straight.coded part (List.mem_of_mem_take partMem)
  short part partMem := straight.short part (List.mem_of_mem_take partMem)
  down above := straight.down (List.mem_of_mem_take above)

theorem IsStraight.parent (straight : path.IsStraight) : path.parent.IsStraight where
  anchor := straight.anchor
  coded part partMem := straight.coded part (List.dropLast_subset _ partMem)
  short part partMem := straight.short part (List.dropLast_subset _ partMem)
  down above := straight.down (List.dropLast_subset _ above)

/-- The text of the folder of a straight path is short, or begins its text. -/
theorem IsStraight.byteSize_parent_le (straight : path.IsStraight) (short : Text.byteSize path.text ≤ mostBytes) :
    Text.byteSize path.parent.text ≤ mostBytes := by
  have codedAnchors : ∀ anchor ∈ ["", "/", "//"], Text.IsCoded anchor := by
    unfold Text.IsCoded
    decide +kernel
  have codedAnchor := codedAnchors path.anchor straight.anchor
  have codedSlash := codedAnchors "/" (by decide)
  have textOf (parts : List String) (some_ : parts ≠ []) :
      Path.text ⟨path.anchor, parts⟩ = path.anchor ++ "/".intercalate parts :=
    if_neg fun both => some_ both.2
  rcases List.eq_nil_or_concat path.parts with none_ | ⟨above, name, isParts⟩
  · have isParent : path.parent = path := by rw [Path.parent, none_, List.dropLast_nil, ← none_]
    rwa [isParent]
  · rw [List.concat_eq_append] at isParts
    have isParent : path.parent = ⟨path.anchor, above⟩ := by rw [Path.parent, isParts, List.dropLast_concat]
    have isPath : path.text = path.anchor ++ "/".intercalate (above ++ [name]) := by
      rw [← isParts]
      exact textOf path.parts (by simp [isParts])
    have codedAbove : ∀ part ∈ above, Text.IsCoded part := fun part partMem =>
      straight.coded part (isParts ▸ List.mem_append_left _ partMem)
    rw [isParent]
    by_cases top : above = []
    · subst top
      have shortAnchors : ∀ anchor ∈ ["", "/", "//"], Text.byteSize (Path.text ⟨anchor, []⟩) ≤ mostBytes := by decide
      exact shortAnchors path.anchor straight.anchor
    · rw [textOf above top]
      rw [isPath, String.intercalate_append_of_ne_nil top (List.cons_ne_nil _ _), String.append_assoc,
        ← String.append_assoc] at short
      exact Nat.le_trans ((codedAnchor.append (codedSlash.intercalate codedAbove)).byteSize_le_append _) short

end Path

namespace Files

variable {tree later : Files} {path : Path} {place other : Location}

/-- A place on the way to something is a folder. -/
theorem IsTree.folder_of_prefix (isTree : tree.IsTree) (there : tree.nodeAt? place ≠ none) (onWay : other <+: place)
    (isOther : other ≠ place) : tree.nodeAt? other = some .folder := by
  induction place using List.reverseRecOn with
  | nil => exact absurd (List.prefix_nil.mp onWay) isOther
  | append_singleton above name ih =>
      have folder := isTree.inFolder _ there
      rw [List.dropLast_concat] at folder
      have onWayAbove := (List.prefix_concat_iff.mp onWay).resolve_left isOther
      by_cases isAbove : other = above
      · rw [isAbove, folder]
      · exact ih (by simp [folder]) onWayAbove isAbove

theorem IsTree.folder_above (isTree : tree.IsTree) (folder : tree.nodeAt? place = some .folder)
    (onWay : other <+: place) : tree.nodeAt? other = some .folder := by
  by_cases same : other = place
  · rw [same, folder]
  · exact isTree.folder_of_prefix (by simp [folder]) onWay same

theorem IsTree.folder_start (isTree : tree.IsTree) (path : Path) : tree.nodeAt? path.start = some .folder := by
  unfold Path.start
  split
  · exact nodeAt?_eq_folder.mpr (Or.inl rfl)
  · exact isTree.home

/-- Parts lead to a place exactly if its folder is there. -/
theorem IsTree.follow?_eq (isTree : tree.IsTree) {start : Location} {parts : List String} (down : ".." ∉ parts)
    (folder : tree.nodeAt? start = some .folder) :
    tree.follow? start parts =
      if tree.nodeAt? (start ++ parts).dropLast = some .folder then some (start ++ parts) else none := by
  induction parts generalizing start with
  | nil =>
      have above := isTree.inFolder start (by simp [folder])
      rw [List.append_nil, if_pos above]
      rfl
  | cons part rest ih =>
      rw [List.mem_cons, not_or] at down
      have along : start ++ part :: rest = (start ++ [part]) ++ rest := by simp
      rw [follow?, if_pos folder, if_neg (Ne.symm down.1), along]
      by_cases next : tree.nodeAt? (start ++ [part]) = some .folder
      · exact ih down.2 next
      · cases rest with
        | nil => rw [List.append_nil, List.dropLast_concat, if_pos folder, follow?]
        | cons second others =>
            have absent : ¬tree.nodeAt? (start ++ [part] ++ second :: others).dropLast = some .folder := by
              refine fun above => next (isTree.folder_above above ?_)
              rw [List.dropLast_append_of_ne_nil (List.cons_ne_nil _ _)]
              exact List.prefix_append _ _
            rw [follow?, if_neg next, if_neg absent]

/-- A straight path leads to its place exactly if the folder of the place is there. -/
theorem IsTree.resolve?_eq (isTree : tree.IsTree) (down : ".." ∉ path.parts) :
    tree.resolve? path =
      if tree.nodeAt? path.place.dropLast = some .folder then some path.place else none := by
  rw [Path.place_eq down]
  exact isTree.follow?_eq down (isTree.folder_start path)

/-- What a straight path leads to is what is at its place. -/
theorem IsTree.find?_eq (isTree : tree.IsTree) (down : ".." ∉ path.parts) :
    tree.find? path = tree.nodeAt? path.place := by
  rw [find?, isTree.resolve?_eq down]
  split
  · rfl
  · next absent =>
      by_contra there
      exact absent (isTree.inFolder _ (Ne.symm there))

/-- A straight path is blocked exactly if there is a file on its way. -/
theorem IsTree.isBlocked_iff (isTree : tree.IsTree) (straight : path.IsStraight) :
    tree.isBlocked path = true ↔ ∃ other, other <+: path.place ∧ tree.HasFile other := by
  have found (count : Nat) : tree.find? ⟨path.anchor, path.parts.take count⟩ =
      tree.nodeAt? (path.start ++ path.parts.take count) := by
    rw [isTree.find?_eq (straight.take count).down, Path.place_eq (straight.take count).down]
    rfl
  rw [Path.place_eq straight.down, isBlocked, List.any_eq_true]
  refine ⟨fun ⟨count, _, isFile⟩ => ?_, fun ⟨other, onWay, text, isFile⟩ => ?_⟩
  · rw [found] at isFile
    split at isFile
    next text isText =>
      exact ⟨_, (List.prefix_append_right_inj _).mpr (List.take_prefix _ _), text, isText⟩
    · cases isFile
  · rcases List.prefix_or_prefix_of_prefix onWay (List.prefix_append path.start path.parts) with above | ⟨parts, rfl⟩
    · rw [isTree.folder_above (isTree.folder_start path) above] at isFile
      cases isFile
    · have isTake := List.prefix_iff_eq_take.mp ((List.prefix_append_right_inj _).mp onWay)
      refine ⟨parts.length, List.mem_range.mpr ?_, ?_⟩
      · exact Nat.lt_succ_of_le ((List.prefix_append_right_inj _).mp onWay).length_le
      · rw [found, ← isTake, isFile]

theorem isBlockedByLength_of_short {start : Location} {parts : List String}
    (short : ∀ part ∈ parts, Text.byteSize part ≤ Path.mostPartBytes) :
    tree.isBlockedByLength start parts = false := by
  induction parts generalizing start with
  | nil => rfl
  | cons part rest ih =>
      rw [List.forall_mem_cons] at short
      rw [isBlockedByLength, ih short.2, Bool.or_false]
      split
      · exact decide_eq_false (Nat.not_lt.mpr short.1)
      · rfl

/-- Whether a straight path is too long is told by its text. -/
theorem isTooLong_eq (straight : path.IsStraight) :
    tree.isTooLong path = decide (Path.mostBytes < Text.byteSize path.text) := by
  rw [isTooLong, isBlockedByLength_of_short straight.short, Bool.or_false]

/-- A tree has folders at the places on the way to a place, and is another tree elsewhere. -/
def HasWay (tree later : Files) (place : Location) : Prop :=
  ∀ other, later.nodeAt? other = if other <+: place then some .folder else tree.nodeAt? other

theorem IsTree.hasWay (isTree : tree.IsTree) (hasWay : tree.HasWay later place) : later.IsTree where
  home := by
    rw [hasWay]
    split
    · rfl
    · exact isTree.home
  inFolder other there := by
    rw [hasWay]
    split
    · rfl
    · next above =>
        have notOnWay : ¬other <+: place := fun onWay => above ((List.dropLast_prefix other).trans onWay)
        rw [hasWay, if_neg notOnWay] at there
        exact isTree.inFolder other there

theorem nodeAt?_withFolder (tree : Files) (place other : Location) :
    nodeAt? { tree with folders := tree.folders ++ [place] } other =
      if other = place then some .folder else tree.nodeAt? other := by
  by_cases here : other = place
  · rw [if_pos here, nodeAt?_eq_folder, here]
    exact Or.inr (List.mem_append_right _ List.mem_cons_self)
  · have same : (other = [] ∨ other ∈ tree.folders ++ [place]) ↔ (other = [] ∨ other ∈ tree.folders) := by simp [here]
    rw [if_neg here, nodeAt?, nodeAt?]
    simp only [same]

/-- Nothing is made on a way that is blocked or too long. -/
theorem makeFolders_of_refused (refused : tree.isBlocked path = true ∨ tree.isTooLong path = true) (depth : Nat) :
    tree.makeFolders path depth = (tree, false) := by
  cases depth with
  | zero => rfl
  | succ depth => rw [makeFolders, makeFolder, if_pos ((Bool.or_eq_true _ _).mpr refused)]

/-- A folder is made if the one above it is there. -/
theorem IsTree.makeFolder_eq (isTree : tree.IsTree) (straight : path.IsStraight)
    (clear : ∀ other, other <+: path.place → ¬tree.HasFile other) (short : Text.byteSize path.text ≤ Path.mostBytes) :
    tree.makeFolder path =
      if tree.nodeAt? path.place = some .folder then .done tree
      else if tree.nodeAt? path.place.dropLast = some .folder then
        .done { tree with folders := tree.folders ++ [path.place] }
      else .missing := by
  have notBlocked : tree.isBlocked path = false := by
    rw [← Bool.not_eq_true, isTree.isBlocked_iff straight]
    rintro ⟨other, onWay, isFile⟩
    exact clear other onWay isFile
  have notLong : tree.isTooLong path = false := by
    rw [isTooLong_eq straight]
    exact decide_eq_false (Nat.not_lt.mpr short)
  rw [makeFolder, notBlocked, notLong, isTree.find?_eq straight.down, isTree.resolve?_eq straight.down]
  cases there : tree.nodeAt? path.place with
  | none =>
      by_cases above : tree.nodeAt? path.place.dropLast = some .folder
      · simp [above]
      · simp [above]
  | some node =>
      cases node with
      | folder => rfl
      | file text => exact (clear _ (List.prefix_refl _) ⟨text, there⟩).elim

/-- There is a way to a folder that is there. -/
theorem IsTree.hasWay_self (isTree : tree.IsTree) (folder : tree.nodeAt? place = some .folder) :
    tree.HasWay tree place := by
  intro other
  split
  · next onWay => exact isTree.folder_above folder onWay
  · rfl

/-- The folder at the end of a way is made where the way to the one above it is. -/
theorem IsTree.exists_makeFolder (isTree : tree.IsTree) (straight : path.IsStraight)
    (clear : ∀ other, other <+: path.place → ¬tree.HasFile other) (short : Text.byteSize path.text ≤ Path.mostBytes)
    (hasParts : path.parts ≠ []) (absent : tree.nodeAt? path.place ≠ some .folder) {middle : Files}
    (hasWay : tree.HasWay middle path.place.dropLast) :
    ∃ later, middle.makeFolder path = .done later ∧ tree.HasWay later path.place := by
  have notOnWay : ¬path.place <+: path.place.dropLast := by
    intro onWay
    have longer := onWay.length_le
    rw [List.length_dropLast, Path.place_eq straight.down, List.length_append] at longer
    have some_ := List.length_pos_of_ne_nil hasParts
    omega
  have clearThen : ∀ other, other <+: path.place → ¬middle.HasFile other := by
    rintro other onWay ⟨text, isFile⟩
    rw [hasWay] at isFile
    split at isFile
    · cases isFile
    · exact clear other onWay ⟨text, isFile⟩
  have made := (isTree.hasWay hasWay).makeFolder_eq straight clearThen short
  rw [hasWay path.place, if_neg notOnWay, if_neg absent, hasWay, if_pos (List.prefix_refl _), if_pos rfl] at made
  refine ⟨_, made, fun other => ?_⟩
  rw [nodeAt?_withFolder, hasWay]
  by_cases here : other = path.place
  · rw [if_pos here, if_pos (here ▸ List.prefix_refl _)]
  · rw [if_neg here]
    by_cases onWay : other <+: path.place
    · rw [if_pos (prefix_dropLast onWay here), if_pos onWay]
    · rw [if_neg fun onWayAbove => onWay (prefix_of_dropLast onWayAbove), if_neg onWay]

/-- All folders on a way that is neither blocked nor too long are made. -/
theorem IsTree.exists_makeFolders (isTree : tree.IsTree) (straight : path.IsStraight)
    (clear : ∀ other, other <+: path.place → ¬tree.HasFile other) (short : Text.byteSize path.text ≤ Path.mostBytes)
    {depth : Nat} (deep : path.parts.length < depth) :
    ∃ later, tree.makeFolders path depth = (later, true) ∧ tree.HasWay later path.place := by
  -- the depth is the fuel of the recursion, which goes up the way and is longer than the way
  induction depth generalizing path with
  | zero => cases deep
  | succ depth ih =>
      have made := isTree.makeFolder_eq straight clear short
      by_cases there : tree.nodeAt? path.place = some .folder
      · rw [if_pos there] at made
        exact ⟨tree, by rw [makeFolders, made], isTree.hasWay_self there⟩
      · have hasParts : path.parts ≠ [] := by
          intro none_
          rw [Path.place_eq straight.down, none_, List.append_nil] at there
          exact there (isTree.folder_start path)
        by_cases above : tree.nodeAt? path.place.dropLast = some .folder
        · rcases isTree.exists_makeFolder straight clear short hasParts there (isTree.hasWay_self above) with
            ⟨later, madeLast, hasWay⟩
          exact ⟨later, by rw [makeFolders, madeLast], hasWay⟩
        · -- the folders above are made first, and then there is a way to the folder above this one
          have isAbove : path.parent.place = path.place.dropLast := Path.place_parent straight.down hasParts
          have lessDeep : path.parent.parts.length < depth := by
            rw [Path.parent, List.length_dropLast]
            have some_ := List.length_pos_of_ne_nil hasParts
            omega
          have clearAbove : ∀ other, other <+: path.parent.place → ¬tree.HasFile other := by
            intro other onWay
            rw [isAbove] at onWay
            exact clear other (prefix_of_dropLast onWay)
          rcases ih straight.parent clearAbove (straight.byteSize_parent_le short) lessDeep with
            ⟨middle, madeAbove, hasWay⟩
          rw [isAbove] at hasWay
          rcases isTree.exists_makeFolder straight clear short hasParts there hasWay with ⟨later, madeLast, hasWay⟩
          rw [if_neg there, if_neg above] at made
          refine ⟨later, ?_, hasWay⟩
          rw [makeFolders, made]
          dsimp only
          rw [if_neg hasParts, madeAbove]
          dsimp only
          rw [madeLast]

/-- A file is written to a straight path exactly if the folder is there and no folder is at the place. -/
theorem IsTree.write?_eq (isTree : tree.IsTree) (straight : path.IsStraight) (text : String) :
    tree.write? path text =
      if Text.byteSize path.text ≤ Path.mostBytes ∧ tree.nodeAt? path.place ≠ some .folder ∧
          tree.nodeAt? path.place.dropLast = some .folder then
        some { tree with files := put tree.files path.place text }
      else none := by
  unfold write?
  rw [isTree.resolve?_eq straight.down, isTooLong_eq straight]
  by_cases above : tree.nodeAt? path.place.dropLast = some .folder
  · by_cases short : Text.byteSize path.text ≤ Path.mostBytes
    · simp [above, short, Nat.not_lt.mpr short]
    · simp [above, short, Nat.lt_of_not_le short]
  · simp [above]

theorem nodeAt?_put {text : String} (noFolder : tree.nodeAt? place ≠ some .folder) (other : Location) :
    nodeAt? { tree with files := put tree.files place text } other =
      if other = place then some (.file text) else tree.nodeAt? other := by
  rw [Ne, nodeAt?_eq_folder] at noFolder
  unfold nodeAt?
  rw [find?_put]
  by_cases here : other = place
  · subst here
    rw [if_neg noFolder, if_pos rfl, if_pos rfl]
    rfl
  · rw [if_neg here, if_neg here]

/-- A tree with another file in a folder is one. -/
theorem IsTree.put (isTree : tree.IsTree) {text : String} (noFolder : tree.nodeAt? place ≠ some .folder)
    (above : tree.nodeAt? place.dropLast = some .folder) :
    IsTree { tree with files := put tree.files place text } := by
  -- a folder stays, because it is not at the place of the file
  have stays (other : Location) (folder : tree.nodeAt? other = some .folder) :
      nodeAt? { tree with files := Files.put tree.files place text } other = some .folder := by
    rw [nodeAt?_put noFolder, if_neg, folder]
    rintro rfl
    exact noFolder folder
  refine ⟨stays _ isTree.home, fun other there => ?_⟩
  rw [nodeAt?_put noFolder] at there
  by_cases here : other = place
  · exact stays _ (here ▸ above)
  · rw [if_neg here] at there
    exact stays _ (isTree.inFolder other there)

end Files

end SpecGraph
