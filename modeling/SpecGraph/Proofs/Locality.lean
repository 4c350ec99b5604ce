import SpecGraph.Proofs.Manifest.Plan
import SpecGraph.Proofs.Tree

/-!
# Actions that are local to folders

An action on file trees is local to some folders if trees that look alike from these folders make no difference for
it: it ends with the same outcome, makes the same of what is in the folders, and makes folders at the same places
above them, where no files are. Such actions are put together of local ones, and making the folder of a file and
writing the file are local to the folder. Two actions that are local to folders apart from each other can be done in
either order.
-/

namespace SpecGraph

namespace Files

/-- A place is one of some folders, or in one of them. -/
def IsWithin (folders : List Location) (place : Location) : Prop := ∃ folder ∈ folders, folder <+: place

/-- A place is on the way to one of some folders. -/
def IsAbove (folders : List Location) (place : Location) : Prop := ∃ folder ∈ folders, place <+: folder

/-- Two trees are the same within some folders, and have files at the same places above them. -/
structure Alike (folders : List Location) (left right : Files) : Prop where
  /-- The same is within the folders. -/
  within : ∀ place, IsWithin folders place → left.nodeAt? place = right.nodeAt? place
  /-- The same places above the folders have files. -/
  above : ∀ place, IsAbove folders place → (left.HasFile place ↔ right.HasFile place)

/-- Two trees come to the same outcome and change alike: they become the same within some folders, and elsewhere
both are left, or both get a folder above these folders where no file is. -/
structure EndAlike {α : Type} (folders : List Location) (left right : Files) (first second : Except Error α × Files) :
    Prop where
  /-- The outcomes are the same. -/
  outcome : first.1 = second.1
  /-- The one is a tree. -/
  leftTree : first.2.IsTree
  /-- The other is a tree. -/
  rightTree : second.2.IsTree
  /-- The same is within the folders. -/
  within : ∀ place, IsWithin folders place → first.2.nodeAt? place = second.2.nodeAt? place
  /-- Elsewhere nothing changes, or a folder is made. -/
  elsewhere : ∀ place, ¬IsWithin folders place →
    (first.2.nodeAt? place = left.nodeAt? place ∧ second.2.nodeAt? place = right.nodeAt? place) ∨
    (IsAbove folders place ∧ first.2.nodeAt? place = some .folder ∧ second.2.nodeAt? place = some .folder ∧
      ¬left.HasFile place ∧ ¬right.HasFile place)

/-- An action makes the same of trees that look alike from some folders. -/
def IsLocal {α : Type} (folders : List Location) (action : Files → Except Error α × Files) : Prop :=
  ∀ left right, left.IsTree → right.IsTree → Alike folders left right →
    EndAlike folders left right (action left) (action right)

variable {α β γ : Type} {folders : List Location} {left right : Files}

theorem Alike.refl (folders : List Location) (tree : Files) : Alike folders tree tree :=
  ⟨fun _ _ => rfl, fun _ _ => Iff.rfl⟩

theorem hasFile_congr {place : Location} (same : left.nodeAt? place = right.nodeAt? place) :
    left.HasFile place ↔ right.HasFile place := by
  unfold HasFile
  rw [same]

theorem not_hasFile_of_folder {place : Location} (folder : left.nodeAt? place = some .folder) :
    ¬left.HasFile place := by
  rintro ⟨text, isFile⟩
  cases folder.symm.trans isFile

/-- Trees that look alike and change alike look alike then. -/
theorem EndAlike.alike {first second : Except Error α × Files} (alike : Alike folders left right)
    (ended : EndAlike folders left right first second) : Alike folders first.2 second.2 where
  within := ended.within
  above place isAbove := by
    by_cases isWithin : IsWithin folders place
    · exact hasFile_congr (ended.within place isWithin)
    · rcases ended.elsewhere place isWithin with ⟨leftSame, rightSame⟩ | ⟨_, leftFolder, rightFolder, _⟩
      · rw [hasFile_congr leftSame, hasFile_congr rightSame]
        exact alike.above place isAbove
      · exact iff_of_false (not_hasFile_of_folder leftFolder) (not_hasFile_of_folder rightFolder)

/-- Changes one after the other are alike if each is. -/
theorem EndAlike.trans {first second : Except Error α × Files} {third fourth : Except Error β × Files}
    (before : EndAlike folders left right first second) (after : EndAlike folders first.2 second.2 third fourth) :
    EndAlike folders left right third fourth where
  outcome := after.outcome
  leftTree := after.leftTree
  rightTree := after.rightTree
  within := after.within
  elsewhere place notWithin := by
    rcases after.elsewhere place notWithin with ⟨leftSame, rightSame⟩ | ⟨isAbove, leftFolder, rightFolder, noFiles⟩
    · rw [leftSame, rightSame]
      exact before.elsewhere place notWithin
    · refine Or.inr ⟨isAbove, leftFolder, rightFolder, ?_⟩
      rcases before.elsewhere place notWithin with ⟨leftBefore, rightBefore⟩ | ⟨_, _, _, noFilesBefore⟩
      · rwa [hasFile_congr leftBefore, hasFile_congr rightBefore] at noFiles
      · exact noFilesBefore

namespace IsLocal

/-- To read what looks alike is local. -/
theorem reading {result : Files → Except Error α} (same : ∀ left right, left.IsTree → right.IsTree →
    Alike folders left right → result left = result right) : IsLocal folders fun files => (result files, files) :=
  fun left right leftTree rightTree alike => {
    outcome := same left right leftTree rightTree alike
    leftTree, rightTree
    within := alike.within
    elsewhere := fun _ _ => Or.inl ⟨rfl, rfl⟩ }

/-- To do nothing is local. -/
theorem constant (result : Except Error α) : IsLocal folders fun files => (result, files) :=
  reading fun _ _ _ _ _ => rfl

/-- An action that goes on with what another one gives is local if both are. -/
theorem bind {first : Files → Except Error α × Files} {next : α → Files → Except Error β × Files}
    (ofFirst : IsLocal folders first) (ofNext : ∀ value, IsLocal folders (next value)) :
    IsLocal folders fun files =>
      match first files with
      | (.ok value, after) => next value after
      | (.error error, after) => (.error error, after) := by
  intro left right leftTree rightTree alike
  have ended := ofFirst left right leftTree rightTree alike
  have alikeThen := ended.alike alike
  dsimp only
  rcases ranLeft : first left with ⟨leftOutcome, leftAfter⟩
  rcases ranRight : first right with ⟨rightOutcome, rightAfter⟩
  rw [ranLeft, ranRight] at ended alikeThen
  obtain rfl : leftOutcome = rightOutcome := ended.outcome
  cases leftOutcome with
  | ok value => exact ended.trans (ofNext value leftAfter rightAfter ended.leftTree ended.rightTree alikeThen)
  | error error => exact { ended with outcome := rfl }

/-- To carry out a plan is local if the plan is the same for trees that look alike. -/
theorem carryOut {plan : Files → Except Error γ} {finish : γ → Files → Except Error β × Files}
    (same : ∀ left right, left.IsTree → right.IsTree → Alike folders left right → plan left = plan right)
    (ofFinish : ∀ goal, IsLocal folders (finish goal)) :
    IsLocal folders fun files => Job.carryOut (plan files) finish files := by
  intro left right leftTree rightTree alike
  dsimp only
  rw [same left right leftTree rightTree alike]
  cases plan right with
  | ok goal => exact ofFinish goal left right leftTree rightTree alike
  | error error => exact constant (.error error) left right leftTree rightTree alike

end IsLocal

section Apart

variable {others : List Location} {tree : Files}

/-- Folders are apart if none of the ones is one of the others, or above or inside one of them. -/
def AreApart (folders others : List Location) : Prop :=
  ∀ folder ∈ folders, ∀ other ∈ others, ¬folder <+: other ∧ ¬other <+: folder

theorem AreApart.symm (apart : AreApart folders others) : AreApart others folders :=
  fun other otherMem folder folderMem => (apart folder folderMem other otherMem).symm

/-- What is within folders that are apart from others is neither within these nor above them. -/
theorem AreApart.outside (apart : AreApart folders others) {place : Location} (isWithin : IsWithin folders place) :
    ¬IsWithin others place ∧ ¬IsAbove others place := by
  rcases isWithin with ⟨folder, folderMem, below⟩
  refine ⟨?_, ?_⟩
  · rintro ⟨other, otherMem, belowOther⟩
    rcases List.prefix_or_prefix_of_prefix below belowOther with inside | around
    · exact (apart folder folderMem other otherMem).1 inside
    · exact (apart folder folderMem other otherMem).2 around
  · rintro ⟨other, otherMem, above⟩
    exact (apart folder folderMem other otherMem).1 (below.trans above)

/-- What an action that is local to other folders does makes no difference from folders that are apart. -/
theorem IsLocal.alike_of_apart {action : Files → Except Error α × Files} (isLocal : IsLocal others action)
    (apart : AreApart folders others) (isTree : tree.IsTree) : Alike folders (action tree).2 tree := by
  have ended := isLocal tree tree isTree isTree (Alike.refl others tree)
  refine ⟨fun place isWithin => ?_, fun place isAbove => ?_⟩
  · have outside := apart.outside isWithin
    rcases ended.elsewhere place outside.1 with ⟨same, _⟩ | ⟨isAbove, _⟩
    · exact same
    · exact (outside.2 isAbove).elim
  · have notWithin : ¬IsWithin others place := fun isWithin => (apart.symm.outside isWithin).2 isAbove
    rcases ended.elsewhere place notWithin with ⟨same, _⟩ | ⟨_, folder, _, noFile, _⟩
    · exact hasFile_congr same
    · exact iff_of_false (not_hasFile_of_folder folder) noFile

/-- Two actions that are local to folders apart from each other have the same outcomes in either order, and leave the
same tree. -/
theorem IsLocal.commute {first : Files → Except Error α × Files} {second : Files → Except Error β × Files}
    (ofFirst : IsLocal folders first) (ofSecond : IsLocal others second) (apart : AreApart folders others)
    (isTree : tree.IsTree) :
    (second (first tree).2).1 = (second tree).1 ∧ (first (second tree).2).1 = (first tree).1 ∧
      ∀ place, (second (first tree).2).2.nodeAt? place = (first (second tree).2).2.nodeAt? place := by
  have firstTree := (ofFirst tree tree isTree isTree (Alike.refl _ tree)).leftTree
  have secondTree := (ofSecond tree tree isTree isTree (Alike.refl _ tree)).leftTree
  have secondEnds := ofSecond _ tree firstTree isTree (ofFirst.alike_of_apart apart.symm isTree)
  have firstEnds := ofFirst _ tree secondTree isTree (ofSecond.alike_of_apart apart isTree)
  refine ⟨secondEnds.outcome, firstEnds.outcome, fun place => ?_⟩
  by_cases inFirst : IsWithin folders place
  · -- the second action leaves what is within the folders of the first
    have outside := apart.outside inFirst
    rcases secondEnds.elsewhere place outside.1 with ⟨same, _⟩ | ⟨isAbove, _⟩
    · exact same.trans (firstEnds.within place inFirst).symm
    · exact (outside.2 isAbove).elim
  · by_cases inSecond : IsWithin others place
    · have outside := apart.symm.outside inSecond
      rcases firstEnds.elsewhere place outside.1 with ⟨same, _⟩ | ⟨isAbove, _⟩
      · exact (secondEnds.within place inSecond).trans same.symm
      · exact (outside.2 isAbove).elim
    · -- elsewhere each of them leaves the place or makes a folder of it
      rcases firstEnds.elsewhere place inFirst with ⟨firstThen, firstOnly⟩ | ⟨_, firstThen, firstOnly, _⟩
      · rcases secondEnds.elsewhere place inSecond with ⟨secondThen, secondOnly⟩ | ⟨_, secondThen, secondOnly, _⟩
        · rw [firstThen, secondThen, firstOnly, secondOnly]
        · rw [firstThen, secondThen, secondOnly]
      · rcases secondEnds.elsewhere place inSecond with ⟨secondThen, _⟩ | ⟨_, secondThen, _⟩
        · rw [firstThen, secondThen, firstOnly]
        · rw [firstThen, secondThen]

end Apart

end Files

end SpecGraph
