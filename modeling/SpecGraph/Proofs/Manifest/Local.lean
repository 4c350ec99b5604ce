import SpecGraph.Proofs.Locality

/-!
# Stages are local to their folders

A stage that writes manifests reads the manifests in the folders it is given and writes one of them, after making its
folder. So it is local to these folders.
-/

namespace SpecGraph

open Files

namespace Job

variable {α β : Type} {folders : List Location}

/-- A job does what it does whatever the log, and this is local to some folders. -/
structure StaysIn (folders : List Location) (job : Job α) : Prop where
  /-- The log makes no difference. -/
  acts : job.ActsAs job.action
  /-- What it does is local to the folders. -/
  isLocal : IsLocal folders job.action

/-- A job that acts in a local way stays in the folders. -/
theorem StaysIn.of_actsAs {job : Job α} {action : Files → Except Error α × Files} (acts : job.ActsAs action)
    (isLocal : IsLocal folders action) : job.StaysIn folders := by
  have same : job.action = action := funext fun files => acts ⟨files, []⟩
  exact ⟨acts.eq_action, same ▸ isLocal⟩

theorem StaysIn.bind {first : Job α} {next : α → Job β} (ofFirst : first.StaysIn folders)
    (ofNext : ∀ value, (next value).StaysIn folders) : (first >>= next).StaysIn folders :=
  .of_actsAs (actsAs_bind ofFirst.acts fun value => (ofNext value).acts)
    (.bind ofFirst.isLocal fun value => (ofNext value).isLocal)

/-- A job that tells the same of every tree stays anywhere. -/
theorem staysIn_of_tells {job : Job α} (result : Except Error α) (told : job.Tells fun _ => result) :
    job.StaysIn folders :=
  .of_actsAs told (.constant result)

theorem staysIn_replaceFiles {change : Files → Option Files} (path : Path)
    (isLocal : IsLocal folders fun files =>
      match change files with
      | some later => ((.ok () : Except Error Unit), later)
      | none => (.error .file, files)) : (replaceFiles path change).StaysIn folders :=
  .of_actsAs (Manifest.actsAs_replaceFiles path change) (.carryOut (fun _ _ _ _ _ => rfl) fun _ => isLocal)

end Job

/-- The names of the manifests. -/
def Manifest.fileNames : List String := [schemaFile, storageFile, dispatchFile]

/-- A manifest in a straight folder has a straight path. -/
theorem Path.IsStraight.child {path : Path} (straight : path.IsStraight) {name : String}
    (isName : name ∈ Manifest.fileNames) : (path.child name).IsStraight := by
  have coded : ∀ name ∈ Manifest.fileNames, Text.IsCoded name := by
    unfold Text.IsCoded
    decide +kernel
  have short : ∀ name ∈ Manifest.fileNames, Text.byteSize name ≤ mostPartBytes := by decide +kernel
  have down : ".." ∉ Manifest.fileNames := by decide
  exact {
    anchor := straight.anchor
    coded := List.forall_mem_append.mpr ⟨straight.coded, List.forall_mem_singleton.mpr (coded name isName)⟩
    short := List.forall_mem_append.mpr ⟨straight.short, List.forall_mem_singleton.mpr (short name isName)⟩
    down := fun above => (List.mem_append.mp above).elim straight.down fun isLast =>
      down (List.mem_singleton.mp isLast ▸ isName) }

namespace Files

variable {folders : List Location} {root : Path} {name : String}

/-- A manifest is in one of some folders, which has a straight path. -/
structure Holds (folders : List Location) (root : Path) (name : String) : Prop where
  /-- The path of the folder is straight. -/
  straight : root.IsStraight
  /-- The folder is one of them. -/
  rootMem : root.place ∈ folders
  /-- The name is that of a manifest. -/
  isName : name ∈ Manifest.fileNames

variable (holds : Holds folders root name)

include holds

theorem Holds.file : (root.child name).IsStraight := holds.straight.child holds.isName

theorem Holds.place_file : (root.child name).place = root.place ++ [name] := by
  refine Path.place_child fun above => holds.file.down ?_
  rw [Path.child, ← above]
  exact List.mem_append_right _ List.mem_cons_self

theorem Holds.isWithin_root : IsWithin folders root.place := ⟨root.place, holds.rootMem, List.prefix_refl _⟩

theorem Holds.isWithin_file : IsWithin folders (root.child name).place :=
  ⟨root.place, holds.rootMem, holds.place_file ▸ List.prefix_append _ _⟩

/-- Trees that look alike from a folder have the same manifest in it. -/
theorem Holds.loaded_eq {left right : Files} (leftTree : left.IsTree) (rightTree : right.IsTree)
    (alike : Alike folders left right) :
    Manifest.loaded left (root.child name) = Manifest.loaded right (root.child name) := by
  have same : left.find? (root.child name) = right.find? (root.child name) := by
    rw [leftTree.find?_eq holds.file.down, rightTree.find?_eq holds.file.down, alike.within _ holds.isWithin_file]
  unfold Manifest.loaded exists? read?
  rw [isTooLong_eq holds.file, isTooLong_eq holds.file, same]

/-- To make a folder with all folders above it is local to it. -/
theorem Holds.isLocal_makeParents : IsLocal folders fun files =>
    (if (files.makeParents (root.child name)).2 then (.ok () : Except Error Unit) else .error .file,
      (files.makeParents (root.child name)).1) := by
  intro left right leftTree rightTree alike
  have isParent : (root.child name).parent = root := by rw [Path.child, Path.parent, List.dropLast_concat]
  have deep : root.parts.length < (root.child name).parts.length + 1 := by
    rw [Path.child, List.length_append]
    exact Nat.lt_succ_of_le (Nat.le_add_right _ _)
  have rootAbove {other : Location} (onWay : other <+: root.place) : IsAbove folders other :=
    ⟨root.place, holds.rootMem, onWay⟩
  have blocked : left.isBlocked root = right.isBlocked root := by
    rw [Bool.eq_iff_iff, leftTree.isBlocked_iff holds.straight, rightTree.isBlocked_iff holds.straight]
    exact exists_congr fun other => and_congr_right fun onWay => alike.above other (rootAbove onWay)
  unfold makeParents
  rw [isParent]
  dsimp only
  -- whether the folders can be made is told by the files above the root and by its text, the same for both trees
  by_cases refused : left.isBlocked root = true ∨ left.isTooLong root = true
  · have refusedToo : right.isBlocked root = true ∨ right.isTooLong root = true := by
      rwa [blocked, isTooLong_eq holds.straight, ← isTooLong_eq holds.straight] at refused
    rw [makeFolders_of_refused refused, makeFolders_of_refused refusedToo]
    exact IsLocal.constant (.error .file) left right leftTree rightTree alike
  · have clear : ∀ other, other <+: root.place → ¬left.HasFile other := fun other onWay isFile =>
      refused (Or.inl ((leftTree.isBlocked_iff holds.straight).mpr ⟨other, onWay, isFile⟩))
    have clearToo : ∀ other, other <+: root.place → ¬right.HasFile other := fun other onWay isFile =>
      clear other onWay ((alike.above other (rootAbove onWay)).mpr isFile)
    have short : Text.byteSize root.text ≤ Path.mostBytes := by
      by_contra long
      refine refused (Or.inr ?_)
      rw [isTooLong_eq holds.straight]
      exact decide_eq_true (Nat.lt_of_not_le long)
    rcases leftTree.exists_makeFolders holds.straight clear short deep with ⟨leftThen, leftMade, leftWay⟩
    rcases rightTree.exists_makeFolders holds.straight clearToo short deep with ⟨rightThen, rightMade, rightWay⟩
    rw [leftMade, rightMade]
    refine ⟨rfl, leftTree.hasWay leftWay, rightTree.hasWay rightWay, fun place isWithin => ?_, fun place _ => ?_⟩
    · rw [leftWay, rightWay, alike.within place isWithin]
    · -- a place on the way gets a folder in both trees, also where only one of them had it
      dsimp only
      rw [leftWay, rightWay]
      by_cases onWay : place <+: root.place
      · rw [if_pos onWay, if_pos onWay]
        exact Or.inr ⟨rootAbove onWay, rfl, rfl, clear place onWay, clearToo place onWay⟩
      · rw [if_neg onWay, if_neg onWay]
        exact Or.inl ⟨rfl, rfl⟩

/-- To write a file is local to its folder. -/
theorem Holds.isLocal_write? (text : String) : IsLocal folders fun files =>
    match files.write? (root.child name) text with
    | some later => ((.ok () : Except Error Unit), later)
    | none => (.error .file, files) := by
  intro left right leftTree rightTree alike
  have above : (root.child name).place.dropLast = root.place := by rw [holds.place_file, List.dropLast_concat]
  dsimp only
  rw [leftTree.write?_eq holds.file, rightTree.write?_eq holds.file, above,
    alike.within _ holds.isWithin_file, alike.within _ holds.isWithin_root]
  by_cases can : Text.byteSize (root.child name).text ≤ Path.mostBytes ∧
      right.nodeAt? (root.child name).place ≠ some .folder ∧ right.nodeAt? root.place = some .folder
  · rw [if_pos can, if_pos can]
    obtain ⟨-, noFolder, folder⟩ := can
    have noFolderToo : left.nodeAt? (root.child name).place ≠ some .folder := by
      rwa [alike.within _ holds.isWithin_file]
    have folderToo : left.nodeAt? root.place = some .folder := by
      rwa [alike.within _ holds.isWithin_root]
    refine ⟨rfl, leftTree.put noFolderToo (above ▸ folderToo), rightTree.put noFolder (above ▸ folder),
      fun place isWithin => ?_, fun place notWithin => Or.inl ?_⟩
    · dsimp only
      rw [nodeAt?_put noFolderToo, nodeAt?_put noFolder, alike.within place isWithin]
    · have notHere : place ≠ (root.child name).place := by
        rintro rfl
        exact notWithin holds.isWithin_file
      dsimp only
      rw [nodeAt?_put noFolderToo, nodeAt?_put noFolder, if_neg notHere, if_neg notHere]
      exact ⟨rfl, rfl⟩
  · rw [if_neg can, if_neg can]
    exact IsLocal.constant (.error .file) left right leftTree rightTree alike

/-- To store a manifest is local to its folder. -/
theorem Holds.isLocal_store (manifest : Data) : IsLocal folders (Manifest.store (root.child name) manifest).action := by
  have parents : (Job.makeParents (root.child name)).StaysIn folders :=
    .of_actsAs (Manifest.actsAs_makeParents _) (.carryOut (fun _ _ _ _ _ => rfl) fun _ => holds.isLocal_makeParents)
  refine Job.StaysIn.isLocal ?_
  unfold Manifest.store
  refine parents.bind fun _ => ?_
  refine (Job.staysIn_replaceFiles _ (holds.isLocal_write? "")).bind fun _ => ?_
  refine (Job.staysIn_of_tells _ (Job.tells_ofFault _)).bind fun text => ?_
  exact Job.staysIn_replaceFiles _ (holds.isLocal_write? (text ++ "\n"))

end Files

namespace StageRequest

/-- The folders of a request. -/
def rootPaths : StageRequest → List Path
  | schema _ root => [root]
  | storage _ schemaRoot root => [schemaRoot, root]
  | dispatch _ schemaRoot root => [schemaRoot, root]

variable {folders : List Location}

/-- A stage that writes manifests is local to its folders. -/
theorem isLocal_action {request : StageRequest} (straight : ∀ root ∈ request.rootPaths, root.IsStraight)
    (rootsMem : ∀ root ∈ request.rootPaths, root.place ∈ folders) (allowBreaking : Bool) :
    IsLocal folders (request.writeManifest allowBreaking).action := by
  have acts : (request.writeManifest allowBreaking).action = fun files =>
      Job.carryOut (request.plan allowBreaking files) request.storing files :=
    funext (request.action_writeManifest allowBreaking)
  have holds (root : Path) (rootMem : root ∈ request.rootPaths) (name : String) (isName : name ∈ Manifest.fileNames) :
      Holds folders root name := ⟨straight root rootMem, rootsMem root rootMem, isName⟩
  rw [acts]
  cases request with
  | schema groups root =>
      have own := holds root List.mem_cons_self Manifest.schemaFile (by decide)
      refine .carryOut (fun left right leftTree rightTree alike => ?_) fun goal => own.isLocal_store _
      simp only [plan, own.loaded_eq leftTree rightTree alike]
  | storage groups schemaRoot root =>
      have schemas := holds schemaRoot List.mem_cons_self Manifest.schemaFile (by decide)
      have own := holds root (List.mem_cons_of_mem _ List.mem_cons_self) Manifest.storageFile (by decide)
      refine .carryOut (fun left right leftTree rightTree alike => ?_) fun goal => own.isLocal_store _
      simp only [plan, schemas.loaded_eq leftTree rightTree alike, own.loaded_eq leftTree rightTree alike]
  | dispatch groups schemaRoot root =>
      have schemas := holds schemaRoot List.mem_cons_self Manifest.schemaFile (by decide)
      have own := holds root (List.mem_cons_of_mem _ List.mem_cons_self) Manifest.dispatchFile (by decide)
      refine .carryOut (fun left right leftTree rightTree alike => ?_) fun goal => own.isLocal_store _
      simp only [plan, schemas.loaded_eq leftTree rightTree alike, own.loaded_eq leftTree rightTree alike]

end StageRequest

end SpecGraph
