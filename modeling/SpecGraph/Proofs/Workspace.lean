import SpecGraph.Manifest.Compile
import SpecGraph.Proofs.Effect
import SpecGraph.Proofs.Files
import SpecGraph.Proofs.Json.RoundTrip

/-!
# Jobs on the file tree

What a job does to the file tree, and whether it fails, is told by the tree alone: the log is written and
never read. A job that only reads, such as loading a manifest, tells a result of the tree and leaves the
tree as it is. Storing a manifest does one of three things. It may fail before the file is opened, and then
it has made folders at most; it may fail with the file open, because the manifest has no text, and then the
file is empty; or it succeeds, and then the file holds the text.
-/

namespace SpecGraph

namespace Job

variable {α β : Type}

/-- What a job does to file trees, whatever the log. -/
def ActsAs (job : Job α) (action : Files → Except Error α × Files) : Prop :=
  ∀ workspace, ((Effect.perform job workspace).1, (Effect.perform job workspace).2.files) =
    action workspace.files

/-- A job only reads the file tree, and this is what it makes of it. -/
def Tells (job : Job α) (result : Files → Except Error α) : Prop :=
  job.ActsAs fun files => (result files, files)

/-- A result that may be at fault, as a result that may be an error. -/
def faulty (result : Except Fault α) : Except Error α :=
  match result with
  | .ok value => .ok value
  | .error fault => .error (.fault fault)

/-- What a chain of jobs does is told by what its steps do. -/
theorem actsAs_bind {first : Job α} {next : α → Job β} {action : Files → Except Error α × Files}
    {others : α → Files → Except Error β × Files} (head : first.ActsAs action)
    (rest : ∀ value, (next value).ActsAs (others value)) :
    (first >>= next).ActsAs fun files =>
      match action files with
      | (.ok value, after) => others value after
      | (.error error, after) => (.error error, after) := by
  intro workspace
  have acted := head workspace
  rw [Effect.perform_bind]
  rcases performed : Effect.perform first workspace with ⟨outcome, after⟩
  rw [performed] at acted
  dsimp only at acted ⊢
  rw [← acted]
  cases outcome with
  | ok value => exact rest value after
  | error error => rfl

theorem tells_bind {first : Job α} {next : α → Job β} {result : Files → Except Error α}
    {others : α → Files → Except Error β} (told : first.Tells result)
    (rest : ∀ value, (next value).Tells (others value)) :
    (first >>= next).Tells fun files => result files >>= fun value => others value files := by
  intro workspace
  refine (actsAs_bind told rest workspace).trans ?_
  dsimp only
  cases result workspace.files <;> rfl

/-- What is done with a plan: nothing where there is none. -/
def carryOut {γ : Type} (plan : Except Error γ) (finish : γ → Files → Except Error β × Files)
    (files : Files) : Except Error β × Files :=
  match plan with
  | .ok goal => finish goal files
  | .error error => (.error error, files)

/-- A job that goes on with what it reads carries it out. -/
theorem carriesOut_of_tells {first : Job α} {next : α → Job β} {result : Files → Except Error α}
    {finish : α → Files → Except Error β × Files} (told : first.Tells result)
    (rest : ∀ value, (next value).ActsAs (finish value)) :
    (first >>= next).ActsAs fun files => carryOut (result files) finish files := by
  intro workspace
  refine (actsAs_bind told rest workspace).trans ?_
  dsimp only
  cases result workspace.files <;> rfl

/-- A job that reads before another one that carries out a plan makes a part of the plan. -/
theorem carriesOut_bind {γ : Type} {first : Job α} {next : α → Job β}
    {result : Files → Except Error α} {plans : α → Files → Except Error γ}
    {finish : γ → Files → Except Error β × Files} (told : first.Tells result)
    (rest : ∀ value, (next value).ActsAs fun files => carryOut (plans value files) finish files) :
    (first >>= next).ActsAs fun files =>
      carryOut (result files >>= fun value => plans value files) finish files := by
  intro workspace
  refine (carriesOut_of_tells told rest workspace).trans ?_
  dsimp only
  cases result workspace.files <;> rfl

/-- What a job does to a file tree, starting with an empty log. -/
def action (job : Job α) (files : Files) : Except Error α × Files :=
  ((Effect.perform job ⟨files, []⟩).1, (Effect.perform job ⟨files, []⟩).2.files)

/-- A job that acts in some way, whatever the log, acts as it does with an empty log. -/
theorem ActsAs.eq_action {job : Job α} {action : Files → Except Error α × Files}
    (acts : job.ActsAs action) : job.ActsAs job.action := by
  intro workspace
  rw [acts workspace]
  exact (acts ⟨workspace.files, []⟩).symm

theorem actsAs_ofAction (action : Files → Except Error α × Files) : (ofAction action).ActsAs action := by
  intro workspace
  unfold ofAction
  rw [Effect.perform_bind_of_ok (Effect.perform_get _)]
  rcases action workspace.files with ⟨outcome, files⟩
  cases outcome <;> rfl

theorem tells_pure (value : α) : (pure value : Job α).Tells fun _ => .ok value := fun _ => rfl

theorem tells_throw (error : Error) : (throw error : Job α).Tells fun _ => .error error := fun _ => rfl

theorem tells_ofFault (result : Except Fault α) : (ofFault result).Tells fun _ => faulty result := by
  intro workspace
  cases result <;> rfl

theorem tells_record (level : Level) (logger message : String) :
    (record level logger message).Tells fun _ => .ok () := fun _ => rfl

theorem tells_forM (items : List α) {body : α → Job PUnit} {check : α → Except Error PUnit}
    (each : ∀ item, (body item).Tells fun _ => check item) :
    (items.forM body).Tells fun _ => items.forM check := by
  induction items with
  | nil => exact tells_pure _
  | cons item rest ih => exact tells_bind (each item) fun _ => ih

end Job

namespace Manifest

/-- The manifest that a path leads to, or nothing if there is no file or it holds null. -/
def loaded (files : Files) (path : Path) : Except Error (Option Data) :=
  if path.isPossible && files.isTooLong path then .error .file
  else if files.exists? path then
    match files.read? path with
    | none => .error .file
    | some text =>
        match Json.read text with
        | .error error => .error error
        | .ok .null => .ok none
        | .ok manifest => .ok (some manifest)
  else .ok none

/-- Loading a manifest changes nothing. -/
theorem perform_load (path : Path) (workspace : Workspace) :
    Effect.perform (load path) workspace = (loaded workspace.files path, workspace) := by
  unfold load loaded
  rw [Effect.perform_bind_of_ok (Effect.perform_get _)]
  simp only
  split
  · rfl
  · change Effect.perform (if workspace.files.exists? path then _ else _) workspace = _
    split
    · cases workspace.files.read? path with
      | none => rfl
      | some text =>
          simp only
          cases Json.read text with
          | error error => rfl
          | ok manifest => cases manifest <;> rfl
    · rfl

theorem tells_load (path : Path) : (load path).Tells fun files => loaded files path := by
  intro workspace
  rw [perform_load]

/-- The file tree with an empty file at a path, which is opened after making its folder. -/
def opened? (files : Files) (path : Path) : Option Files :=
  if path.isPossible then files.writeDeep? path "" else none

/-- The ways in which storing a manifest ends, with what is left. -/
inductive Stored (path : Path) (manifest : Data) (files : Files) : Except Error Unit → Files → Prop
  /-- The file cannot be opened; folders were made at most. -/
  | closed {error : Error} {later : Files} (closed : opened? files path = none)
      (deepens : files.Deepens later) : Stored path manifest files (.error error) later
  /-- The manifest has no text; the file is empty. -/
  | emptied {fault : Fault} {opened : Files} (isOpened : opened? files path = some opened)
      (noText : Json.write layout manifest = .error fault) :
      Stored path manifest files (.error (.fault fault)) opened
  /-- The file holds the manifest. -/
  | written {text : String} {opened later : Files} (isOpened : opened? files path = some opened)
      (isText : Json.write layout manifest = .ok text)
      (isWritten : opened.write? path (text ++ "\n") = some later) :
      Stored path manifest files (.ok ()) later

theorem isPossible_parent {path : Path} (possible : path.isPossible = true) :
    path.parent.isPossible = true := by
  simp only [Path.isPossible, Path.isWritable, Path.hasNul, Bool.and_eq_true, Bool.not_eq_true',
    List.all_eq_true, List.any_eq_false] at possible ⊢
  exact ⟨fun part part_mem => possible.1 part (List.dropLast_subset _ part_mem),
    fun part part_mem => possible.2 part (List.dropLast_subset _ part_mem)⟩

theorem perform_ensurePossible (path : Path) (workspace : Workspace) :
    (path.isPossible = true ∧
      Effect.perform (Job.ensurePossible path) workspace = (.ok (), workspace)) ∨
    (path.isPossible = false ∧ ∃ error,
      Effect.perform (Job.ensurePossible path) workspace = (.error error, workspace)) := by
  unfold Job.ensurePossible Path.isPossible
  cases path.isWritable with
  | false => exact Or.inr ⟨rfl, _, rfl⟩
  | true =>
      cases path.hasNul with
      | false => exact Or.inl ⟨rfl, rfl⟩
      | true => exact Or.inr ⟨rfl, _, rfl⟩

/-- A change of the file tree at a path that a file can have is made if it is possible. -/
theorem perform_replaceFiles {path : Path} (possible : path.isPossible = true)
    (change : Files → Option Files) (workspace : Workspace) :
    Effect.perform (Job.replaceFiles path change) workspace =
      match change workspace.files with
      | some files => (.ok (), { workspace with files })
      | none => (.error .file, workspace) := by
  rcases perform_ensurePossible path workspace with ⟨_, ensured⟩ | ⟨impossible, _⟩
  · unfold Job.replaceFiles
    rw [Effect.perform_bind_of_ok ensured, Effect.perform_bind_of_ok (Effect.perform_get _)]
    cases change workspace.files <;> rfl
  · rw [possible] at impossible
    cases impossible

theorem perform_replaceFiles_of_impossible {path : Path} (impossible : path.isPossible = false)
    (change : Files → Option Files) (workspace : Workspace) :
    ∃ error, Effect.perform (Job.replaceFiles path change) workspace = (.error error, workspace) := by
  rcases perform_ensurePossible path workspace with ⟨possible, _⟩ | ⟨_, error, failed⟩
  · rw [impossible] at possible
    cases possible
  · exact ⟨error, Effect.perform_bind_of_error failed⟩

theorem perform_makeParents {path : Path} (possible : path.parent.isPossible = true)
    (workspace : Workspace) :
    Effect.perform (Job.makeParents path) workspace =
      (if (workspace.files.makeParents path).2 then .ok () else .error .file,
        { workspace with files := (workspace.files.makeParents path).1 }) := by
  rcases perform_ensurePossible path.parent workspace with ⟨_, ensured⟩ | ⟨impossible, _⟩
  · unfold Job.makeParents
    rw [Effect.perform_bind_of_ok ensured, Effect.perform_bind_of_ok (Effect.perform_get _)]
    rcases workspace.files.makeParents path with ⟨files, made⟩
    cases made <;> rfl
  · rw [possible] at impossible
    cases impossible

theorem tells_ensurePossible (path : Path) :
    (Job.ensurePossible path).Tells fun _ => ((Job.ensurePossible path).action Files.empty).1 := by
  intro workspace
  unfold Job.ensurePossible Job.action
  cases path.isWritable <;> cases path.hasNul <;> rfl

/-- A change of the file tree is carried out where the path can be that of a file. -/
theorem actsAs_replaceFiles (path : Path) (change : Files → Option Files) :
    (Job.replaceFiles path change).ActsAs fun files =>
      Job.carryOut ((Job.ensurePossible path).action Files.empty).1 (fun _ files =>
        match change files with
        | some later => (.ok (), later)
        | none => (.error .file, files)) files := by
  refine Job.carriesOut_of_tells (tells_ensurePossible path) fun _ workspace => ?_
  rw [Effect.perform_bind_of_ok (Effect.perform_get _)]
  cases change workspace.files <;> rfl

theorem actsAs_makeParents (path : Path) :
    (Job.makeParents path).ActsAs fun files =>
      Job.carryOut ((Job.ensurePossible path.parent).action Files.empty).1 (fun _ files =>
        (if (files.makeParents path).2 then .ok () else .error .file, (files.makeParents path).1)) files := by
  refine Job.carriesOut_of_tells (tells_ensurePossible path.parent) fun _ workspace => ?_
  rw [Effect.perform_bind_of_ok (Effect.perform_get _)]
  dsimp only
  rcases workspace.files.makeParents path with ⟨files, made⟩
  cases made <;> rfl

/-- What storing a manifest does to the file tree. -/
theorem actsAs_store (path : Path) (manifest : Data) :
    (store path manifest).ActsAs (store path manifest).action :=
  (Job.actsAs_bind (actsAs_makeParents path) fun _ =>
    Job.actsAs_bind (actsAs_replaceFiles path _) fun _ =>
      Job.actsAs_bind (Job.tells_ofFault _) fun _ => actsAs_replaceFiles path _).eq_action

/-- Storing a manifest ends in one of three ways. -/
theorem stored (path : Path) (manifest : Data) (workspace : Workspace) :
    Stored path manifest workspace.files (Effect.perform (store path manifest) workspace).1
      (Effect.perform (store path manifest) workspace).2.files := by
  have deepens := Files.deepens_makeParents workspace.files path
  by_cases possible : path.isPossible = true
  · have made := perform_makeParents (isPossible_parent possible) workspace
    have opens : opened? workspace.files path = workspace.files.writeDeep? path "" := if_pos possible
    unfold Files.writeDeep? at opens
    unfold store
    rcases parents : workspace.files.makeParents path with ⟨deeper, isMade⟩
    rw [parents] at made opens deepens
    cases isMade with
    | false =>
        rw [Effect.perform_bind_of_error made]
        exact .closed opens deepens
    | true =>
        rw [Effect.perform_bind_of_ok made]
        cases isOpened : deeper.write? path "" with
        | none =>
            have failed := perform_replaceFiles possible (fun files => files.write? path "")
              { workspace with files := deeper }
            simp only [isOpened] at failed
            rw [Effect.perform_bind_of_error failed]
            exact .closed (opens.trans isOpened) deepens
        | some opened =>
            have done := perform_replaceFiles possible (fun files => files.write? path "")
              { workspace with files := deeper }
            simp only [isOpened] at done
            rw [Effect.perform_bind_of_ok done]
            cases isText : Json.write layout manifest with
            | error fault => exact .emptied (opens.trans isOpened) isText
            | ok text =>
                obtain ⟨later, isWritten⟩ := Files.exists_write?_of_write? isOpened (text ++ "\n")
                have finished := perform_replaceFiles possible
                  (fun files => files.write? path (text ++ "\n")) { workspace with files := opened }
                simp only [isWritten] at finished
                rw [Effect.perform_bind_of_ok (show Effect.perform (Job.ofFault (.ok text)) _ = _
                  from rfl), finished]
                exact .written (opens.trans isOpened) isText isWritten
  · have closed : opened? workspace.files path = none := if_neg possible
    have impossible : path.isPossible = false := Bool.eq_false_iff.mpr possible
    unfold store
    rcases perform_ensurePossible path.parent workspace with ⟨parent, _⟩ | ⟨_, error, failed⟩
    · have made := perform_makeParents parent workspace
      cases isMade : (workspace.files.makeParents path).2 with
      | false =>
          rw [isMade] at made
          rw [Effect.perform_bind_of_error made]
          exact .closed closed deepens
      | true =>
          rw [isMade] at made
          obtain ⟨error, failed⟩ := perform_replaceFiles_of_impossible impossible
            (fun files => files.write? path "")
            { workspace with files := (workspace.files.makeParents path).1 }
          rw [Effect.perform_bind_of_ok made, Effect.perform_bind_of_error failed]
          exact .closed closed deepens
    · have unmade : Effect.perform (Job.makeParents path) workspace = (.error error, workspace) :=
        Effect.perform_bind_of_error failed
      rw [Effect.perform_bind_of_error unmade]
      exact .closed closed (Files.Deepens.refl _)

theorem stored_action (path : Path) (manifest : Data) (files : Files) :
    Stored path manifest files ((store path manifest).action files).1
      ((store path manifest).action files).2 :=
  stored path manifest ⟨files, []⟩

/-- A file is opened by writing an empty text after making its folder. -/
theorem exists_of_opened? {files opened : Files} {path : Path}
    (isOpened : opened? files path = some opened) :
    path.isPossible = true ∧ ∃ deeper, files.Deepens deeper ∧ deeper.write? path "" = some opened := by
  unfold opened? at isOpened
  split at isOpened
  · next possible =>
      have deepens := Files.deepens_makeParents files path
      unfold Files.writeDeep? at isOpened
      rcases parents : files.makeParents path with ⟨deeper, made⟩
      rw [parents] at isOpened deepens
      cases made with
      | false => cases isOpened
      | true => exact ⟨possible, deeper, deepens, isOpened⟩
  · cases isOpened

theorem grows_of_opened? {files opened : Files} {path : Path}
    (isOpened : opened? files path = some opened) : files.Grows opened := by
  obtain ⟨_, deeper, deepens, written⟩ := exists_of_opened? isOpened
  exact deepens.toGrows.trans (Files.grows_of_write? written)

theorem textAt?_of_opened? {files opened : Files} {path : Path}
    (isOpened : opened? files path = some opened) (place : Location) :
    opened.textAt? place = if place = path.place then some "" else files.textAt? place := by
  obtain ⟨_, deeper, deepens, written⟩ := exists_of_opened? isOpened
  rw [Files.textAt?_of_write? written, deepens.textAt?]

namespace Stored

variable {path : Path} {manifest : Data} {files later : Files} {outcome : Except Error Unit}

/-- Storing a manifest keeps folders and files. -/
theorem grows (stored : Stored path manifest files outcome later) : files.Grows later := by
  cases stored with
  | closed _ deepens => exact deepens.toGrows
  | emptied isOpened _ => exact grows_of_opened? isOpened
  | written isOpened _ isWritten =>
      exact (grows_of_opened? isOpened).trans (Files.grows_of_write? isWritten)

/-- Storing a manifest keeps the texts of all other files. -/
theorem textAt?_of_ne (stored : Stored path manifest files outcome later) {place : Location}
    (other : place ≠ path.place) : later.textAt? place = files.textAt? place := by
  cases stored with
  | closed _ deepens => exact deepens.textAt? place
  | emptied isOpened _ => rw [textAt?_of_opened? isOpened, if_neg other]
  | written isOpened _ isWritten =>
      rw [Files.textAt?_of_write? isWritten, if_neg other, textAt?_of_opened? isOpened, if_neg other]

end Stored

end Manifest

end SpecGraph
