import SpecGraph.Proofs.Manifest.History

/-!
# Builds on plain data

What a stage does to the three manifests is told by what they hold as plain data: the stage makes its plan
from the manifests, and if there is a plan then the manifest of the stage becomes the one of the plan, read
back from its text. So a build can be followed on plain data, where no text is written or read, and the file
tree follows as long as the folders of the manifests are there.
-/

namespace SpecGraph

namespace Json

/-- Tests whether a value has no parts and JSON has a form for it. -/
def hasLeafForm : Data → Bool
  | .null | .bool _ | .text _ => true
  | .int value => Text.isShowable value
  | _ => false

/-- Tests whether JSON has a form for a value, with no more levels of collections than some number. -/
def hasForm : (levels : Nat) → Data → Bool
  | 0, value => hasLeafForm value
  | levels + 1, value =>
      match value with
      | .list items => items.all (hasForm levels)
      | .map entries =>
          (entries.all fun entry => entry.1.isText && hasForm levels entry.2) &&
            decide ((entries.map fun entry => (entry.1.text?).map Text.joined).Nodup)
      | value => hasLeafForm value

theorem isTree_of_hasLeafForm {levels : Nat} {value : Data} (tested : hasLeafForm value = true) :
    IsTree levels value := by
  cases value with
  | null => exact .null
  | bool => exact .bool
  | text => exact .text
  | int value => exact .int (by rwa [hasLeafForm] at tested)
  | _ => simp [hasLeafForm] at tested

theorem exists_named {entries : List (Data × Data)} (texts : ∀ entry ∈ entries, entry.1.isText = true) :
    ∃ named : List (String × Data), entries = named.map fun entry => (.text entry.1, entry.2) := by
  induction entries with
  | nil => exact ⟨[], rfl⟩
  | cons entry rest ih =>
      rw [List.forall_mem_cons] at texts
      obtain ⟨named, rfl⟩ := ih texts.2
      rcases entry with ⟨key, value⟩
      cases key with
      | text key => exact ⟨(key, value) :: named, rfl⟩
      | _ => cases texts.1

theorem isTree_of_hasForm {levels : Nat} {value : Data} (tested : hasForm levels value = true) :
    IsTree levels value := by
  induction levels generalizing value with
  | zero => exact isTree_of_hasLeafForm tested
  | succ levels ih =>
      unfold hasForm at tested
      split at tested
      · rw [List.all_eq_true] at tested
        exact .list fun item itemMem => ih (tested item itemMem)
      · next entries =>
          simp only [Bool.and_eq_true, List.all_eq_true, decide_eq_true_eq] at tested
          obtain ⟨parts, apart⟩ := tested
          obtain ⟨named, rfl⟩ := exists_named fun entry entryMem => (parts entry entryMem).1
          rw [List.forall_mem_map] at parts
          rw [List.map_map] at apart
          refine .object (fun entry entryMem => ih (parts entry entryMem).2) (List.Nodup.of_map some ?_)
          rw [List.map_map]
          exact apart
      · exact isTree_of_hasLeafForm tested

end Json

/-- The three manifests as plain data. -/
structure Manifests where
  /-- The manifest of schemas, if there is one. -/
  schema : Option Data
  /-- The manifest of collections, if there is one. -/
  storage : Option Data
  /-- The manifest of dispatches, if there is one. -/
  dispatch : Option Data

namespace Manifests

/-- There are no manifests. -/
def empty : Manifests := ⟨none, none, none⟩

/-- The manifest of a stage. -/
def ofStage (manifests : Manifests) : Stage → Option Data
  | .schema => manifests.schema
  | .storage => manifests.storage
  | .dispatch => manifests.dispatch

/-- The manifests with another one for a stage. -/
def put (manifests : Manifests) (stage : Stage) (manifest : Data) : Manifests :=
  match stage with
  | .schema => { manifests with schema := some manifest }
  | .storage => { manifests with storage := some manifest }
  | .dispatch => { manifests with dispatch := some manifest }

theorem ofStage_put (manifests : Manifests) (stage other : Stage) (manifest : Data) :
    (manifests.put stage manifest).ofStage other =
      if other = stage then some manifest else manifests.ofStage other := by
  cases stage <;> cases other <;> rfl

/-- The entries in a section of a manifest; an absent one has none. -/
def entries? {Form : Type} (of? : Data → Option Form) (section_ : String) : Option Data → Option (List Form)
  | none => some []
  | some manifest => manifest.read? section_ (Data.listOf? of?)

/-- What the manifests say, if they have the right form. -/
def persisted? (manifests : Manifests) : Option Persisted := do
  let schemas ← entries? SchemaForm.of? "schema" manifests.schema
  let collections ← entries? (numbered? CollectionForm.of?) "collections" manifests.storage
  let dispatches ← entries? (numbered? DispatchForm.of?) "dispatches" manifests.dispatch
  return ⟨schemas, collections, dispatches⟩

end Manifests

namespace StageRequest

/-- The plan of a stage, made from manifests as plain data. -/
def planOn (allowBreaking : Bool) : StageRequest → Manifests → Except Error (Int × List Data)
  | schema groups _, manifests => Manifest.planSchemas allowBreaking groups.entries manifests.schema
  | storage groups schemaRoot _, manifests => do
      let schemas ← Manifest.schemasIn (schemaRoot.child Manifest.schemaFile) manifests.schema
      Manifest.collections.plan allowBreaking schemas groups.entries manifests.storage
  | dispatch groups schemaRoot _, manifests => do
      let schemas ← Manifest.schemasIn (schemaRoot.child Manifest.schemaFile) manifests.schema
      Manifest.dispatches.plan allowBreaking schemas groups.entries manifests.dispatch

/-- The outcome of a stage and the manifests after it, if the manifest of its plan has a JSON form. -/
def runOn? (allowBreaking : Bool) (request : StageRequest) (manifests : Manifests) :
    Option (Bool × Manifests) :=
  match request.planOn allowBreaking manifests with
  | .error _ => some (false, manifests)
  | .ok (version, items) =>
      let manifest := Manifest.compose request.member version items
      if Json.hasForm 5 manifest then
        some (true, manifests.put request.stage (Json.reread Manifest.layout manifest))
      else none

/-- The manifests after stages up to one that fails, with the number of those that were carried out. -/
def runAllOn? (allowBreaking : Bool) : List StageRequest → Manifests → Option (Nat × Manifests)
  | [], manifests => some (0, manifests)
  | request :: rest, manifests => do
      let (done, manifests) ← request.runOn? allowBreaking manifests
      if done then
        let (count, manifests) ← runAllOn? allowBreaking rest manifests
        return (count + 1, manifests)
      else return (1, manifests)

end StageRequest

/-- The roots below a folder of the name `spec`. -/
def specRoots : Roots := ⟨Path.parse "spec/schema", Path.parse "spec/db", Path.parse "spec/dispatch"⟩

/-- The folders of these roots, and those above them. -/
def specFolders : List Location :=
  [["home"], ["home", "spec"], ["home", "spec", "schema"], ["home", "spec", "db"], ["home", "spec", "dispatch"]]

/-- The text of a manifest, if it has one, is read as plain data. -/
inductive ReadsAs : Option String → Option Data → Prop
  | absent : ReadsAs none none
  | present {text : String} {entries : List (String × Data)} (unbroken : '\r' ∉ text.toList)
      (isRead : Json.read text = .ok (Data.object entries)) :
      ReadsAs (some text) (some (Data.object entries))

/-- A file tree with the folders of the roots holds manifests. -/
structure Manifests.HeldBy (files : Files) (manifests : Manifests) : Prop where
  /-- The folders are there. -/
  folders : files.folders = specFolders
  /-- The manifests are read as plain data. -/
  texts : ∀ stage, ReadsAs (files.textAt? (specRoots.place stage)) (manifests.ofStage stage)

section SpecFolders

variable {files : Files} (folders : files.folders = specFolders)
include folders

/-- A tree with the folders has grown from the one that has nothing else. -/
theorem grows_specFolders : Files.Grows ⟨[], specFolders⟩ files :=
  ⟨fun _ there => folders ▸ there, fun _ there => Or.inl (folders ▸ there),
    fun _ there => (there rfl).elim⟩

theorem resolve?_specRoots (stage : Stage) :
    files.resolve? (specRoots.file stage) = some (specRoots.place stage) :=
  (grows_specFolders folders).resolve? (by cases stage <;> decide +kernel)

theorem isTooLong_specRoots (stage : Stage) : files.isTooLong (specRoots.file stage) = false := by
  have bare : Files.resolve? ⟨[], specFolders⟩ (specRoots.file stage) = some (specRoots.place stage) := by
    cases stage <;> decide +kernel
  rw [(grows_specFolders folders).isTooLong_eq bare]
  cases stage <;> decide +kernel

theorem nodeAt?_specRoots (stage : Stage) : files.nodeAt? (specRoots.place stage) ≠ some .folder := by
  rw [Ne, Files.nodeAt?_eq_folder, folders]
  cases stage <;> decide +kernel

theorem find?_specRoots (stage : Stage) :
    files.find? (specRoots.file stage) = (files.textAt? (specRoots.place stage)).map .file := by
  rw [Files.find?, resolve?_specRoots folders, Option.bind_some,
    Files.nodeAt?_of_not_folder (nodeAt?_specRoots folders stage)]

/-- The file of a stage can be opened. -/
theorem exists_opened?_specRoots (stage : Stage) :
    ∃ opened, Manifest.opened? files (specRoots.file stage) = some opened ∧ opened.folders = specFolders := by
  have grows := grows_specFolders folders
  have isFolder : files.find? (specRoots.file stage).parent = some .folder := by
    have resolved : Files.resolve? ⟨[], specFolders⟩ (specRoots.file stage).parent =
        some (specRoots.place stage).dropLast := by
      cases stage <;> decide +kernel
    rw [Files.find?, grows.resolve? resolved, Option.bind_some]
    rw [Files.nodeAt?_eq_folder, folders]
    cases stage <;> decide +kernel
  have short : files.isTooLong (specRoots.file stage).parent = false := by
    have resolved : Files.resolve? ⟨[], specFolders⟩ (specRoots.file stage).parent =
        some (specRoots.place stage).dropLast := by
      cases stage <;> decide +kernel
    rw [grows.isTooLong_eq resolved]
    cases stage <;> decide +kernel
  have possible : (specRoots.file stage).isPossible = true := by
    cases stage <;> decide +kernel
  have parent : files.nodeAt? (specRoots.place stage).dropLast = some .folder := by
    rw [Files.nodeAt?_eq_folder, folders]
    cases stage <;> decide +kernel
  refine ⟨{ files with files := Files.put files.files (specRoots.place stage) "" }, ?_, folders⟩
  rw [Manifest.opened?, if_pos possible, Files.writeDeep?, Files.makeParents_of_find? isFolder short]
  exact Files.write?_eq_some.mpr ⟨_, resolve?_specRoots folders stage, isTooLong_specRoots folders stage,
    nodeAt?_specRoots folders stage, parent, rfl⟩

end SpecFolders

namespace Manifests

variable {files : Files} {manifests : Manifests}

theorem heldBy_empty : empty.HeldBy ⟨[], specFolders⟩ := by
  refine ⟨rfl, fun stage => ?_⟩
  cases stage <;> exact .absent

/-- The manifest of a stage is loaded as plain data. -/
theorem HeldBy.loaded_eq (held : manifests.HeldBy files) (stage : Stage) :
    Manifest.loaded files (specRoots.file stage) = .ok (manifests.ofStage stage) := by
  have texts := held.texts stage
  have found := find?_specRoots held.folders stage
  unfold Manifest.loaded
  rw [isTooLong_specRoots held.folders, Bool.and_false, Files.exists?, found]
  generalize files.textAt? (specRoots.place stage) = text at texts found ⊢
  generalize manifests.ofStage stage = manifest at texts ⊢
  cases texts with
  | absent => rfl
  | present unbroken isRead =>
      rw [Option.map_some] at found
      simp only [Option.map_some, Option.isSome_some, if_true, Files.read?, found, Files.readText_eq unbroken,
        isRead]
      rfl

/-- A stage for the roots makes its plan from what the manifests hold. -/
theorem HeldBy.plan_eq (held : manifests.HeldBy files) {request : StageRequest}
    (isPlain : request.IsPlain specRoots) (allowBreaking : Bool) :
    request.plan allowBreaking files = request.planOn allowBreaking manifests := by
  have schemas := held.loaded_eq .schema
  have storage := held.loaded_eq .storage
  have dispatch := held.loaded_eq .dispatch
  simp only [Roots.file, ofStage] at schemas storage dispatch
  cases isPlain with
  | schema => simp only [StageRequest.plan, StageRequest.planOn, schemas, Manifest.ok_bind]
  | storage => simp only [StageRequest.plan, StageRequest.planOn, schemas, storage, Manifest.ok_bind]
  | dispatch => simp only [StageRequest.plan, StageRequest.planOn, schemas, dispatch, Manifest.ok_bind]

theorem file_of_isPlain {request : StageRequest} (isPlain : request.IsPlain specRoots) :
    request.file = specRoots.file request.stage := by
  cases isPlain <;> rfl

/-- A stage on files follows the stage on plain data. -/
theorem HeldBy.action {request : StageRequest} {done : Bool} {next : Manifests} {allowBreaking : Bool}
    (held : manifests.HeldBy files) (isPlain : request.IsPlain specRoots)
    (ran : request.runOn? allowBreaking manifests = some (done, next)) :
    next.HeldBy ((request.writeManifest allowBreaking).action files).2 ∧
      (((request.writeManifest allowBreaking).action files).1 = .ok () ↔ done = true) := by
  have isFile := file_of_isPlain isPlain
  have isPlace : request.file.place = specRoots.place request.stage := congrArg Path.place isFile
  rw [StageRequest.action_writeManifest, held.plan_eq isPlain]
  unfold StageRequest.runOn? at ran
  cases planned : request.planOn allowBreaking manifests with
  | error error =>
      rw [planned] at ran
      cases ran
      exact ⟨held, by simp [Job.carryOut]⟩
  | ok goal =>
      rcases goal with ⟨version, items⟩
      rw [planned] at ran
      dsimp only at ran
      split at ran
      · next form =>
          cases ran
          rcases Json.write_read (Json.isRegular_sortedLines 2) (Json.isTree_of_hasForm form) (by decide)
            with ⟨text, written, unbroken, reads⟩
          have isRead := reads "\n" (by simp [Json.IsGap, Json.isBlank])
          have stored := Manifest.stored_action request.file
            (Manifest.compose request.member version items) files
          change HeldBy ((Manifest.store request.file _).action files).2 _ ∧
            (((Manifest.store request.file _).action files).1 = _ ↔ _)
          generalize (Manifest.store request.file _).action files = result at stored ⊢
          rcases result with ⟨outcome, later⟩
          rcases exists_opened?_specRoots held.folders request.stage with ⟨opened, isOpened, folders⟩
          rw [← isFile] at isOpened
          cases stored with
          | closed isClosed => cases isOpened.symm.trans isClosed
          | emptied _ noText => cases written.symm.trans noText
          | written sameOpened sameText isWritten =>
              cases isOpened.symm.trans sameOpened
              cases written.symm.trans sameText
              refine ⟨⟨?_, fun stage => ?_⟩, by simp⟩
              · rcases Files.exists_of_write? isWritten with ⟨_, _, _, _, _, rfl⟩
                exact folders
              · rw [Files.textAt?_of_write? isWritten, Manifest.textAt?_of_opened? isOpened, isPlace, ofStage_put]
                by_cases own : stage = request.stage
                · have shape := Json.reread_object Manifest.layout
                    [("version", .int version), (request.member, .list items)]
                  rw [own, if_pos rfl, if_pos rfl]
                  unfold Manifest.compose
                  rw [shape]
                  exact .present (by simpa using unbroken) (isRead.trans (congrArg Except.ok shape))
                · have apart := specRoots.place_ne stage request.stage own
                  rw [if_neg own, if_neg apart, if_neg apart]
                  exact held.texts stage
      · cases ran

/-- Calls of stages on files follow the stages on plain data. -/
theorem HeldBy.runAll {calls : List StageCall} {count : Nat} {next : Manifests} {allowBreaking : Bool}
    (held : manifests.HeldBy files)
    (arePlain : ∀ call ∈ calls, call.request.IsPlain specRoots ∧ call.pipeline = .manifest allowBreaking)
    (ran : StageRequest.runAllOn? allowBreaking (calls.map StageCall.request) manifests = some (count, next)) :
    next.HeldBy (StageCall.runAll calls files).2.2 ∧ (StageCall.runAll calls files).2.1 = calls.take count := by
  induction calls generalizing files manifests count with
  | nil =>
      cases ran
      exact ⟨held, rfl⟩
  | cons call rest ih =>
      rw [List.forall_mem_cons] at arePlain
      rcases arePlain with ⟨⟨isPlain, isManifest⟩, others⟩
      rw [List.map_cons, StageRequest.runAllOn?, Option.bind_eq_bind, Option.bind_eq_some_iff] at ran
      rcases ran with ⟨⟨done, between⟩, here, after⟩
      rcases held.action isPlain here with ⟨heldBetween, outcome⟩
      have acts : call.action files = (call.request.writeManifest allowBreaking).action files := by
        rw [StageCall.action, isManifest]
        rfl
      rw [StageCall.runAll, acts]
      generalize (call.request.writeManifest allowBreaking).action files = result at heldBetween outcome ⊢
      rcases result with ⟨_ | _, later⟩
      · have failed : done = false := by simpa using outcome
        subst failed
        cases after
        exact ⟨heldBetween, rfl⟩
      · obtain rfl : done = true := outcome.mp rfl
        dsimp only at after
        rw [if_pos rfl, Option.bind_eq_bind, Option.bind_eq_some_iff] at after
        rcases after with ⟨⟨more, last⟩, ranRest, same⟩
        cases same
        rcases ih heldBetween others ranRest with ⟨heldLast, made⟩
        exact ⟨heldLast, congrArg (call :: ·) made⟩

/-- What the manifests on files say is told by what they hold. -/
theorem HeldBy.persisted?_eq (held : manifests.HeldBy files) :
    specRoots.persisted? files = manifests.persisted? := by
  have each {Form : Type} (of? : Data → Option Form) (section_ : String) (stage : Stage) :
      Manifest.entries? of? section_ files (specRoots.file stage) =
        entries? of? section_ (manifests.ofStage stage) := by
    have texts := held.texts stage
    unfold Manifest.entries?
    have samePlace : (specRoots.file stage).place = specRoots.place stage := rfl
    rw [samePlace]
    generalize files.textAt? (specRoots.place stage) = text at texts ⊢
    generalize manifests.ofStage stage = manifest at texts ⊢
    cases texts with
    | absent => rfl
    | present _ isRead => simp only [isRead, entries?]
  unfold Roots.persisted? persisted?
  rw [each, each, each]
  rfl

end Manifests

end SpecGraph
