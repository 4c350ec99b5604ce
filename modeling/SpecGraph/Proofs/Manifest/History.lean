import Mathlib.Algebra.GroupWithZero.Nat
import SpecGraph.Proofs.Manifest.Stage
import SpecGraph.Proofs.World.Finalize

/-!
# The history of the manifests

The three manifests under some roots are persisted together. A stage keeps them readable and consistent, and
what it leaves extends what it found: either nothing changes, or the stage has accepted new entries and these
are joined, which does not touch what was on disk before. The same holds after any number of calls, since
to be extended is a transitive relation.
-/

namespace SpecGraph

/-- The folders that the three manifests are in. -/
structure Roots where
  /-- The folder of the manifest of schemas. -/
  schema : Path
  /-- The folder of the manifest of collections. -/
  storage : Path
  /-- The folder of the manifest of dispatches. -/
  dispatch : Path
deriving DecidableEq

/-- The path of the manifest of a stage. -/
def Roots.file (roots : Roots) : Stage → Path
  | .schema => roots.schema.child Manifest.schemaFile
  | .storage => roots.storage.child Manifest.storageFile
  | .dispatch => roots.dispatch.child Manifest.dispatchFile

/-- The place of the manifest of a stage. -/
def Roots.place (roots : Roots) (stage : Stage) : Location := (roots.file stage).place

/-- A request without declarations. -/
def Roots.request (roots : Roots) : Stage → StageRequest
  | .schema => .schema [] roots.schema
  | .storage => .storage [] roots.schema roots.storage
  | .dispatch => .dispatch [] roots.schema roots.dispatch

/-- The manifests of two stages are never in one place. -/
theorem Roots.place_ne (roots : Roots) (first second : Stage) (other : first ≠ second) :
    roots.place first ≠ roots.place second := by
  have places := StageRequest.place_file_ne (roots.request first) (roots.request second)
    (by cases first <;> cases second <;> exact other)
  cases first <;> cases second <;> exact places

/-- What the three manifests say. -/
structure Persisted where
  /-- The schemas. -/
  schemas : List SchemaForm
  /-- The collections with their ids. -/
  collections : List (CollectionForm × Int)
  /-- The dispatches with their ids. -/
  dispatches : List (DispatchForm × Int)
deriving DecidableEq

/-- The entries in a section of the manifest at a path; an absent manifest has none. -/
def Manifest.entries? {Form : Type} (of? : Data → Option Form) (section_ : String) (files : Files)
    (path : Path) : Option (List Form) :=
  match files.textAt? path.place with
  | none => some []
  | some text =>
      match Json.read text with
      | .ok manifest => manifest.read? section_ (Data.listOf? of?)
      | .error _ => none

/-- What the manifests under some roots say, if they can be read. -/
def Roots.persisted? (roots : Roots) (files : Files) : Option Persisted := do
  let schemas ← Manifest.entries? SchemaForm.of? "schema" files (roots.file .schema)
  let collections ←
    Manifest.entries? (numbered? CollectionForm.of?) "collections" files (roots.file .storage)
  let dispatches ←
    Manifest.entries? (numbered? DispatchForm.of?) "dispatches" files (roots.file .dispatch)
  return ⟨schemas, collections, dispatches⟩

/-- There is a manifest of collections where some are persisted. -/
theorem Roots.textAt?_of_collections {roots : Roots} {files : Files} {state : Persisted}
    (persisted : roots.persisted? files = some state) (some_ : state.collections ≠ []) :
    files.textAt? (roots.place .storage) ≠ none := by
  intro noText
  unfold place at noText
  unfold persisted? at persisted
  rcases Option.bind_eq_some_iff.mp persisted with ⟨schemas, _, rest⟩
  rcases Option.bind_eq_some_iff.mp rest with ⟨collections, areCollections, rest⟩
  rcases Option.bind_eq_some_iff.mp rest with ⟨dispatches, _, same⟩
  simp only [Manifest.entries?, noText] at areCollections
  cases areCollections
  cases same
  exact some_ rfl

/-- No two declarations of a kind have one full name. -/
structure Persisted.IsDistinct (state : Persisted) : Prop where
  /-- The full names of the schemas are told apart. -/
  schemas : (state.schemas.map SchemaForm.address).Nodup
  /-- The full names of the collections are told apart. -/
  collections : (state.collections.map fun collection => collection.1.address).Nodup
  /-- The full names of the dispatches are told apart. -/
  dispatches : (state.dispatches.map fun dispatch => dispatch.1.address).Nodup

/-- What was persisted earlier is still there: every schema has an extension, and every collection and
every dispatch is the same and has the same id. -/
structure Persisted.ExtendedBy (old new : Persisted) : Prop where
  /-- Every schema has an extension. -/
  schemas : AreExtended old.schemas new.schemas
  /-- Every collection is kept with its id. -/
  collections : old.collections ⊆ new.collections
  /-- Every dispatch is kept with its id. -/
  dispatches : old.dispatches ⊆ new.dispatches

theorem AreExtended.refl (schemas : List SchemaForm) : AreExtended schemas schemas :=
  fun schema schemaMem => ⟨schema, schemaMem, rfl, SchemaForm.ExtendedBy.refl schema⟩

theorem AreExtended.trans {first second third : List SchemaForm} (before : AreExtended first second)
    (after : AreExtended second third) : AreExtended first third := by
  intro schema schemaMem
  obtain ⟨middle, middleMem, same, extends_⟩ := before schema schemaMem
  obtain ⟨last, lastMem, sameAgain, extendsAgain⟩ := after middle middleMem
  exact ⟨last, lastMem, sameAgain.trans same, extends_.trans extendsAgain⟩

theorem Persisted.ExtendedBy.refl (state : Persisted) : state.ExtendedBy state :=
  ⟨AreExtended.refl _, List.Subset.refl _, List.Subset.refl _⟩

theorem Persisted.ExtendedBy.trans {first second third : Persisted} (before : first.ExtendedBy second)
    (after : second.ExtendedBy third) : first.ExtendedBy third :=
  ⟨before.schemas.trans after.schemas, List.Subset.trans before.collections after.collections,
    List.Subset.trans before.dispatches after.dispatches⟩

/-- Joining all texts keeps an extension. -/
theorem SchemaForm.ExtendedBy.joined {old new : SchemaForm} (extends_ : old.ExtendedBy new) :
    old.joined.ExtendedBy new.joined := by
  obtain ⟨compact, kept, added, fields, keeps, adds⟩ := extends_
  refine ⟨compact, kept.map FieldForm.joined, added.map FieldForm.joined, ?_, ?_, ?_⟩
  · rw [SchemaForm.joined, fields, List.map_append]
  · rw [SchemaForm.joined, List.forall₂_map_left_iff, List.forall₂_map_right_iff]
    exact keeps.imp fun _ _ same =>
      ⟨congrArg Text.joined same.1, congrArg Text.joined same.2.1, same.2.2⟩
  · rw [List.forall_mem_map]
    exact adds

/-- Schemas that are joined already are extended by schemas that are joined later. -/
theorem AreExtended.joined {olds news : List SchemaForm}
    (settled : ∀ old ∈ olds, SchemaForm.joined old = old) (extended : AreExtended olds news) :
    AreExtended olds (news.map SchemaForm.joined) := by
  intro old oldMem
  obtain ⟨new, newMem, same, extends_⟩ := extended old oldMem
  have isSettled := settled old oldMem
  refine ⟨new.joined, List.mem_map_of_mem newMem, ?_, isSettled ▸ extends_.joined⟩
  rw [← isSettled]
  exact congrArg Text.joined same

namespace Manifest

namespace Numbered.Reading

variable {α σ Form : Type} {kind : Numbered α} (reading : kind.Reading σ Form)

/-- Entries with ids that go together with schemas: their full names are told apart, their texts are joined,
and they refer to the schemas as they have to. -/
structure Fit (schemas : List SchemaForm) (entries : List (Form × Int)) : Prop where
  /-- The full names are told apart. -/
  distinct : (entries.map fun entry => reading.address entry.1).Nodup
  /-- The texts are joined. -/
  settled : ∀ entry ∈ entries, reading.joined entry.1 = entry.1
  /-- The references are resolved. -/
  resolved : ∀ entry ∈ entries, reading.ResolvedIn schemas entry.1

theorem Fit.nil (schemas : List SchemaForm) : reading.Fit schemas [] :=
  ⟨List.nodup_nil, by simp, by simp⟩

variable {reading}

/-- Entries go together with any extension of their schemas. -/
theorem Fit.mono {schemas others : List SchemaForm} {entries : List (Form × Int)}
    (extended : AreExtended schemas others) (fit : reading.Fit schemas entries) :
    reading.Fit others entries :=
  ⟨fit.distinct, fit.settled,
    fun entry entryMem => reading.resolved_mono extended (fit.resolved entry entryMem)⟩

variable {bound : Nat} {files later : Files} {outcome : Except Error Unit}

/-- A stage leaves entries that go together with the schemas, and keeps those that it found. -/
theorem exists_next (request : StageRequest) {schemaPath : Path} {entries : List (Entry α)}
    {sources : List σ} {schemas : List SchemaForm} {olds : List (Form × Int)}
    (isPlain : entries = sources.map reading.entry) (isMember : request.member = kind.section_)
    (isPlan : request.plan false files = do
      let schemas ← loaded files schemaPath >>= schemasIn schemaPath
      let previous ← loaded files request.file
      kind.plan false schemas entries previous)
    (schemasOnDisk : OnDisk SchemaRecord "schema" bound files schemaPath schemas)
    (schemasDistinct : (schemas.map SchemaForm.address).Nodup)
    (schemasSettled : ∀ schema ∈ schemas, SchemaForm.joined schema = schema)
    (onDisk : OnDisk (NumberedRecord reading.of?) kind.section_ bound files request.file olds)
    (fit : reading.Fit schemas olds)
    (newDistinct : (sources.map fun source => reading.address (reading.form source)).Nodup)
    (distinct : outcome = .ok () →
      (sources.map fun source => Text.joined (reading.address (reading.form source))).Nodup)
    (shown : bound + (1 + sources.length) < Text.leastUnshown)
    (acted : (request.writeManifest false).action files = (outcome, later)) :
    ∃ news, OnDisk (NumberedRecord reading.of?) kind.section_ (bound + (1 + sources.length)) later
        request.file news ∧
      reading.Fit schemas news ∧ olds ⊆ news ∧
      (later.textAt? request.file.place = files.textAt? request.file.place ∨
        files.textAt? schemaPath.place ≠ none) := by
  have ended := reading.outcome_numbered isPlain isMember isPlan schemasOnDisk schemasDistinct onDisk
    fit.distinct newDistinct shown acted
  cases ended with
  | kept _ onDiskLater same => exact ⟨olds, onDiskLater, fit, List.Subset.refl olds, Or.inl same⟩
  | replaced isAccepted onDiskLater _ =>
      obtain ⟨⟨resolved, kept⟩, isThere, numbered, rfl, rfl, sameIds⟩ := isAccepted
      have apart := distinct rfl
      refine ⟨_, onDiskLater, ⟨?_, ?_, ?_⟩, ?_, Or.inr isThere⟩
      · rw [List.map_map] at apart ⊢
        simpa only [Function.comp_def, reading.address_joined] using apart
      · rw [List.forall_mem_map]
        exact fun pair _ => reading.joined_joined _
      · rw [List.forall_mem_map]
        exact fun pair pairMem => reading.resolved_joined schemasSettled
          (resolved pair.1 (List.mem_map_of_mem pairMem))
      · intro old oldMem
        obtain ⟨source, sourceMem, same⟩ := List.mem_map.mp (kept old oldMem)
        obtain ⟨pair, pairMem, rfl⟩ := List.mem_map.mp sourceMem
        have sameId := sameIds pair pairMem old oldMem (congrArg reading.address same.symm)
        refine List.mem_map.mpr ⟨pair, pairMem, ?_⟩
        rw [same, fit.settled old oldMem, ← sameId]

end Numbered.Reading

/-- A stage leaves the manifests of the other stages readable. -/
theorem OnDisk.after {Form : Type} {Record : Nat → Data → Form → Prop} {section_ : String}
    {bound more : Nat} {files : Files} {path : Path} {forms : List Form} (request : StageRequest)
    (onDisk : OnDisk Record section_ bound files path forms) (other : path.place ≠ request.file.place)
    (each : ∀ {value form}, Record bound value form → Record more value form) (less : bound ≤ more) :
    OnDisk Record section_ more ((request.writeManifest false).action files).2 path forms :=
  (onDisk.grows (request.grows_action false files)
    (request.textAt?_action_of_ne false files other)).mono less each

/-- The entries of a manifest on disk can be read. -/
theorem OnDisk.entries?_eq {Form : Type} {Record : Nat → Data → Form → Prop} {of? : Data → Option Form}
    {section_ : String} {bound : Nat} {files : Files} {path : Path} {forms : List Form}
    (onDisk : OnDisk Record section_ bound files path forms)
    (shows : ∀ {value form}, Record bound value form → of? value = some form) :
    entries? of? section_ files path = some forms := by
  unfold entries?
  cases onDisk with
  | absent noText => rw [noText]
  | present found short unbroken isRead recorded =>
      obtain ⟨items, there, records⟩ := recorded.records
      rw [Files.textAt?_of_find? found]
      dsimp only
      rw [isRead]
      exact read?_listOf.mpr ⟨items, there, records.imp fun _ _ record => shows record⟩

end Manifest

namespace StageRequest

/-- The full names of what a stage is asked to write. -/
def addresses : StageRequest → List String
  | schema groups _ => groups.entries.map Manifest.schemaAddress
  | storage groups .. => groups.entries.map Manifest.collections.addressOf
  | dispatch groups .. => groups.entries.map Manifest.dispatches.addressOf

/-- How far the numbers of a manifest can grow by a request. -/
def weight (request : StageRequest) : Nat := 1 + request.addresses.length

/-- A stage is asked to write declarations in the folders of some roots. -/
inductive IsPlain (roots : Roots) : StageRequest → Prop
  /-- A request to write schemas, each of which has different names for its fields. -/
  | schema {groups : Grouped SchemaSpec} (sources : List SchemaSource)
      (entries : groups.entries = sources.map SchemaSource.entry)
      (fieldsDistinct : ∀ source ∈ sources, (source.fields.map FieldForm.name).Nodup) :
      IsPlain roots (.schema groups roots.schema)
  /-- A request to write collections. -/
  | storage {groups : Grouped CollectionSpec} (sources : List CollectionSource)
      (entries : groups.entries = sources.map CollectionSource.entry) :
      IsPlain roots (.storage groups roots.schema roots.storage)
  /-- A request to write dispatches. -/
  | dispatch {groups : Grouped DispatchSpec} (sources : List DispatchSource)
      (entries : groups.entries = sources.map DispatchSource.entry) :
      IsPlain roots (.dispatch groups roots.schema roots.dispatch)

/-- The full names of a request are told apart, also when their texts are joined. -/
def IsDistinct (request : StageRequest) : Prop := (request.addresses.map Text.joined).Nodup

end StageRequest

namespace Persisted

open Manifest.Numbered (collectionReading dispatchReading)

/-- What is persisted before anything was written. -/
def empty : Persisted := ⟨[], [], []⟩

/-- The manifests under some roots say what is persisted, and they are consistent. -/
structure OnDisk (roots : Roots) (bound : Nat) (files : Files) (state : Persisted) : Prop where
  /-- The manifest of schemas. -/
  schemas : Manifest.OnDisk SchemaRecord "schema" bound files (roots.file .schema) state.schemas
  /-- The manifest of collections. -/
  collections : Manifest.OnDisk (NumberedRecord CollectionForm.of?) "collections" bound files
    (roots.file .storage) state.collections
  /-- The manifest of dispatches. -/
  dispatches : Manifest.OnDisk (NumberedRecord DispatchForm.of?) "dispatches" bound files
    (roots.file .dispatch) state.dispatches
  /-- The full names of the schemas are told apart. -/
  distinct : (state.schemas.map SchemaForm.address).Nodup
  /-- The texts of the schemas are joined. -/
  settled : ∀ schema ∈ state.schemas, schema.joined = schema
  /-- The collections go together with the schemas. -/
  collectionsFit : collectionReading.Fit state.schemas state.collections
  /-- The dispatches go together with the schemas. -/
  dispatchesFit : dispatchReading.Fit state.schemas state.dispatches
  /-- Where there is a manifest, there is one of schemas. -/
  schemasFirst : ∀ stage, files.textAt? (roots.place stage) ≠ none →
    files.textAt? (roots.place .schema) ≠ none

variable {roots : Roots} {bound : Nat} {files : Files} {state : Persisted}

theorem onDisk_empty (noTexts : ∀ stage, files.textAt? (roots.place stage) = none) :
    empty.OnDisk roots 0 files where
  schemas := .absent (noTexts .schema)
  collections := .absent (noTexts .storage)
  dispatches := .absent (noTexts .dispatch)
  distinct := List.nodup_nil
  settled := by simp [empty]
  collectionsFit := Manifest.Numbered.Reading.Fit.nil collectionReading []
  dispatchesFit := Manifest.Numbered.Reading.Fit.nil dispatchReading []
  schemasFirst stage there := (there (noTexts stage)).elim

/-- What is persisted is what the manifests say. -/
theorem OnDisk.persisted?_eq (onDisk : state.OnDisk roots bound files) :
    roots.persisted? files = some state := by
  have numbered {Form : Type} {of? : Data → Option Form} {value : Data} {entry : Form × Int}
      (record : NumberedRecord of? bound value entry) : numbered? of? value = some entry :=
    numbered?_eq_some.mpr ⟨record.shows, record.id⟩
  unfold Roots.persisted?
  rw [onDisk.schemas.entries?_eq SchemaRecord.shows, onDisk.collections.entries?_eq numbered,
    onDisk.dispatches.entries?_eq numbered]
  rfl

theorem OnDisk.isDistinct (onDisk : state.OnDisk roots bound files) : state.IsDistinct :=
  ⟨onDisk.distinct, onDisk.collectionsFit.distinct, onDisk.dispatchesFit.distinct⟩

/-- After a stage there is still a manifest of schemas where there is any. -/
theorem schemasFirst_after {later : Files} {own : Stage}
    (first : ∀ stage, files.textAt? (roots.place stage) ≠ none →
      files.textAt? (roots.place .schema) ≠ none)
    (others : ∀ stage, stage ≠ own →
      later.textAt? (roots.place stage) = files.textAt? (roots.place stage))
    (ended : later.textAt? (roots.place own) = files.textAt? (roots.place own) ∨
      later.textAt? (roots.place .schema) ≠ none) (stage : Stage)
    (there : later.textAt? (roots.place stage) ≠ none) : later.textAt? (roots.place .schema) ≠ none := by
  rcases ended with same | isThere
  · have all (stage : Stage) :
        later.textAt? (roots.place stage) = files.textAt? (roots.place stage) := by
      by_cases isOwn : stage = own
      · exact isOwn ▸ same
      · exact others stage isOwn
    rw [all] at there ⊢
    exact first stage there
  · exact isThere

section Next

variable (onDisk : state.OnDisk roots bound files)
include onDisk

/-- The stage of schemas keeps what is persisted consistent, and extends it. -/
theorem OnDisk.exists_next_schema {groups : Grouped SchemaSpec} {sources : List SchemaSource}
    (entries : groups.entries = sources.map SchemaSource.entry)
    (fieldsDistinct : ∀ source ∈ sources, (source.fields.map FieldForm.name).Nodup)
    (distinct : (StageRequest.schema groups roots.schema).IsDistinct)
    (shown : bound + 1 < Text.leastUnshown) :
    ∃ next : Persisted, next.OnDisk roots (bound + 1)
      (((StageRequest.schema groups roots.schema).writeManifest false).action files).2 ∧
      state.ExtendedBy next := by
  have more : bound ≤ bound + 1 := Nat.le_succ bound
  have collectionsLater := onDisk.collections.after (.schema groups roots.schema)
    (roots.place_ne .storage .schema (by decide)) (fun record => record.mono more) more
  have dispatchesLater := onDisk.dispatches.after (.schema groups roots.schema)
    (roots.place_ne .dispatch .schema (by decide)) (fun record => record.mono more) more
  have others (stage : Stage) (other : stage ≠ .schema) :=
    (StageRequest.schema groups roots.schema).textAt?_action_of_ne false files
      (roots.place_ne stage .schema other)
  have addresses : groups.entries.map Manifest.schemaAddress =
      (sources.map SchemaSource.form).map SchemaForm.address := by
    rw [entries, List.map_map, List.map_map]
    rfl
  have joinedDistinct :
      (((sources.map SchemaSource.form).map SchemaForm.address).map Text.joined).Nodup :=
    addresses ▸ distinct
  rcases acted : ((StageRequest.schema groups roots.schema).writeManifest false).action files with
    ⟨outcome, later⟩
  rw [acted] at collectionsLater dispatchesLater others
  have ended := Manifest.outcome_schema entries onDisk.schemas onDisk.distinct
    (List.Nodup.of_map _ joinedDistinct) fieldsDistinct shown acted
  cases ended with
  | kept _ onDiskLater same =>
      refine ⟨state, ?_, ExtendedBy.refl state⟩
      exact { onDisk with
        schemas := onDiskLater
        collections := collectionsLater
        dispatches := dispatchesLater
        schemasFirst := schemasFirst_after onDisk.schemasFirst others (Or.inl same) }
  | replaced isAccepted onDiskLater isThere =>
      obtain ⟨rfl, _, extended⟩ := isAccepted
      have joined := extended.joined onDisk.settled
      refine ⟨{ state with schemas := _ }, ?_, ⟨joined, List.Subset.refl _, List.Subset.refl _⟩⟩
      exact {
        schemas := onDiskLater
        collections := collectionsLater
        dispatches := dispatchesLater
        distinct := by
          rw [List.map_map] at joinedDistinct ⊢
          exact joinedDistinct
        settled := List.forall_mem_map.mpr fun schema _ => schema.joined_joined
        collectionsFit := onDisk.collectionsFit.mono joined
        dispatchesFit := onDisk.dispatchesFit.mono joined
        schemasFirst := fun _ _ => isThere }

/-- The stage of collections keeps what is persisted consistent, and extends it. -/
theorem OnDisk.exists_next_storage {groups : Grouped CollectionSpec} {sources : List CollectionSource}
    (entries : groups.entries = sources.map CollectionSource.entry)
    (distinct : (StageRequest.storage groups roots.schema roots.storage).IsDistinct)
    (shown : bound + (1 + sources.length) < Text.leastUnshown) :
    ∃ next : Persisted, next.OnDisk roots (bound + (1 + sources.length))
      (((StageRequest.storage groups roots.schema roots.storage).writeManifest false).action files).2 ∧
      state.ExtendedBy next := by
  have more : bound ≤ bound + (1 + sources.length) := Nat.le_add_right _ _
  have schemasLater := onDisk.schemas.after (.storage groups roots.schema roots.storage)
    (roots.place_ne .schema .storage (by decide)) (fun record => record.mono more) more
  have dispatchesLater := onDisk.dispatches.after (.storage groups roots.schema roots.storage)
    (roots.place_ne .dispatch .storage (by decide)) (fun record => record.mono more) more
  have others (stage : Stage) (other : stage ≠ .storage) :=
    (StageRequest.storage groups roots.schema roots.storage).textAt?_action_of_ne false files
      (roots.place_ne stage .storage other)
  have joinedDistinct : (sources.map fun source => Text.joined source.form.address).Nodup := by
    rw [StageRequest.IsDistinct, StageRequest.addresses, entries, List.map_map, List.map_map]
      at distinct
    exact distinct
  have newDistinct : (sources.map fun source => source.form.address).Nodup := by
    refine List.Nodup.of_map Text.joined ?_
    rwa [List.map_map]
  rcases acted : ((StageRequest.storage groups roots.schema roots.storage).writeManifest false).action
    files with ⟨outcome, later⟩
  rw [acted] at schemasLater dispatchesLater others
  obtain ⟨news, onDiskLater, fit, kept, ended⟩ := collectionReading.exists_next
    (.storage groups roots.schema roots.storage) entries rfl rfl onDisk.schemas
    onDisk.distinct onDisk.settled onDisk.collections onDisk.collectionsFit newDistinct (fun _ => joinedDistinct)
    shown acted
  refine ⟨{ state with collections := news }, ?_, ⟨AreExtended.refl _, kept, List.Subset.refl _⟩⟩
  exact { onDisk with
    schemas := schemasLater
    collections := onDiskLater
    dispatches := dispatchesLater
    collectionsFit := fit
    schemasFirst := schemasFirst_after onDisk.schemasFirst others
      (ended.imp_right fun isThere => (others .schema (by decide)).trans_ne isThere) }

/-- The stage of dispatches keeps what is persisted consistent, and extends it. -/
theorem OnDisk.exists_next_dispatch {groups : Grouped DispatchSpec} {sources : List DispatchSource}
    (entries : groups.entries = sources.map DispatchSource.entry)
    (distinct : (StageRequest.dispatch groups roots.schema roots.dispatch).IsDistinct)
    (shown : bound + (1 + sources.length) < Text.leastUnshown) :
    ∃ next : Persisted, next.OnDisk roots (bound + (1 + sources.length))
      (((StageRequest.dispatch groups roots.schema roots.dispatch).writeManifest false).action files).2 ∧
      state.ExtendedBy next := by
  have more : bound ≤ bound + (1 + sources.length) := Nat.le_add_right _ _
  have schemasLater := onDisk.schemas.after (.dispatch groups roots.schema roots.dispatch)
    (roots.place_ne .schema .dispatch (by decide)) (fun record => record.mono more) more
  have collectionsLater := onDisk.collections.after (.dispatch groups roots.schema roots.dispatch)
    (roots.place_ne .storage .dispatch (by decide)) (fun record => record.mono more) more
  have others (stage : Stage) (other : stage ≠ .dispatch) :=
    (StageRequest.dispatch groups roots.schema roots.dispatch).textAt?_action_of_ne false files
      (roots.place_ne stage .dispatch other)
  have joinedDistinct : (sources.map fun source => Text.joined source.form.address).Nodup := by
    rw [StageRequest.IsDistinct, StageRequest.addresses, entries, List.map_map, List.map_map]
      at distinct
    exact distinct
  have newDistinct : (sources.map fun source => source.form.address).Nodup := by
    refine List.Nodup.of_map Text.joined ?_
    rwa [List.map_map]
  rcases acted : ((StageRequest.dispatch groups roots.schema roots.dispatch).writeManifest false).action
    files with ⟨outcome, later⟩
  rw [acted] at schemasLater collectionsLater others
  obtain ⟨news, onDiskLater, fit, kept, ended⟩ := dispatchReading.exists_next
    (.dispatch groups roots.schema roots.dispatch) entries rfl rfl onDisk.schemas
    onDisk.distinct onDisk.settled onDisk.dispatches onDisk.dispatchesFit newDistinct (fun _ => joinedDistinct)
    shown acted
  refine ⟨{ state with dispatches := news }, ?_, ⟨AreExtended.refl _, List.Subset.refl _, kept⟩⟩
  exact { onDisk with
    schemas := schemasLater
    collections := collectionsLater
    dispatches := onDiskLater
    dispatchesFit := fit
    schemasFirst := schemasFirst_after onDisk.schemasFirst others
      (ended.imp_right fun isThere => (others .schema (by decide)).trans_ne isThere) }

end Next

/-- What is persisted stays so when the numbers may be greater. -/
theorem OnDisk.mono {more : Nat} (less : bound ≤ more) (onDisk : state.OnDisk roots bound files) :
    state.OnDisk roots more files :=
  { onDisk with
    schemas := onDisk.schemas.mono less fun record => record.mono less
    collections := onDisk.collections.mono less fun record => record.mono less
    dispatches := onDisk.dispatches.mono less fun record => record.mono less }

/-- A stage keeps what is persisted consistent, and extends it. -/
theorem OnDisk.exists_next {request : StageRequest} (onDisk : state.OnDisk roots bound files)
    (plain : request.IsPlain roots) (distinct : request.IsDistinct)
    (shown : bound + request.weight < Text.leastUnshown) :
    ∃ next : Persisted, next.OnDisk roots (bound + request.weight)
      ((request.writeManifest false).action files).2 ∧ state.ExtendedBy next := by
  cases plain with
  | schema sources entries fieldsDistinct =>
      unfold StageRequest.weight at shown ⊢
      obtain ⟨next, onDiskLater, extended⟩ :=
        onDisk.exists_next_schema entries fieldsDistinct distinct (by omega)
      exact ⟨next, onDiskLater.mono (by omega), extended⟩
  | @storage groups sources entries =>
      have weight : (StageRequest.storage groups roots.schema roots.storage).weight =
          1 + sources.length := by
        simp [StageRequest.weight, StageRequest.addresses, entries]
      rw [weight] at shown ⊢
      exact onDisk.exists_next_storage entries distinct shown
  | @dispatch groups sources entries =>
      have weight : (StageRequest.dispatch groups roots.schema roots.dispatch).weight =
          1 + sources.length := by
        simp [StageRequest.weight, StageRequest.addresses, entries]
      rw [weight] at shown ⊢
      exact onDisk.exists_next_dispatch entries distinct shown

end Persisted

namespace StageCall

/-- How far the numbers of the manifests can grow by calls. -/
def weight (calls : List StageCall) : Nat := (calls.map fun call => call.request.weight).sum

theorem weight_append (earlier later : List StageCall) :
    weight (earlier ++ later) = weight earlier + weight later := by
  rw [weight, List.map_append, List.sum_append]
  rfl

theorem weight_le_of_sublist {some_ calls : List StageCall} (isSublist : some_.Sublist calls) :
    weight some_ ≤ weight calls := by
  induction isSublist with
  | slnil => exact Nat.le_refl _
  | cons call _ ih => exact Nat.le_trans ih (Nat.le_add_left _ _)
  | cons_cons call _ ih => exact Nat.add_le_add_left ih _

/-- A call writes the manifest of declarations under some roots, without allowing breaking changes. -/
structure IsPlain (roots : Roots) (call : StageCall) : Prop where
  /-- The pipeline writes a manifest. -/
  pipeline : call.pipeline = .manifest false
  /-- The request is to write declarations. -/
  request : call.request.IsPlain roots

/-- After any number of calls what is persisted is consistent, and extends what was persisted before. -/
theorem exists_replay {roots : Roots} {bound : Nat} {files : Files} {state : Persisted}
    {calls : List StageCall} (onDisk : state.OnDisk roots bound files)
    (plain : ∀ call ∈ calls, call.IsPlain roots) (distinct : ∀ call ∈ calls, call.request.IsDistinct)
    (shown : bound + weight calls < Text.leastUnshown) :
    ∃ next : Persisted, next.OnDisk roots (bound + weight calls) (replay files calls) ∧
      state.ExtendedBy next := by
  induction calls generalizing bound files state with
  | nil => exact ⟨state, onDisk, Persisted.ExtendedBy.refl state⟩
  | cons call rest ih =>
      rw [List.forall_mem_cons] at plain distinct
      have split : weight (call :: rest) = call.request.weight + weight rest := List.sum_cons
      rw [split, ← Nat.add_assoc] at shown ⊢
      obtain ⟨middle, onDiskMiddle, extended⟩ :=
        onDisk.exists_next plain.1.request distinct.1 (by omega)
      have acts : call.action files = (call.request.writeManifest false).action files := by
        rw [action, plain.1.pipeline]
        rfl
      rw [← acts] at onDiskMiddle
      obtain ⟨next, onDiskNext, extendedAgain⟩ := ih onDiskMiddle plain.2 distinct.2 shown
      exact ⟨next, onDiskNext, extended.trans extendedAgain⟩

end StageCall

end SpecGraph
