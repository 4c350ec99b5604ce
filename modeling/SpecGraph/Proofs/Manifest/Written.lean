import SpecGraph.Proofs.Manifest.Compatible
import SpecGraph.Proofs.Manifest.Plan
import SpecGraph.Proofs.Manifest.Record

/-!
# Written manifests

A manifest that was written has a version and records, with numbers up to some bound. As long as the bound is
short enough to be shown, the manifest of a plan has a text, and the text is read back as a manifest with
the same records. A manifest stays readable as long as the file tree grows and the text stays.
-/

namespace SpecGraph

open Json (IsTree AreKeys areKeys_of_subset)

section Trees

variable {bound : Nat} (shown : bound < Text.leastUnshown)
include shown

theorem isTree_int {levels : Nat} {number : Int} (small : 0 ≤ number ∧ number ≤ bound) :
    IsTree levels (.int number) :=
  .int (Text.isShowable_iff.mpr (by omega))

theorem FieldForm.isTree_record (field : FieldForm) {version : Nat} (small : version ≤ bound) :
    IsTree 1 (field.record version) := by
  refine Json.isTree_object (show AreKeys ["name", "type", "required", "version"] from
    areKeys_of_subset (by decide) (by decide)) ?_
  have number : IsTree 0 (.int version) := isTree_int shown (by omega)
  simp [FieldSpec.members, toSpec, IsTree.text, IsTree.bool, number]

theorem SchemaSource.isTree_record (source : SchemaSource) {fields : List Data} {version : Nat}
    (versions : List.Forall₂ (fun value field => ∃ version : Nat, version ≤ bound ∧
      value = FieldForm.record field version) fields source.fields) (small : version ≤ bound) :
    IsTree 3 (source.record fields version) := by
  refine Json.isTree_object
    (show AreKeys ["name", "namespace", "fqn", "compact", "fields", "version"] from
      areKeys_of_subset (by decide) (by decide)) ?_
  have number : IsTree 2 (.int version) := isTree_int shown (by omega)
  have parts : IsTree 2 (.list fields) := by
    refine .list fun value valueMem => ?_
    obtain ⟨field, _, version, small, rfl⟩ := Json.forall₂_exists_of_mem versions valueMem
    exact field.isTree_record shown small
  simp [schemaMembers, placeMembers, entry, IsTree.text, IsTree.bool, parts, number]

theorem CollectionSource.isTree_record (source : CollectionSource) {id : Int}
    (small : 0 ≤ id ∧ id ≤ bound) : IsTree 3 (source.record id) := by
  refine Json.isTree_object
    (show AreKeys ["name", "namespace", "fqn", "schema", "key", "id"] from
      areKeys_of_subset (by decide) (by decide)) ?_
  have number : IsTree 2 (.int id) := isTree_int shown small
  have key : IsTree 2 (.list (source.key.map .text)) := by
    refine .list fun value valueMem => ?_
    obtain ⟨name, _, rfl⟩ := List.mem_map.mp valueMem
    exact .text
  simp [collectionMembers, placeMembers, entry, IsTree.text, key, number]

theorem DispatchSource.isTree_record (source : DispatchSource) {id : Int}
    (small : 0 ≤ id ∧ id ≤ bound) : IsTree 3 (source.record id) := by
  refine Json.isTree_object
    (show AreKeys ["name", "namespace", "fqn", "request_type", "id"] from
      areKeys_of_subset (by decide) (by decide)) ?_
  have number : IsTree 2 (.int id) := isTree_int shown small
  simp [dispatchMembers, placeMembers, entry, IsTree.text, number]

end Trees

namespace Manifest

variable {Form : Type} {Record : Nat → Data → Form → Prop} {section_ : String} {bound : Nat}

/-- A manifest with a version has the records of some forms in a section. -/
structure Recorded (Record : Nat → Data → Form → Prop) (section_ : String) (bound : Nat)
    (manifest : Data) (forms : List Form) : Prop where
  /-- The manifest has a version. -/
  version : HasNumber bound manifest "version"
  /-- The section has a record for each form. -/
  records : ∃ items, manifest.get? section_ = some (.list items) ∧
    List.Forall₂ (Record bound) items forms

/-- What is recorded may be told as something else that its records show. -/
theorem Recorded.map {Other : Type} {Shown : Nat → Data → Other → Prop} {image : Form → Other}
    (each : ∀ {value form}, Record bound value form → Shown bound value (image form)) {manifest : Data}
    {forms : List Form} (recorded : Recorded Record section_ bound manifest forms) :
    Recorded Shown section_ bound manifest (forms.map image) := by
  obtain ⟨items, there, records⟩ := recorded.records
  refine ⟨recorded.version, items, there, ?_⟩
  rw [List.forall₂_map_right_iff]
  exact records.imp fun _ _ record => each record

section Composed

variable (keys : AreKeys ["version", section_])
include keys

/-! A manifest is read back with its version and its section. -/

theorem get?_version_reread (version : Int) (items : List Data) :
    (Json.reread layout (compose section_ version items)).get? "version" = some (.int version) :=
  Json.get?_reread [("version", .int version), (section_, .list items)] keys layout "version"

theorem get?_section_reread (version : Int) (items : List Data) :
    (Json.reread layout (compose section_ version items)).get? section_ =
      some (.list (items.map (Json.reread layout))) := by
  have apart : section_ ≠ "version" := fun same => by
    have distinct := keys.distinct
    simp [same] at distinct
  refine (Json.get?_reread [("version", .int version), (section_, .list items)] keys layout section_).trans ?_
  simp [List.lookup_cons, beq_eq_false_iff_ne.mpr apart]

theorem recorded_reread {version : Nat} (small : version ≤ bound) {items : List Data} {forms : List Form}
    (records : List.Forall₂ (fun item form => Record bound (Json.reread layout item) form) items forms) :
    Recorded Record section_ bound (Json.reread layout (compose section_ version items)) forms :=
  ⟨⟨version, small, get?_version_reread keys version items⟩, _, get?_section_reread keys version items,
    List.forall₂_map_left_iff.mpr records⟩

/-- The manifest of a plan has a text that is read back. -/
theorem exists_text_of_trees {version : Nat} (shown : version < Text.leastUnshown) {items : List Data}
    (trees : ∀ item ∈ items, IsTree 3 item) :
    ∃ text, Json.write layout (compose section_ version items) = .ok text ∧ '\r' ∉ (text ++ "\n").toList ∧
      Json.read (text ++ "\n") = .ok (Json.reread layout (compose section_ version items)) := by
  have tree : IsTree 5 (compose section_ version items) := by
    refine Json.isTree_object keys ?_
    have number : IsTree 4 (.int version) := isTree_int shown (by omega)
    simp [number, IsTree.list trees]
  obtain ⟨text, written, unbroken, read⟩ :=
    Json.write_read (Json.isRegular_sortedLines 2) tree (by decide)
  exact ⟨text, written, by simpa using unbroken, read "\n" (by simp [Json.IsGap, Json.isBlank])⟩

end Composed

/-- The manifest at a path is absent and counts as one without entries, or it has the records of some forms
and can be read. -/
inductive OnDisk (Record : Nat → Data → Form → Prop) (section_ : String) (bound : Nat) (files : Files)
    (path : Path) : List Form → Prop
  /-- There is no manifest. -/
  | absent (noText : files.textAt? path.place = none) : OnDisk Record section_ bound files path []
  /-- There is a manifest. -/
  | present {text : String} {manifest : Data} {forms : List Form}
      (found : files.find? path = some (.file text)) (short : files.isTooLong path = false)
      (unbroken : '\r' ∉ text.toList) (isRead : Json.read text = .ok manifest)
      (recorded : Recorded Record section_ bound manifest forms) :
      OnDisk Record section_ bound files path forms

/-- What a stage finds of an earlier manifest. -/
def Earlier (Record : Nat → Data → Form → Prop) (section_ : String) (bound : Nat) :
    Option Data → List Form → Prop
  | none, forms => forms = []
  | some manifest, forms => Recorded Record section_ bound manifest forms

theorem Earlier.entriesIn {previous : Option Data} {forms : List Form}
    (earlier : Earlier Record section_ bound previous forms) :
    EntriesIn (Record bound) section_ previous forms := by
  cases previous with
  | none => exact earlier
  | some manifest => exact earlier.records

theorem Earlier.map {Other : Type} {Shown : Nat → Data → Other → Prop} {image : Form → Other}
    (each : ∀ {value form}, Record bound value form → Shown bound value (image form)) {previous : Option Data}
    {forms : List Form} (earlier : Earlier Record section_ bound previous forms) :
    Earlier Shown section_ bound previous (forms.map image) := by
  cases previous with
  | none => exact List.map_eq_nil_iff.mpr earlier
  | some manifest => exact Recorded.map each earlier

theorem EntriesIn.imp {First Second : Data → Form → Prop} {previous : Option Data} {forms : List Form}
    (weaker : ∀ {value form}, First value form → Second value form)
    (entriesIn : EntriesIn First section_ previous forms) :
    EntriesIn Second section_ previous forms := by
  cases previous with
  | none => exact entriesIn
  | some manifest =>
      obtain ⟨items, there, all⟩ := entriesIn
      exact ⟨items, there, all.imp fun _ _ related => weaker related⟩

theorem loaded_of_absent {files : Files} {path : Path} (noText : files.textAt? path.place = none)
    {previous : Option Data} (isLoaded : loaded files path = .ok previous) : previous = none := by
  have noFile (text : String) : files.find? path ≠ some (.file text) := by
    intro found
    rw [Files.textAt?_of_find? found] at noText
    cases noText
  unfold loaded at isLoaded
  split at isLoaded
  · cases isLoaded
  · split at isLoaded
    · split at isLoaded
      · cases isLoaded
      · next text isRead =>
          unfold Files.read? at isRead
          split at isRead
          · next there => exact (noFile _ there).elim
          · cases isRead
    · exact (Except.ok.inj isLoaded).symm

/-- A manifest that is found is loaded unless its path is too long. -/
theorem loaded_eq_of_found {files : Files} {path : Path} {text : String} {manifest found : Data}
    (there : files.find? path = some (.file text)) (unbroken : '\r' ∉ text.toList)
    (isRead : Json.read text = .ok manifest) {name : String} (member : manifest.get? name = some found) :
    loaded files path =
      if path.isPossible && files.isTooLong path then .error .file else .ok (some manifest) := by
  have content : files.read? path = some text := by
    unfold Files.read?
    rw [there]
    simp [Files.readText_eq unbroken]
  have here : files.exists? path = true := by
    unfold Files.exists?
    rw [there]
    rfl
  unfold loaded
  rw [here, content]
  simp only [isRead]
  cases manifest <;> first | rfl | cases member

theorem loaded_of_found {files : Files} {path : Path} {text : String} {manifest found : Data}
    (there : files.find? path = some (.file text)) (short : files.isTooLong path = false)
    (unbroken : '\r' ∉ text.toList) (isRead : Json.read text = .ok manifest) {name : String}
    (member : manifest.get? name = some found) : loaded files path = .ok (some manifest) := by
  rw [loaded_eq_of_found there unbroken isRead member, short, Bool.and_false]
  rfl

namespace OnDisk

variable {files later : Files} {path : Path} {forms : List Form}

theorem mono {more : Nat} (less : bound ≤ more)
    (each : ∀ {value form}, Record bound value form → Record more value form)
    (onDisk : OnDisk Record section_ bound files path forms) :
    OnDisk Record section_ more files path forms := by
  cases onDisk with
  | absent noText => exact .absent noText
  | present found short unbroken isRead recorded =>
      obtain ⟨items, there, records⟩ := recorded.records
      exact .present found short unbroken isRead
        ⟨recorded.version.mono less, items, there, records.imp fun _ _ record => each record⟩

/-- A manifest stays as it is while the file tree grows elsewhere. -/
theorem grows (onDisk : OnDisk Record section_ bound files path forms) (grows : files.Grows later)
    (same : later.textAt? path.place = files.textAt? path.place) :
    OnDisk Record section_ bound later path forms := by
  cases onDisk with
  | absent noText => exact .absent (same.trans noText)
  | present found short unbroken isRead recorded =>
      obtain ⟨place, resolved, _⟩ := Option.bind_eq_some_iff.mp found
      exact .present (grows.find? found (same.trans (Files.textAt?_of_find? found)))
        ((grows.isTooLong_eq resolved).trans short) unbroken isRead recorded

/-- What is loaded of a manifest. -/
theorem earlier (onDisk : OnDisk Record section_ bound files path forms) {previous : Option Data}
    (isLoaded : loaded files path = .ok previous) : Earlier Record section_ bound previous forms := by
  cases onDisk with
  | absent noText =>
      rw [loaded_of_absent noText isLoaded]
      rfl
  | present found short unbroken isRead recorded =>
      obtain ⟨_, there, _⟩ := recorded.records
      rw [loaded_of_found found short unbroken isRead there] at isLoaded
      obtain rfl := Except.ok.inj isLoaded
      exact recorded

end OnDisk

/-- What becomes of a manifest: it is as it was because of an obstacle, or it has new entries. -/
inductive Outcome (Record : Nat → Data → Form → Prop) (section_ : String) (bound : Nat) (path : Path)
    (files later : Files) (olds : List Form) (obstacle : Prop) (accepted : List Form → Prop) :
    Except Error Unit → Prop
  /-- The manifest is as it was. -/
  | kept {error : Error} (isObstacle : obstacle) (onDisk : OnDisk Record section_ bound later path olds)
      (same : later.textAt? path.place = files.textAt? path.place) :
      Outcome Record section_ bound path files later olds obstacle accepted (.error error)
  /-- The manifest has new entries. -/
  | replaced {news : List Form} (isAccepted : accepted news)
      (onDisk : OnDisk Record section_ bound later path news)
      (isThere : later.textAt? path.place ≠ none) :
      Outcome Record section_ bound path files later olds obstacle accepted (.ok ())

theorem Outcome.imp {path : Path} {files later : Files} {olds : List Form}
    {obstacle more : Prop} {accepted others : List Form → Prop} {outcome : Except Error Unit}
    (weaker : obstacle → more) (wider : ∀ {news}, accepted news → others news)
    (ended : Outcome Record section_ bound path files later olds obstacle accepted outcome) :
    Outcome Record section_ bound path files later olds more others outcome := by
  cases ended with
  | kept isObstacle onDisk same => exact .kept (weaker isObstacle) onDisk same
  | replaced isAccepted onDisk isThere => exact .replaced (wider isAccepted) onDisk isThere

/-- The manifest of a plan is stored with its records, unless its file cannot be opened. -/
theorem OnDisk.stored {files later : Files} {path : Path} {outcome : Except Error Unit}
    {olds : List Form} (news : List Form) {items : List Data} {version : Nat}
    (keys : AreKeys ["version", section_]) (small : version ≤ bound) (shown : bound < Text.leastUnshown)
    (trees : ∀ item ∈ items, IsTree 3 item)
    (records : List.Forall₂ (fun item form => Record bound (Json.reread layout item) form) items news)
    (onDisk : OnDisk Record section_ bound files path olds)
    (stored : Stored path (compose section_ version items) files outcome later) :
    Outcome Record section_ bound path files later olds (opened? files path = none)
      (fun forms => forms = news) outcome := by
  obtain ⟨written, isText, unbroken, isRead⟩ := exists_text_of_trees keys (small.trans_lt shown) trees
  have recorded := recorded_reread keys small records
  cases stored with
  | closed isClosed deepens =>
      exact .kept isClosed (onDisk.grows deepens.toGrows (deepens.textAt? _)) (deepens.textAt? _)
  | emptied isOpened noText =>
      rw [isText] at noText
      cases noText
  | written isOpened sameText isWritten =>
      rw [isText] at sameText
      obtain rfl := Except.ok.inj sameText
      refine .replaced rfl (.present (Files.find?_of_write? isWritten)
        (Files.isTooLong_of_write? isWritten) unbroken isRead recorded) ?_
      rw [Files.textAt?_of_write? isWritten, if_pos rfl]
      simp

end Manifest

end SpecGraph
