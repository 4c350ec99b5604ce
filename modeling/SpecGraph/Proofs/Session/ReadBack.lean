import SpecGraph.Proofs.Session.Fingerprint

/-!
# Manifests and reports are read back

A manifest that was stored is loaded again, and the reports on a builder tell what it declares, however they are
indented. What stands in the way of it are the limits of texts and of readers: an integer with too many digits has no
text, what is nested too deeply is not read, a line is not indented by a number that does not fit in 64 bits, and two
halves of a code point one after the other are read as the code point.
-/

namespace SpecGraph

open Effect
open Json (IsJson IsTree IsSettled IsForm IsIndent Alike Layout reread isForm_text isForm_object)

namespace Manifest

variable {path : Path} {value : Data} {text : String}

/-- A manifest that has a text is stored, if its file can be opened. -/
theorem Stored.found {files later : Files} {outcome : Except Error Unit}
    (stored : Stored path value files outcome later) (opens : opened? files path ≠ none)
    (isText : Json.write layout value = .ok text) :
    outcome = .ok () ∧ later.find? path = some (.file (text ++ "\n")) ∧ later.isTooLong path = false := by
  cases stored with
  | closed closed _ => exact absurd closed opens
  | emptied _ noText => cases noText.symm.trans isText
  | written _ isOther isWritten =>
      cases isOther.symm.trans isText
      exact ⟨rfl, Files.find?_of_write? isWritten, Files.isTooLong_of_write? isWritten⟩

/-- What is loaded from a file is what its text is read as. -/
theorem map_loaded {files : Files} (there : files.find? path = some (.file text)) (short : files.isTooLong path = false)
    (unbroken : '\r' ∉ text.toList) : (loaded files path).map (·.getD .null) = Json.read text := by
  have content : files.read? path = some text := by
    rw [Files.read?, there]
    exact congrArg some (Files.readText_eq unbroken)
  have here : files.exists? path = true := by
    rw [Files.exists?, there]
    rfl
  rw [loaded, short, Bool.and_false, here, content]
  simp only [Bool.false_eq_true, if_false, if_true]
  cases Json.read text with
  | error error => rfl
  | ok manifest => cases manifest <;> rfl

theorem isGap_newline : Json.IsGap "\n".toList := by
  intro blank blankMem
  rw [List.mem_singleton.mp blankMem]
  decide

/-- What was stored is loaded again, but for the order of its keys. -/
theorem load_store (json : IsSettled value) (tree : IsTree Json.mostLevels value) {workspace : Workspace}
    (opens : opened? workspace.files path ≠ none) :
    (perform (store path value) workspace).1 = .ok () ∧
      ∃ manifest, (perform (load path) (perform (store path value) workspace).2).1 = .ok manifest ∧
        Json.Alike (manifest.getD .null) value := by
  rcases Json.write_read (Json.isRegular_sortedLines 2) tree (Nat.le_refl _) with ⟨text, isText, unbroken, reads⟩
  rcases (stored path value workspace).found opens isText with ⟨succeeds, there, short⟩
  refine ⟨succeeds, ?_⟩
  have unbrokenLine : '\r' ∉ (text ++ "\n").toList := by simpa using unbroken
  have isLoaded := map_loaded there short unbrokenLine
  rw [reads "\n" isGap_newline] at isLoaded
  rw [perform_load]
  cases found : loaded (perform (store path value) workspace).2.files path with
  | error error =>
      rw [found] at isLoaded
      cases isLoaded
  | ok manifest =>
      rw [found] at isLoaded
      have isRead : manifest.getD .null = reread layout value := Except.ok.inj isLoaded
      refine ⟨manifest, rfl, ?_⟩
      rw [isRead]
      exact json.alike_reread

end Manifest

theorem Text.isPlain_of_isAscii {characters : List Char} (ascii : Json.IsAscii characters) :
    Text.IsPlain characters := by
  refine ⟨characters, ?_⟩
  induction characters with
  | nil => rfl
  | cons character rest ih =>
      rcases List.forall_mem_cons.mp ascii with ⟨small, others⟩
      have free : ¬Text.isTaken character.toNat = true := by
        simp only [Text.isTaken, Bool.and_eq_true, decide_eq_true_eq]
        omega
      rw [List.flatMap_cons, Text.ofCode_toNat, if_neg free, ← ih others, List.singleton_append]

theorem Sha256.isAscii_hexDigest (message : List UInt8) : Json.IsAscii (Sha256.hexDigest message).toList := by
  have digits (width value : Nat) : Json.IsAscii (Text.hexadecimal Text.lowerHexDigit width value) := by
    have each : ∀ small < 16, (Text.lowerHexDigit small).toNat < 128 := by decide
    induction width generalizing value with
    | zero => exact List.forall_mem_nil _
    | succ width ih => exact (ih _).append (List.forall_mem_singleton.mpr (each _ (Nat.mod_lt _ (by decide))))
  intro character characterMem
  rw [Sha256.hexDigest, String.toList_ofList] at characterMem
  rcases List.mem_flatMap.mp characterMem with ⟨word, _, inWord⟩
  exact digits _ _ character inWord

/-- A builder has a text in every layout, and the text is read back as it is where names are settled. -/
theorem Builder.exists_text {builder : Builder} (typed : builder.graph.IsTyped) {layout : Layout}
    (regular : layout.IsRegular) :
    ∃ text, Json.write layout builder.toData = .ok text ∧ Json.read text = .ok (reread layout builder.toData) := by
  have form : IsForm 990 builder.toData := Builder.isForm_toData typed
  rcases Json.write_read regular form.tree (Nat.le_refl _) with ⟨text, isText, _, reads⟩
  have atEnd := reads "" (by simp [Json.IsGap])
  rw [String.append_empty] at atEnd
  exact ⟨text, isText, atEnd⟩

section Asked

variable {world : World} {index : BuilderIndex} {number : Nat} {builder : Builder}
  (named : (perform (Run.numberOf index) world).1 = .ok number) (found : world.builders[number]? = some builder)
include named found

theorem Run.perform_builder_numberOf {report : Builder → Run Data} :
    perform (Run.numberOf index >>= fun number => Run.builder number >>= report) world =
      perform (report builder) world := by
  have isNumber : perform (Run.numberOf index) world = (.ok number, world) :=
    Prod.ext named (Run.still_numberOf index world)
  rw [perform_bind_of_ok isNumber, perform_bind_of_ok (Run.perform_builder found)]

theorem Command.perform_toJson_of_write {indent : Data} {layout : Layout} {text : String}
    (isLayout : Layout.indentedBy indent = .ok layout) (isText : Json.write layout builder.toData = .ok text) :
    perform (Command.toJson index indent).run world = (.ok (.text text), world) := by
  refine (Run.perform_builder_numberOf named found).trans ?_
  rw [isLayout]
  change perform (Run.ofFault (Json.write layout builder.toData) >>= _) world = _
  rw [isText]
  rfl

end Asked

section Reports

variable {builder : Builder} (typed : builder.graph.IsTyped) (settled : builder.toData.allTexts Text.isSettled = true)
include typed settled

theorem Builder.isSettled_toData : IsSettled builder.toData := by
  have form : IsForm 7 builder.toData := Builder.isForm_toData typed
  exact form.isSettled settled

/-- The fingerprint is a text without halves of code points. -/
theorem Builder.exists_fingerprint :
    ∃ fingerprint, builder.fingerprint = .ok fingerprint ∧ Text.joined fingerprint = fingerprint := by
  have ofGraph : builder.graph.toData.allTexts Text.isSettled = true := by
    simp only [Builder.toData, Data.allTexts_object, List.forall_mem_cons] at settled
    exact settled.2.1.2
  rcases (typed.isSettled_fingerprinted ofGraph).exists_canonical with ⟨text, isText⟩
  refine ⟨_, Data.fingerprint_of_canonical isText, Text.joined_of_isPlain (Text.isPlain_of_isAscii ?_)⟩
  rw [String.toList_append]
  exact (Json.isAscii_of_all (by decide)).append (Sha256.isAscii_hexDigest _)

/-- A snapshot is read back as the fingerprint and the declarations, but for the order of keys. -/
theorem Builder.exists_snapshot {fingerprint : String} (isFingerprint : builder.fingerprint = .ok fingerprint)
    (isSettled : Text.joined fingerprint = fingerprint) :
    ∃ text read, builder.snapshot .json = .ok text ∧ Json.read text = .ok read ∧
      Alike read (.object [("fingerprint", .text fingerprint), ("declarations", builder.toData)]) := by
  let told : Data := .object [("fingerprint", .text fingerprint), ("declarations", builder.toData)]
  have keys : Json.AreKeys ["fingerprint", "declarations"] := by decide +kernel
  have form : IsForm 990 told := by
    refine isForm_object keys ?_
    simp only [List.forall_mem_cons]
    exact ⟨isForm_text _, Builder.isForm_toData typed, List.forall_mem_nil _⟩
  have texts : told.allTexts Text.isSettled = true := by
    simp only [told, Data.allTexts_object, List.forall_mem_cons, Data.allTexts_text]
    exact ⟨⟨by decide +kernel, beq_iff_eq.mpr isSettled⟩, ⟨by decide +kernel, settled⟩, List.forall_mem_nil _⟩
  have json : IsSettled told := form.isSettled texts
  rcases Json.write_read (Json.isRegular_sortedLines 2) form.tree (Nat.le_refl _) with ⟨text, isText, _, reads⟩
  refine ⟨text, reread (.sortedLines 2) told, ?_, ?_, json.alike_reread⟩
  · have isTold : builder.snapshotData = .ok told := by
      rw [snapshotData, isFingerprint]
      rfl
    rw [snapshot, isTold]
    exact (pure_bind told _).trans isText
  · have atEnd := reads "" (by simp [Json.IsGap])
    rwa [String.append_empty] at atEnd

variable {world : World} {index : BuilderIndex} {number : Nat}
  (named : (perform (Run.numberOf index) world).1 = .ok number) (found : world.builders[number]? = some builder)
include named found

/-- The text of a builder, however it is indented, is read back as the builder. -/
theorem Command.perform_toJson {indent : Data} (isIndent : IsIndent indent) :
    ∃ text, perform (Command.toJson index indent).run world = (.ok (.text text), world) ∧
      Json.read text = .ok builder.toData := by
  rcases isIndent.exists_layout with ⟨layout, isLayout, regular, unsorted⟩
  rcases Builder.exists_text typed regular with ⟨text, isText, isRead⟩
  rw [(Builder.isSettled_toData typed settled).reread_eq unsorted] at isRead
  exact ⟨text, Command.perform_toJson_of_write named found isLayout isText, isRead⟩

/-- The snapshot of a builder is read back as its fingerprint and the builder. -/
theorem Command.perform_snapshot :
    ∃ fingerprint text read,
      perform (Command.fingerprint index).run world = (.ok (.text fingerprint), world) ∧
      perform (Command.snapshot index .json).run world = (.ok (.text text), world) ∧ Json.read text = .ok read ∧
      Alike read (.object [("fingerprint", .text fingerprint), ("declarations", builder.toData)]) := by
  rcases Builder.exists_fingerprint typed settled with ⟨fingerprint, isFingerprint, isSettled⟩
  rcases Builder.exists_snapshot typed settled isFingerprint isSettled with ⟨text, read, isText, isRead, alike⟩
  refine ⟨fingerprint, text, read, (Run.perform_builder_numberOf named found).trans ?_,
    (Run.perform_builder_numberOf named found).trans ?_, isRead, alike⟩
  · rw [isFingerprint]
    rfl
  · rw [isText]
    rfl

end Reports

/-- What is written as JSON is read back as what it was written from. A tree of JSON that is stored as a manifest is
loaded again, but for the order of its keys, if its integers have not too many digits, it is nested not too deeply and
its file can be opened. A builder whose flags are truth values, whose names are texts and whose texts are settled is
read back from its text, however that is indented, and from its snapshot, together with its fingerprint. -/
theorem texts_read_back :
    (∀ (path : Path) (value : Data) (workspace : Workspace),
      IsJson (Text.isShowable · = true) (fun text => Text.IsPlain text.toList) value →
      IsTree Json.mostLevels value → Manifest.opened? workspace.files path ≠ none →
      (perform (Manifest.store path value) workspace).1 = .ok () ∧
      ∃ manifest, (perform (Manifest.load path) (perform (Manifest.store path value) workspace).2).1 = .ok manifest ∧
        Alike (manifest.getD .null) value) ∧
    ∀ (world : World) (index : BuilderIndex) (number : Nat) (builder : Builder),
      (perform (Run.numberOf index) world).1 = .ok number → world.builders[number]? = some builder →
      builder.graph.IsTyped → builder.toData.allTexts Text.isSettled = true →
      (∀ indent, IsIndent indent → ∃ text,
        perform (Command.toJson index indent).run world = (.ok (.text text), world) ∧
        Json.read text = .ok builder.toData) ∧
      ∃ fingerprint text read,
        perform (Command.fingerprint index).run world = (.ok (.text fingerprint), world) ∧
        perform (Command.snapshot index .json).run world = (.ok (.text text), world) ∧ Json.read text = .ok read ∧
        Alike read (.object [("fingerprint", .text fingerprint), ("declarations", builder.toData)]) := by
  constructor
  · intro path value workspace json tree opens
    have settled : IsSettled value := json.imp (fun _ isSuch => isSuch) fun _ => Text.joined_of_isPlain
    exact Manifest.load_store settled tree opens
  · intro world index number builder named found typed settled
    constructor
    · intro indent isIndent
      exact Command.perform_toJson typed settled named found isIndent
    · exact Command.perform_snapshot typed settled named found

namespace Manifest

variable {path : Path} {workspace : Workspace}

/-- An integer with too many digits is not stored. -/
theorem store_int_ne {value : Int} (unshown : Text.isShowable value = false) :
    (perform (store path (.int value)) workspace).1 ≠ .ok () := by
  intro succeeds
  have stored := stored path (.int value) workspace
  rw [succeeds] at stored
  cases stored with
  | written _ isText _ =>
      have shown := (Json.hasText_of_write isText).isShowable
      rw [unshown] at shown
      cases shown

/-- A list of too many levels is stored but not loaded. -/
theorem load_nested_ne (opens : opened? workspace.files path ≠ none) {levels : Nat} (deep : Json.mostLevels < levels)
    (manifest : Option Data) :
    (perform (load path) (perform (store path (Json.nested levels)) workspace).2).1 ≠ .ok manifest := by
  intro isLoaded
  have regular := Json.isRegular_sortedLines 2
  rcases Json.exists_written regular (Json.isTree_nested levels) 0 with ⟨characters, isWritten, reads⟩
  have isText : Json.write layout (Json.nested levels) = .ok (String.ofList characters) := by
    rw [Json.write, Json.writeCharacters, layout, isWritten]
    rfl
  rcases (stored path _ workspace).found opens isText with ⟨_, there, short⟩
  have unbroken : '\r' ∉ (String.ofList characters ++ "\n").toList := by simpa using reads.unbroken
  have isRead := map_loaded there short unbroken
  rw [perform_load] at isLoaded
  dsimp only at isLoaded
  rw [isLoaded] at isRead
  exact Json.read_nested_ne regular deep isText "\n" _ isRead.symm

end Manifest

section Examples

open Session (Declares declared)
open History

/-- A file in the folder that the file tree starts with. -/
def manifestPath : Path := Path.parse "manifest.json"

/-- A file tree without files, and an empty log. -/
def emptyWorkspace : Workspace := ⟨Files.empty, []⟩

theorem opens_manifestPath : Manifest.opened? emptyWorkspace.files manifestPath ≠ none :=
  Option.isSome_iff_ne_none.mp (by decide +kernel)

/-- A mapping whose keys are not in order. -/
def unordered : Data := .object [("text", .text "é"), ("one", .int 1)]

theorem Session.Declares.perform_numberOf {steps : List Step} {count number : Nat} (declares : Declares steps count)
    (less : number < count) :
    Effect.perform (Run.numberOf (.int number)) (declared steps) = (.ok number, declared steps) := by
  apply Run.perform_numberOf
  rw [declares.scope, List.getElem?_range less]

/-- A mapping is stored and loaded, and the declarations of a builder are read back. -/
theorem texts_read_back_growing :
    (perform (Manifest.store manifestPath unordered) emptyWorkspace).1 = .ok () ∧
    (∃ manifest, (perform (Manifest.load manifestPath)
        (perform (Manifest.store manifestPath unordered) emptyWorkspace).2).1 = .ok manifest ∧
      Alike (manifest.getD .null) unordered) ∧
    ∃ builder text, (declared growing).builders[0]? = some builder ∧ IsIndent (.int 2) ∧
      perform (Command.toJson (.int 0) (.int 2)).run (declared growing) = (.ok (.text text), declared growing) ∧
      Json.read text = .ok builder.toData := by
  have one : Text.isShowable 1 = true := by decide +kernel
  have json : IsJson (Text.isShowable · = true) (fun text => Text.IsPlain text.toList) unordered :=
    .object (List.forall_mem_cons.mpr ⟨.text ⟨['é'], rfl⟩, List.forall_mem_singleton.mpr (.int one)⟩)
      (List.forall_mem_cons.mpr ⟨⟨"text".toList, rfl⟩, List.forall_mem_singleton.mpr ⟨"one".toList, rfl⟩⟩) (by simp)
  have tree : IsTree (Json.mostLevels - 1 + 1) unordered :=
    .object (List.forall_mem_cons.mpr ⟨.text, List.forall_mem_singleton.mpr (.int one)⟩) (by decide +kernel)
  rcases texts_read_back.1 manifestPath unordered emptyWorkspace json tree opens_manifestPath with ⟨stored, loaded⟩
  refine ⟨stored, loaded, ?_⟩
  rcases declares_growing.exists_ready (by decide : 0 < 2) with ⟨builder, ready⟩
  have settled : (declared growing).builders[0]?.any (fun builder => builder.toData.allTexts Text.isSettled) =
      true := by
    decide +kernel
  rw [ready.found, Option.any_some] at settled
  have named := congrArg Prod.fst (declares_growing.perform_numberOf (by decide : 0 < 2))
  have isIndent : IsIndent (.int 2) := Or.inr ⟨2, rfl, by decide⟩
  rcases (texts_read_back.2 _ _ 0 builder named ready.found ready.populated.isPlain.isTyped settled).1 _ isIndent with
    ⟨text, isText, isRead⟩
  exact ⟨builder, text, ready.found, isIndent, isText, isRead⟩

/-- What is not read back: an integer with too many digits and a list of too many levels, and of the reports on a
builder one that is to be indented by too small a number, and one of a name with both halves of a code point. -/
theorem text_lost_halved :
    Manifest.opened? emptyWorkspace.files manifestPath ≠ none ∧
    (∃ value, IsJson (fun _ => True) (fun text => Text.IsPlain text.toList) value ∧
      (perform (Manifest.store manifestPath value) emptyWorkspace).1 ≠ .ok ()) ∧
    (∃ value, IsJson (Text.isShowable · = true) (fun text => Text.IsPlain text.toList) value ∧
      ∀ manifest, (perform (Manifest.load manifestPath)
        (perform (Manifest.store manifestPath value) emptyWorkspace).2).1 ≠ .ok manifest) ∧
    ∃ builder text read, (declared halved).builders[0]? = some builder ∧ builder.graph.IsTyped ∧
      (perform (Command.toJson (.int 0) (.int (-100000000000000000000))).run (declared halved)).1 =
        .error (.fault .notFinite) ∧
      perform (Command.toJson (.int 0) (.int 2)).run (declared halved) = (.ok (.text text), declared halved) ∧
      Json.read text = .ok read ∧ read ≠ builder.toData := by
  have unshown : Text.isShowable ((10 : Int) ^ 4300) = false := by decide +kernel
  refine ⟨opens_manifestPath, ⟨.int (10 ^ 4300), .int trivial, Manifest.store_int_ne unshown⟩, ?_, ?_⟩
  · exact ⟨Json.nested 991, Json.isJson_nested 991, Manifest.load_nested_ne opens_manifestPath (by decide)⟩
  · rcases declares_halved.exists_ready Nat.zero_lt_one with ⟨builder, ready⟩
    have named := congrArg Prod.fst (declares_halved.perform_numberOf Nat.zero_lt_one)
    have evaluated : (declared halved).builders[0]?.any (fun builder => builder.toData.same builder.toData &&
        !(reread (.lines 2) builder.toData).same builder.toData) = true := by
      decide +kernel
    rw [ready.found, Option.any_some, Bool.and_eq_true, Bool.not_eq_true'] at evaluated
    have typed := ready.populated.isPlain.isTyped
    rcases Builder.exists_text typed (Json.isRegular_lines 2) with ⟨text, isText, isRead⟩
    refine ⟨builder, text, _, ready.found, typed, ?_, ?_, isRead, fun same => ?_⟩
    · exact congrArg Prod.fst (Run.perform_builder_numberOf named ready.found)
    · exact Command.perform_toJson_of_write named ready.found rfl isText
    · rw [same, evaluated.1] at evaluated
      cases evaluated.2

end Examples

end SpecGraph
