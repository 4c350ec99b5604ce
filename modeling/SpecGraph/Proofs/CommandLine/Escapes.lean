import SpecGraph.CommandLine.Basic
import SpecGraph.Proofs.Document.Unread

/-!
# Errors that the command line hands on

The command line tells an invalid document and a failed build from what it hands on: it ends with code 1 for these. A
document without problems can still declare something twice, and a graph can hold a reference that cannot be read. So
an error of the package is handed on in two cases, and only in these: when a document without problems is loaded that
gives a name twice, and when such a document is to be validated that nests a schema in a field whose name has an empty
segment.
-/

namespace SpecGraph

open Effect

/-- No two schemas of a document have one name, and no two dispatches. -/
def Document.IsDistinct (document : Document) : Prop :=
  (document.names .schema).Nodup ∧ (document.names .dispatch).Nodup

instance (document : Document) : Decidable document.IsDistinct :=
  inferInstanceAs (Decidable ((document.names .schema).Nodup ∧ (document.names .dispatch).Nodup))

namespace Run

variable {α : Type} {such : Error → Prop}

theorem failsOnly_ofJob {job : Job α} (fails : Effect.FailsOnly such job) : Effect.FailsOnly such (ofJob job) := by
  intro world
  rw [perform_ofJob]
  exact fails world.workspace

theorem failsOnly_ofFault (result : Except Fault α) : Effect.FailsOnly Error.IsForeign (ofFault result) := by
  cases result with
  | ok value => exact failsOnly_pure value
  | error fault => exact failsOnly_throw rfl

theorem failsOnly_builder (number : Nat) : Effect.FailsOnly Error.IsForeign (builder number) := by
  refine failsOnly_bind failsOnly_get fun world => ?_
  split
  · exact failsOnly_pure _
  · exact failsOnly_throw rfl

end Run

namespace CommandLine

section Loading

/-- There is a file at a path, and its text gives a value: as JSON if its name says so, and as YAML otherwise. -/
structure Gives (world : World) (path : String) (value : Data) : Prop where
  named : path ≠ ""
  possible : (Path.parse path).isPossible = true
  read : ∃ text, world.workspace.files.read? (Path.parse path) = some text ∧
    (if (Path.parse path).suffix = ".json" then Json.read text else Yaml.read world.readings text) = .ok value

/-- What comes of loading a document from a value into the builder of a number. -/
inductive Loads (value : Data) (number : Nat) : Except Error Nat → World → Prop where
  /-- The value gives no document without problems. -/
  | refused {error : Error} {after : World}
      (invalid : ∀ document, Document.ofData value = .ok document → document.problems ≠ .ok [])
      (told : error.IsForeign ∨ error.IsOfDocument) : Loads value number (.error error) after
  /-- The document gives a name twice. -/
  | repeated {document : Document} {kind : DeclarationKind} {name : Data} {after : World}
      (read : Document.ofData value = .ok document) (valid : document.problems = .ok [])
      (repeats : ¬document.IsDistinct) : Loads value number (.error (.duplicate kind name none)) after
  /-- The builder has the graph of the document. -/
  | declared {document : Document} {builder : Builder} {after : World}
      (read : Document.ofData value = .ok document) (valid : document.problems = .ok [])
      (distinct : document.IsDistinct) (found : after.builders[number]? = some builder)
      (flat : builder.graph = document.flatten) : Loads value number (.ok number) after

variable {world : World} {path : String} {value : Data}

/-- A builder is made for a root of the command line whatever it is. -/
theorem createBuilder_eq (root : Option String) (settings : Settings) :
    ∃ specRoot, Run.createBuilder (rootData root) settings none =
      Run.addBuilder (Builder.create specRoot settings none) := by
  cases root with
  | none => exact ⟨Path.parse settings.specRoot, rfl⟩
  | some text =>
      by_cases isEmpty : text = ""
      · subst isEmpty
        exact ⟨Path.parse settings.specRoot, rfl⟩
      · refine ⟨Path.parse text, ?_⟩
        have isGiven : (rootData (some text)).isTruthy = true := bne_iff_ne.mpr isEmpty
        simp only [Run.createBuilder, isGiven]
        rfl

/-- The document is read from the value in the file, and nothing changes. -/
theorem Gives.perform_load (gives : Gives world path value) :
    Effect.perform (Document.load world.readings (Path.parse path)) world.workspace =
      (Document.ofData value, world.workspace) := by
  rcases gives.read with ⟨text, isText, isValue⟩
  have isDocument : (if (Path.parse path).suffix = ".json" then Document.ofJson text
      else Document.ofYaml world.readings text) = Document.ofData value := by
    simp only [Document.ofJson, Document.ofYaml, Document.ofJsonWithin, Document.ofYamlWithin, Document.ofData]
    split at isValue
    next isJson => rw [if_pos isJson, isValue, Manifest.ok_bind]
    next notJson => rw [if_neg notJson, isValue, Manifest.ok_bind]
  rcases Manifest.perform_ensurePossible (Path.parse path) world.workspace with ⟨_, ensured⟩ | ⟨impossible, _⟩
  · rw [Document.load, perform_bind_of_ok ensured, perform_bind_of_ok (perform_get _), isText]
    dsimp only
    rw [isDocument]
    cases Document.ofData value with
    | ok document => rfl
    | error error => rfl
  · cases gives.possible.symm.trans impossible

/-- A document is loaded by declaring it in a new builder. -/
theorem Gives.perform_loadFile (gives : Gives world path value) (root : Option String) (settings : Settings) :
    ∃ opened builder, opened.builders[world.builders.length]? = some builder ∧ builder.frozen = false ∧
      builder.graph = Graph.initial ∧
      Effect.perform (loadFile path root settings) world =
        Effect.perform (do
          let document ← Run.ofExcept (Document.ofData value)
          document.apply world.builders.length
          return world.builders.length) opened := by
  rcases createBuilder_eq root settings with ⟨specRoot, isMade⟩
  let builder := Builder.create specRoot settings none
  let opened : World :=
    { world with
      builders := world.builders ++ [builder]
      waiting := world.waiting ++ [world.builders.length]
      scope := world.scope ++ [world.builders.length]
      readings := world.readings + 1 }
  refine ⟨opened, builder, List.getElem?_concat_length, rfl, rfl, ?_⟩
  have loads : Effect.perform (Run.ofJob (Document.load world.readings (Path.parse path))) opened =
      (Document.ofData value, opened) := by
    rw [Run.perform_ofJob, gives.perform_load]
  have adds : Effect.perform (Run.addBuilder builder) world =
      (.ok world.builders.length, { opened with readings := world.readings }) := rfl
  have counts : Effect.perform Run.nextReading { opened with readings := world.readings } =
      (.ok world.readings, opened) := rfl
  rw [loadFile, isMade, perform_bind_of_ok adds, perform_bind_of_ok counts]
  cases read : Document.ofData value with
  | ok document =>
      rw [read] at loads
      rw [perform_bind_of_ok loads]
      rfl
  | error error =>
      rw [read] at loads
      rw [perform_bind_of_error loads]
      rfl

/-- A document with problems is refused with its own error or one from outside the package. -/
theorem refused_apply {document : Document} (invalid : document.problems ≠ .ok []) (number : Nat) (world : World) :
    ∃ error, Effect.perform (document.apply number) world = (.error error, world) ∧
      (error.IsForeign ∨ error.IsOfDocument) := by
  simp only [Document.apply]
  cases told : document.problems with
  | error error => exact ⟨error, rfl, Or.inl (Document.failsOnly_problems document error told)⟩
  | ok problems =>
      cases problems with
      | nil => exact (invalid told).elim
      | cons problem rest => exact ⟨.document (.invalid (problem :: rest)), rfl, Or.inr ⟨_, rfl⟩⟩

/-- Loading a document comes to one of three ends. -/
theorem Gives.loads (gives : Gives world path value) (root : Option String) (settings : Settings) :
    Loads value world.builders.length (Effect.perform (loadFile path root settings) world).1
      (Effect.perform (loadFile path root settings) world).2 := by
  rcases gives.perform_loadFile root settings with ⟨opened, builder, found, isOpen, isNew, performed⟩
  rw [performed]
  cases read : Document.ofData value with
  | error error =>
      refine .refused (fun document isDocument => ?_) (Document.failsOnly_ofData value error read)
      cases read.symm.trans isDocument
  | ok document =>
      change Loads value _ (Effect.perform (document.apply _ >>= fun _ => pure _) opened).1
        (Effect.perform (document.apply _ >>= fun _ => pure _) opened).2
      by_cases valid : document.problems = .ok []
      · rcases Document.apply_eq_flatten read valid found isOpen isNew with
          ⟨outcome, after, applied, distinct, told, flat⟩
        rcases told with rfl | ⟨kind, name, rfl⟩
        · rw [perform_bind_of_ok applied]
          rcases flat rfl with ⟨later, there, rfl, _⟩
          exact .declared read valid (distinct.mp rfl) there rfl
        · rw [perform_bind_of_error applied]
          refine .repeated read valid fun isDistinct => ?_
          cases distinct.mpr isDistinct
      · rcases refused_apply valid world.builders.length opened with ⟨error, applied, told⟩
        rw [perform_bind_of_error applied]
        refine .refused (fun other isOther => ?_) told
        cases read.symm.trans isOther
        exact valid

end Loading

section Tasks

/-- What a task does, without what the command line makes of its errors. -/
def work (arguments : Arguments) (number : Nat) : Run Unit :=
  match arguments.task with
  | .build => Run.finalize number
  | .snapshot => discard (snapshot number arguments.format arguments.output)
  | .validate => discard (validate number)
  | .check => discard (check number)

/-- How the command line ends with the result of its run. -/
def endingOf (result : Except Error Verdict) : Ending :=
  match result with
  | .ok verdict => (verdict.code.map Ending.exit).getD .done
  | .error error => .failed error

/-- An ending stands for what was raised: no error of the package is handed on, and for each there is code 1. -/
structure Handles (ending : Ending) (raised : Except Error Unit) : Prop where
  stays : ∀ error, ending = .failed error → error.isPackageError = false
  told : ∀ error, raised = .error error → error.isPackageError = true → ending = .exit 1

theorem eq_error_of_endingOf {result : Except Error Verdict} {error : Error}
    (failed : endingOf result = .failed error) : result = .error error := by
  cases result with
  | error other =>
      cases failed
      rfl
  | ok verdict =>
      simp only [endingOf] at failed
      cases isCode : verdict.code with
      | none =>
          rw [isCode] at failed
          cases failed
      | some code =>
          rw [isCode] at failed
          cases failed

/-- Where no error of the package comes up, there is none to handle. -/
theorem handles_of_foreign {result : Except Error Verdict} {raised : Except Error Unit}
    (fails : SpecGraph.FailsOnly Error.IsForeign result) (raises : SpecGraph.FailsOnly Error.IsForeign raised) :
    Handles (endingOf result) raised := by
  constructor
  · intro error failed
    exact (fails error (eq_error_of_endingOf failed)).isPackageError
  · intro error isRaised isPackage
    cases (raises error isRaised).isPackageError.symm.trans isPackage

theorem failsOnly_discard {σ α : Type} {such : Error → Prop} {effect : Effect σ α}
    (fails : Effect.FailsOnly such effect) : Effect.FailsOnly such (discard effect) := by
  rw [discard_eq]
  exact failsOnly_bind fails fun _ => failsOnly_pure _

variable {number : Nat}

theorem failsOnly_snapshot (format : Builder.SnapshotFormat) (output : Option String) :
    Effect.FailsOnly Error.IsForeign (snapshot number format output) := by
  refine failsOnly_bind (Run.failsOnly_builder number) fun builder => ?_
  refine failsOnly_bind (Run.failsOnly_ofFault _) fun text => ?_
  split
  · exact failsOnly_pure _
  · exact failsOnly_pure _
  · exact failsOnly_bind (Run.failsOnly_ofJob (Job.failsOnly_replaceFiles _ _)) fun _ => failsOnly_pure _

theorem failsOnly_check : Effect.FailsOnly Error.IsForeign (check number) := by
  refine failsOnly_bind (Run.failsOnly_builder number) fun builder => ?_
  refine failsOnly_bind (Run.failsOnly_ofJob builder.failsOnly_changes) fun changes => ?_
  dsimp only
  split
  · exact failsOnly_pure _
  · exact failsOnly_pure _

theorem failsOnly_build : Effect.FailsOnly (fun error => error.isPackageError = false) (build number) := by
  apply failsOnly_tryCatch
  intro error
  split
  · exact failsOnly_pure _
  next notPackage => exact failsOnly_throw (Bool.eq_false_of_not_eq_true notPackage)

/-- A failed build ends with code 1. -/
theorem handles_build (world : World) :
    Handles (endingOf (Effect.perform (build number) world).1) (Effect.perform (Run.finalize number) world).1 := by
  constructor
  · intro error failed
    exact failsOnly_build world error (eq_error_of_endingOf failed)
  · intro error isRaised isPackage
    rcases performed : Effect.perform (Run.finalize number) world with ⟨outcome, after⟩
    rw [performed] at isRaised
    obtain rfl : outcome = .error error := isRaised
    rw [build, perform_tryCatch, perform_bind_of_error performed]
    dsimp only
    rw [if_pos isPackage]
    rfl

/-- A builder with the graph of a document is validated without an error exactly if the names of the fields of nested
schemas have no empty segment. -/
theorem handles_validate_iff {document : Document} (valid : document.IsValid) {world : World} {builder : Builder}
    (found : world.builders[number]? = some builder) (flat : builder.graph = document.flatten) :
    Handles (endingOf (Effect.perform (validate number) world).1)
        (Effect.perform (discard (validate number)) world).1 ↔
      ∀ name ∈ document.nestedNames, Name.IsWhole name := by
  have failsOnly := Document.failsOnly_flattenProblems valid
  rw [← Document.exists_flattenProblems_iff valid]
  rw [← flat] at failsOnly ⊢
  cases problems : builder.graph.problems with
  | ok messages =>
      refine iff_of_true ?_ ⟨messages, rfl⟩
      have performed : ∃ verdict, Effect.perform (validate number) world = (.ok verdict, world) := by
        rw [validate, perform_bind_of_ok (Run.perform_builder found), problems]
        cases messages with
        | nil => exact ⟨_, rfl⟩
        | cons message rest => exact ⟨_, rfl⟩
      rcases performed with ⟨verdict, performed⟩
      rw [discard_eq, perform_bind_of_ok performed, performed]
      exact handles_of_foreign (failsOnly_ok verdict) (failsOnly_ok _)
  | error error =>
      have performed : Effect.perform (validate number) world = (.error error, world) := by
        rw [validate, perform_bind_of_ok (Run.perform_builder found), problems]
        rfl
      refine iff_of_false (fun handles => ?_) nofun
      rcases failsOnly error problems with ⟨reference, fault, rfl⟩
      rw [performed] at handles
      cases handles.stays _ rfl

end Tasks

section Runs

/-- A document without problems gives a name twice, or it is to be validated and nests a schema in a field whose name
has an empty segment. -/
def Escapes (task : Task) (value : Data) : Prop :=
  ∃ document, Document.ofData value = .ok document ∧ document.problems = .ok [] ∧
    (¬document.IsDistinct ∨ task = .validate ∧ ∃ name ∈ document.nestedNames, ¬Name.IsWhole name)

/-- What is raised where declarations are loaded and a task is carried out on them. Nothing is loaded if the log cannot
be handled. -/
def raised (modules : Modules) (settings : Settings) (arguments : Arguments) (world : World) : Except Error Unit :=
  match settings.handler with
  | .error _ => .ok ()
  | .ok _ =>
      (Effect.perform (load modules arguments.source arguments.root settings >>= work arguments) world).1

/-- Of what loading raises only the error of a document is handled. -/
theorem perform_execute (modules : Modules) (settings : Settings) (arguments : Arguments) (world : World) :
    Effect.perform (execute modules settings arguments) world =
      match Effect.perform (load modules arguments.source arguments.root settings) world with
      | (.ok number, after) => Effect.perform (perform arguments number) after
      | (.error (.document fault), after) => (.ok (rejection fault), after)
      | (.error error, after) => (.error error, after) := by
  rw [execute, perform_bind, perform_tryCatch, map_eq_pure_bind, perform_bind]
  rcases Effect.perform (load modules arguments.source arguments.root settings) world with ⟨outcome, after⟩
  cases outcome with
  | ok number => rfl
  | error error => cases error <;> rfl

variable {modules : Modules} {settings : Settings} {arguments : Arguments} {world : World} {path : String}
  {value : Data}

/-- The task on a builder with the graph of a valid document handles every error but that of a reference. -/
theorem handles_task_iff {document : Document} (valid : document.IsValid) {number : Nat} {builder : Builder}
    (found : world.builders[number]? = some builder) (flat : builder.graph = document.flatten) :
    Handles (endingOf (Effect.perform (perform arguments number) world).1)
        (Effect.perform (work arguments number) world).1 ↔
      ¬(arguments.task = .validate ∧ ∃ name ∈ document.nestedNames, ¬Name.IsWhole name) := by
  rcases arguments with ⟨task, source, root, format, output⟩
  cases task with
  | build => exact iff_of_true (handles_build world) fun escapes => nomatch escapes.1
  | snapshot =>
      refine iff_of_true (handles_of_foreign ?_ ?_) fun escapes => nomatch escapes.1
      · exact failsOnly_snapshot format output world
      · exact failsOnly_discard (failsOnly_snapshot format output) world
  | check =>
      refine iff_of_true (handles_of_foreign ?_ ?_) fun escapes => nomatch escapes.1
      · exact failsOnly_check world
      · exact failsOnly_discard failsOnly_check world
  | validate =>
      refine (handles_validate_iff valid found flat).trans ?_
      simp only [true_and, not_exists, not_and, not_not]

theorem Gives.handles_execute_iff (gives : Gives world path value) (isFile : arguments.source = .ofFile path) :
    Handles (endingOf (Effect.perform (execute modules settings arguments) world).1)
        (Effect.perform (load modules arguments.source arguments.root settings >>= work arguments) world).1 ↔
      ¬Escapes arguments.task value := by
  have isLoad : load modules arguments.source arguments.root settings =
      loadFile path arguments.root settings := by
    rw [isFile, load, if_neg gives.named]
  have loads := gives.loads arguments.root settings
  rw [perform_execute, isLoad, perform_bind]
  rcases loaded : Effect.perform (loadFile path arguments.root settings) world with ⟨outcome, after⟩
  rw [loaded] at loads
  cases loads with
  | refused invalid told =>
      refine iff_of_true ?_ fun ⟨document, read, valid, _⟩ => invalid document read valid
      rcases told with isForeign | ⟨fault, rfl⟩
      · refine handles_of_foreign ?_ (failsOnly_error isForeign)
        split
        next impossible => cases impossible
        next => exact failsOnly_ok _
        next same =>
          cases same
          exact failsOnly_error isForeign
      · refine ⟨fun error failed => ?_, fun _ _ _ => rfl⟩
        cases failed
  | repeated read valid repeats =>
      refine iff_of_false (fun handles => ?_) fun stays => stays ⟨_, read, valid, Or.inl repeats⟩
      cases handles.stays _ rfl
  | declared read valid distinct found flat =>
      have isValid := Document.isValid_of_problems (Document.isRead_of_ofData read) valid
      refine (handles_task_iff isValid found flat).trans ?_
      refine not_congr ⟨fun escapes => ⟨_, read, valid, Or.inr escapes⟩, ?_⟩
      rintro ⟨other, isOther, _, repeats | escapes⟩
      · cases read.symm.trans isOther
        exact (repeats distinct).elim
      · cases read.symm.trans isOther
        exact escapes

/-- The command line handles all errors of the package exactly if a document without problems gives no name twice and,
where it is to be validated, nests no schema in a field whose name has an empty segment. -/
theorem errors_handled_iff (modules : Modules) {environment : List (String × String)} (time : String)
    {words : List String} (parsed : Arguments.parse words = .ok arguments) (isFile : arguments.source = .ofFile path)
    (accepted : Settings.load world.workspace.files environment [] = .ok settings) (gives : Gives world path value) :
    Handles (run modules environment time words world).1.ending (raised modules settings arguments world) ↔
      ¬(settings.handler.isOk = true ∧ Escapes arguments.task value) := by
  simp only [run, parsed, accepted, raised]
  cases settings.handler with
  | error fault =>
      refine iff_of_true ⟨?_, ?_⟩ ?_
      · intro error failed
        cases failed
        rfl
      · intro error isError
        cases isError
      · rintro ⟨isHandled, _⟩
        cases isHandled
  | ok handler =>
      have ends : (runTask modules settings handler time arguments world).1.ending =
          endingOf (Effect.perform (execute modules settings arguments) world).1 := by
        unfold runTask Effect.perform
        rcases (execute modules settings arguments).run.run world with ⟨outcome, after⟩
        cases outcome with
        | ok verdict => rfl
        | error error => rfl
      dsimp only
      rw [ends, gives.handles_execute_iff isFile]
      exact not_congr (and_iff_right rfl).symm

/-- A world with one file. -/
def fileWorld (text : String) : World := World.start ⟨[(Files.home ++ ["a.json"], text)], [Files.home]⟩

theorem gives_fileWorld {text : String} (plain : Files.readText text = text) (read : Json.read text = .ok value) :
    Gives (fileWorld text) "a.json" value := by
  refine ⟨by decide, by decide +kernel, text, ?_, ?_⟩
  · have isFile : (fileWorld text).workspace.files.find? (Path.parse "a.json") = some (.file text) := by rfl
    rw [Files.read?, isFile]
    exact congrArg some plain
  · rw [if_pos (by decide +kernel)]
    exact read

/-- The error of a result. -/
def errorOf? {α : Type} : Except Error α → Option Error
  | .ok _ => none
  | .error error => some error

theorem eq_error_of_errorOf? {α : Type} {result : Except Error α} {error : Error}
    (isError : errorOf? result = some error) : result = .error error := by
  cases result with
  | ok value => cases isError
  | error other => rw [Option.some.inj isError]

/-- The error that an ending hands on. -/
def Ending.error? : Ending → Option Error
  | .failed error => some error
  | _ => none

theorem Ending.eq_failed {ending : Ending} {error : Error} (isError : ending.error? = some error) :
    ending = .failed error := by
  cases ending with
  | failed other => rw [Option.some.inj isError]
  | _ => cases isError

/-- A document whose field refers to a schema that it does not declare. -/
def dangling : Data :=
  .object [("schemas", .list [.object [("name", .text "a"), ("fields", .list [
    .object [("name", .text "x"), ("struct", .text "b")]])]])]

def danglingText : String :=
  "\x7b\"schemas\": [\x7b\"name\": \"a\", \"fields\": [\x7b\"name\": \"x\", \"struct\": \"b\"\x7d]\x7d]\x7d"

/-- A build of the document in a file. -/
def building : Arguments := ⟨.build, .ofFile "a.json", none, .json, none⟩

theorem errors_handled_iff_dangling :
    ∃ error, raised [] Settings.default building (fileWorld danglingText) = .error error ∧
      error.isPackageError = true ∧
      (run [] [] "" ["build", "--file", "a.json"] (fileWorld danglingText)).1.ending = .exit 1 := by
  have gives : Gives (fileWorld danglingText) "a.json" dangling := gives_fileWorld (by decide +kernel) (by cbv)
  have parsed : Arguments.parse ["build", "--file", "a.json"] = .ok building := by decide +kernel
  have accepted : Settings.load (fileWorld danglingText).workspace.files [] [] = .ok Settings.default := by cbv
  have stays : ¬Escapes building.task dangling := by
    rintro ⟨document, read, _, repeats | ⟨isValidate, _⟩⟩
    · have isDistinct : (Document.ofData dangling).toOption.all (fun document =>
          decide document.IsDistinct) = true := by decide +kernel
      rw [read] at isDistinct
      exact repeats (of_decide_eq_true isDistinct)
    · cases isValidate
  have handles := (errors_handled_iff [] "" parsed rfl accepted gives).mpr fun escapes => stays escapes.2
  have fails : (errorOf? (raised [] Settings.default building (fileWorld danglingText))).any Error.isPackageError =
      true := by decide +kernel
  rcases (Option.any_eq_true _ _).mp fails with ⟨error, isError, isPackageError⟩
  have isRaised := eq_error_of_errorOf? isError
  exact ⟨error, isRaised, isPackageError, handles.told error isRaised isPackageError⟩

/-- A document that declares a schema twice. -/
def twiceText : String := "\x7b\"schemas\": [\x7b\"name\": \"a\"\x7d, \x7b\"name\": \"a\"\x7d]\x7d"

/-- A document that declares a schema twice is not told to be invalid, but its error is handed on. -/
theorem error_escapes_twice :
    Gives (fileWorld twiceText) "a.json" Document.repeating ∧
      Settings.load (fileWorld twiceText).workspace.files [] [] = .ok Settings.default ∧
      ∃ error, (run [] [] "" ["validate", "--file", "a.json"] (fileWorld twiceText)).1.ending = .failed error ∧
        error.isPackageError = true := by
  refine ⟨gives_fileWorld (by decide +kernel) (by cbv), by cbv, ?_⟩
  have fails : (run [] [] "" ["validate", "--file", "a.json"] (fileWorld twiceText)).1.ending.error?.any
      Error.isPackageError = true := by decide +kernel
  rcases (Option.any_eq_true _ _).mp fails with ⟨error, isError, isPackageError⟩
  exact ⟨error, Ending.eq_failed isError, isPackageError⟩

end Runs

end CommandLine

end SpecGraph
