import SpecGraph.CommandLine.Help
import SpecGraph.Session.Basic

/-!
# The command line

A command line loads declarations from a module or from a document and carries out its task on them. A
module is a builder that was made before, or steps that declare into a builder made for it. What the task
found goes to the output; what went wrong goes to the errors, behind the lines of the log. An invalid
document and a failed build end with code 1, as do findings of `validate` and breaking changes of `check`;
arguments that do not fit end with code 2. Every other error is handed on.
-/

namespace SpecGraph

namespace CommandLine

/-- What a module offers. -/
structure DeclarationModule where
  /-- The number of the builder it has made. -/
  builder : Option Nat
  /-- The steps by which it declares into a builder. -/
  steps : Option (List Step)
deriving Inhabited

/-- The modules by name. -/
abbrev Modules := List (String × DeclarationModule)

/-- What a task has to say: a code to end with, unless it just ends, and the lines it prints. -/
structure Verdict where
  /-- The code. -/
  code : Option Nat
  /-- The lines of the output. -/
  output : List String
  /-- The lines of the errors. -/
  errors : List String
deriving DecidableEq, Inhabited

/-- How a command line ends. -/
inductive Ending where
  /-- It just ends. -/
  | done
  /-- It ends with a code. -/
  | exit (code : Nat)
  /-- It hands an error on. -/
  | failed (error : Error)
deriving Inhabited

/-- What a command line did. -/
structure Outcome where
  /-- How it ended. -/
  ending : Ending
  /-- What it printed. -/
  output : String
  /-- What it printed as errors. -/
  errors : String
deriving Inhabited

/-- The text of a root, or null if there is none. -/
def rootData (root : Option String) : Data := Data.optionalText root

/-- The builder that a document declares. -/
def loadFile (path : String) (root : Option String) (settings : Settings) : Run Nat := do
  let number ← Run.createBuilder (rootData root) settings none
  let document ← Run.ofJob (Document.load (← Run.nextReading) (Path.parse path))
  document.apply number
  return number

/-- The builder that a module declares. -/
def loadModule (modules : Modules) (name : String) (root : Option String) (settings : Settings) :
    Run Nat := do
  match modules.lookup name with
  | none =>
      if name = "" then throw (.fault .badValue)
      else if ".".isPrefixOf name then throw (.fault .wrongKind)
      else throw .noModule
  | some ⟨some number, _⟩ =>
      if root.any fun text => text != "" then
        Run.record .warning Logger.commandLine
          ("Ignoring --root: module " ++ name ++ " provides its own builder")
      return number
  | some ⟨none, some steps⟩ =>
      let number ← Run.createBuilder (rootData root) settings none
      Run.within number (Session.takeAll steps)
      return number
  | some ⟨none, none⟩ => throw (.fault .badValue)

/-- The builder that a source declares. -/
def load (modules : Modules) (source : Source) (root : Option String) (settings : Settings) :
    Run Nat :=
  match source with
  | .ofFile path =>
      if path = "" then throw (.fault .missingMember) else loadFile path root settings
  | .ofModule name => loadModule modules name root settings

/-- Finalizes a builder. -/
def build (number : Nat) : Run Verdict :=
  tryCatch
    (do
      Run.finalize number
      let builder ← Run.builder number
      return ⟨some 0, ["Built " ++ builder.specRoot.text], []⟩)
    fun error =>
      if error.isPackageError then return ⟨some 1, [], ["Build FAILED: " ++ error.message]⟩
      else throw error

/-- Prints the snapshot of a builder, or writes it to a file. -/
def snapshot (number : Nat) (format : Builder.SnapshotFormat) (output : Option String) :
    Run Verdict := do
  let builder ← Run.builder number
  let text ← Run.ofFault (builder.snapshot format)
  match output with
  | none | some "" => return ⟨none, [text], []⟩
  | some path =>
      let target := Path.parse path
      Run.ofJob (Job.replaceFiles target fun files =>
        if Path.isFolderName path then none else files.write? target text)
      return ⟨none, [], ["Snapshot exported to " ++ path]⟩

/-- Prints the problems of a builder. -/
def validate (number : Nat) : Run Verdict := do
  let builder ← Run.builder number
  let problems ← Run.ofExcept builder.graph.problems
  if problems.isEmpty then return ⟨some 0, ["Declarations are valid"], []⟩
  else
    return ⟨some 1, ("Validation failed with " ++ Text.natText problems.length ++ " error(s):") ::
      problems.map ("  - " ++ ·), []⟩

/-- Prints the changes from the written manifests to a builder. -/
def check (number : Nat) : Run Verdict := do
  let builder ← Run.builder number
  let changes ← Run.ofJob builder.changes
  let found :=
    if changes.isEmpty then ["No changes detected"]
    else ("Found " ++ Text.natText changes.length ++ " change(s):") ::
      changes.map fun change => "  " ++ change.text
  let broken := Manifest.breaking changes
  if broken.isEmpty then return ⟨some 0, found, []⟩
  else
    return ⟨some 1, found ++ ["Compatibility check FAILED with " ++ Text.natText broken.length ++
      " breaking change(s)"], []⟩

/-- Carries out a task on a builder. -/
def perform (arguments : Arguments) (number : Nat) : Run Verdict :=
  match arguments.task with
  | .build => build number
  | .snapshot => snapshot number arguments.format arguments.output
  | .validate => validate number
  | .check => check number

/-- What is said about an invalid document. -/
def rejection (fault : DocumentFault) : Verdict :=
  ⟨some 1, [], ("Invalid declaration file: " ++ fault.message) ::
    fault.problems.map ("  - " ++ ·)⟩

/-- Loads declarations and carries out a task on them. -/
def execute (modules : Modules) (settings : Settings) (arguments : Arguments) : Run Verdict := do
  let loaded ←
    tryCatch (Except.ok <$> load modules arguments.source arguments.root settings) fun error =>
      match error with
      | .document fault => return .error (rejection fault)
      | other => throw other
  match loaded with
  | .ok number => perform arguments number
  | .error verdict => return verdict

/-- Lines, each with its end. -/
def unlines (lines : List String) : String := String.join (lines.map fun line => line ++ "\n")

/-- The outcome of a run with its result and the lines it logged. -/
def outcomeOf (result : Except Error Verdict) (logged : List String) : Outcome :=
  match result with
  | .ok verdict =>
      ⟨(verdict.code.map Ending.exit).getD .done, unlines verdict.output,
        unlines (logged ++ verdict.errors)⟩
  | .error error => ⟨.failed error, "", unlines logged⟩

/-- What is done when there is no task to carry out, with lines of a width. -/
def refuse (width : Nat) : Refusal → Outcome
  | .usage => ⟨.exit 2, "", HelpPage.ofProgram.usage width ++ "\n"⟩
  | .help task => ⟨.exit 0, (HelpPage.on task).render width, ""⟩

/-- Carries out arguments under settings, showing the log as a handler does at a time. -/
def runTask (modules : Modules) (settings : Settings) (handler : LogHandler) (time : String)
    (arguments : Arguments) (world : World) : Outcome × World :=
  let (result, after) := (execute modules settings arguments).run.run world
  let records := after.workspace.log.drop world.workspace.log.length
  (outcomeOf result (handler.lines time records), after)

/-- The outcome of a command line and the world after it. The arguments are looked at before the
environment, and both before anything else. -/
def run (modules : Modules) (environment : List (String × String)) (time : String)
    (arguments : List String) (world : World) : Outcome × World :=
  match Arguments.parse arguments with
  | .error refusal => (refuse (lineWidth environment) refusal, world)
  | .ok arguments =>
      match Settings.load world.workspace.files environment [] with
      | .error error => (⟨.failed error, "", ""⟩, world)
      | .ok settings =>
          match settings.handler with
          | .error fault => (⟨.failed (.fault fault), "", ""⟩, world)
          | .ok handler => runTask modules settings handler time arguments world

/-- Makes a builder for a module, and takes the steps by which it declares into it. -/
def prepare (root : Data) (steps : List Step) : Run Nat := do
  let settings ← Run.ofExcept (Settings.load (← get).workspace.files [] [])
  let number ← Run.createBuilder root settings none
  Run.within number (Session.takeAll steps)
  return number

end CommandLine

end SpecGraph
