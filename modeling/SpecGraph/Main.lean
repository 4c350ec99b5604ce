import Std.Time.Format
import SpecGraph.CommandLine.Basic

/-!
# Program

The command line on the files of the machine. The files that a command line may touch are known from its
arguments and settings; those that are there are read into a tree first, and those that the command line
changed are written afterwards.
-/

namespace SpecGraph

namespace Program

/-- The root of a builder that has to be made. -/
def rootOf (settings : Settings) (arguments : CommandLine.Arguments) : Path :=
  match arguments.root with
  | none | some "" => Path.parse settings.specRoot
  | some text => Path.parse text

/-- The files that a command line may read or write. -/
def touchedFiles (settings : Settings) (arguments : CommandLine.Arguments) : List Path :=
  let root := rootOf settings arguments
  let source :=
    match arguments.source with
    | .ofFile path => [Path.parse path]
    | .ofModule _ => []
  source ++
    [(settings.schemaRoot root).child Manifest.schemaFile,
      (settings.storageRoot root).child Manifest.storageFile,
      (settings.dispatchRoot root).child Manifest.dispatchFile] ++
    (arguments.output.map Path.parse).toList

/-- The files that arguments in words may read or write. -/
def filesOf (environment : List (String × String)) (arguments : List String) : List Path :=
  match Settings.load Files.empty environment [], CommandLine.Arguments.parse arguments with
  | .ok settings, .ok arguments => touchedFiles settings arguments
  | _, _ => []

/-- The variables of the settings and of the terminal that are set. -/
def readEnvironment : IO (List (String × String)) := do
  let variableNames := Settings.names.map fun name => (Settings.Lookup.usualStart ++ name).toUpper
  let values ← (variableNames ++ ["COLUMNS"]).mapM fun name => do
    return (← IO.getEnv name).map fun value => (name, value)
  return values.filterMap id

/-- There is a folder of the machine at a path. -/
def isFolder (path : Path) : IO Bool := do
  try (← IO.FS.realPath path.text).isDir
  catch _ => return false

/-- A tree with a file of the machine and the folder it is in, as far as they are there. -/
def readInto (tree : Files) (path : Path) : IO Files := do
  let tree := if ← isFolder path.parent then (tree.makeParents path).1 else tree
  try
    let text := Text.ofPlain (← IO.FS.readFile path.text)
    return (tree.writeDeep? path text).getD tree
  catch _ => return tree

/-- Writes a file of the machine if its text changed. -/
def writeBack (before after : Files) (path : Path) : IO Unit := do
  match after.read? path with
  | some text =>
      if before.read? path != some text then
        IO.FS.createDirAll path.parent.text
        IO.FS.writeFile path.text (Text.toPlain text)
  | none => return

/-- The code to end with; an error that is handed on is shown. -/
def finish : CommandLine.Ending → IO UInt32
  | .done => return 0
  | .exit code => return code.toUInt32
  | .failed error => do
      IO.eprintln (error.kindName ++ ": " ++ error.message)
      return 1

/-- The time now. -/
def timeText : IO String := do
  return (← Std.Time.PlainDateTime.now).format "uuuu-MM-dd HH:mm:ss,SSS"

/-- Runs a command line. -/
def run (arguments : List String) : IO UInt32 := do
  let environment ← readEnvironment
  let paths := filesOf environment arguments
  let before ← paths.foldlM readInto Files.empty
  let (outcome, after) :=
    CommandLine.run [] environment (← timeText) arguments (World.start before)
  paths.forM (writeBack before after.workspace.files)
  IO.print (Text.toPlain outcome.output)
  IO.eprint (Text.toPlain outcome.errors)
  finish outcome.ending

end Program

end SpecGraph

/-- Runs the program. -/
def main (arguments : List String) : IO UInt32 := SpecGraph.Program.run arguments
