import SpecGraph.CommandLine.Word
import SpecGraph.World.Report

/-!
# Arguments of the command line

A command line names a task and gives options, each with a value but the one that asks for help. Exactly
one of a module and a file has to be given. Whatever does not fit is refused.
-/

namespace SpecGraph

namespace CommandLine

/-- What can be asked for. -/
inductive Task where
  /-- To finalize what is declared. -/
  | build
  /-- To show what is declared. -/
  | snapshot
  /-- To look for references and keys that are not valid. -/
  | validate
  /-- To compare what is declared with the written manifests. -/
  | check
deriving DecidableEq, Inhabited

/-- What an option is for. -/
inductive Switch where
  | help
  | moduleName
  | filePath
  | root
  | format
  | output
deriving DecidableEq, Inhabited

/-- Where declarations come from. -/
inductive Source where
  /-- The module of a name. -/
  | ofModule (name : String)
  /-- The document at a path. -/
  | ofFile (path : String)
deriving DecidableEq, Inhabited

/-- Why there is nothing to do. -/
inductive Refusal where
  /-- The arguments do not fit. -/
  | usage
  /-- Help was asked for, on a task or on the whole program. -/
  | help (task : Option Task)
deriving DecidableEq, Inhabited

/-- A task with its options. -/
structure Arguments where
  /-- What is asked for. -/
  task : Task
  /-- Where declarations come from. -/
  source : Source
  /-- The root of a builder that has to be made. -/
  root : Option String
  /-- The format of a snapshot. -/
  format : Builder.SnapshotFormat
  /-- The file that a snapshot is written to. -/
  output : Option String
deriving DecidableEq, Inhabited

namespace Task

/-- The task of a name. -/
def ofName? : String → Option Task
  | "build" => some build
  | "snapshot" => some snapshot
  | "validate" => some validate
  | "check" => some check
  | _ => none

/-- The name of a task. -/
def name : Task → String
  | build => "build"
  | snapshot => "snapshot"
  | validate => "validate"
  | check => "check"

/-- The spellings of the options of every task. -/
def commonSpellings : List (String × Switch) :=
  [("-h", .help), ("--help", .help), ("--module", .moduleName), ("--file", .filePath),
    ("--root", .root)]

/-- The spellings of the options of a task. -/
def spellings : Task → List (String × Switch)
  | snapshot => commonSpellings ++ [("--format", .format), ("--output", .output), ("-o", .output)]
  | _ => commonSpellings

/-- The options of a task. -/
def options (task : Task) : Options Switch := ⟨task.spellings, (· != .help), true, ['-']⟩

end Task

/-- The values of options so far. -/
structure Choice where
  /-- The name of a module. -/
  moduleName : Option String
  /-- The path of a document. -/
  filePath : Option String
  /-- The root. -/
  root : Option String
  /-- The format of a snapshot. -/
  format : Builder.SnapshotFormat
  /-- The file that a snapshot is written to. -/
  output : Option String
  /-- Every argument was an option or its value. -/
  isClean : Bool
deriving DecidableEq, Inhabited

namespace Choice

/-- No option is given. -/
def start (isClean : Bool) : Choice := ⟨none, none, none, .json, none, isClean⟩

/-- A choice with the value of one more option. A later value replaces an earlier one. -/
def give (choice : Choice) (switch : Switch) (value : String) : Except Refusal Choice :=
  match switch with
  | .help => throw .usage
  | .moduleName =>
      if choice.filePath.isSome then throw .usage
      else pure { choice with moduleName := some value }
  | .filePath =>
      if choice.moduleName.isSome then throw .usage
      else pure { choice with filePath := some value }
  | .root => pure { choice with root := some value }
  | .format =>
      if value = "json" then pure { choice with format := .json }
      else if value = "yaml" then pure { choice with format := .yaml }
      else throw .usage
  | .output => pure { choice with output := some value }

/-- A choice with the values of the options among words. The only option without a value asks for help on
the task. -/
def giveAll (choice : Choice) (task : Task) : List (Word Switch) → Except Refusal Choice
  | [] => pure choice
  | .options [] (some (switch, some value)) :: rest => do
      giveAll (← choice.give switch value) task rest
  | .options [] (some (switch, none)) :: .plain value :: rest => do
      giveAll (← choice.give switch value) task rest
  | .options [] (some (_, none)) :: _ => throw .usage
  | .options [] none :: rest => giveAll choice task rest
  | .options (_ :: _) (some (_, none)) :: .plain _ :: _ => throw (.help (some task))
  | .options (_ :: _) (some (_, none)) :: _ => throw .usage
  | .options (_ :: _) _ :: _ => throw (.help (some task))
  | .misused :: _ => throw .usage
  | _ :: rest => giveAll { choice with isClean := false } task rest

/-- The arguments of a task, if the choice is complete. -/
def finish (choice : Choice) (task : Task) : Except Refusal Arguments :=
  if choice.isClean then
    match choice.moduleName, choice.filePath with
    | some name, _ => pure ⟨task, .ofModule name, choice.root, choice.format, choice.output⟩
    | none, some path => pure ⟨task, .ofFile path, choice.root, choice.format, choice.output⟩
    | none, none => throw .usage
  else throw .usage

end Choice

namespace Arguments

/-- The options that may stand before a task. -/
def outerOptions : Options Switch := ⟨[("-h", .help), ("--help", .help)], (· != .help), true, ['-']⟩

/-- The arguments of a task from what follows it. -/
def parseTask (task : Task) (isClean : Bool) (rest : List String) : Except Refusal Arguments := do
  let words := Word.readAll task.options rest
  if words.contains .ambiguous then throw .usage
  let choice ← (Choice.start isClean).giveAll task words
  choice.finish task

/-- The arguments from where a task is still to come, given whether all before it fits. -/
def parseFrom (isClean : Bool) : List String → Except Refusal Arguments
  | [] => throw .usage
  | argument :: rest =>
      if argument = "--" then throw .usage
      else
        match Word.read outerOptions argument with
        | .options .. => throw (.help none)
        | .misused => throw .usage
        | .plain name =>
            match Task.ofName? name with
            | some task => parseTask task isClean rest
            | none => throw .usage
        | _ => parseFrom false rest

/-- The arguments of a command line. -/
def parse (arguments : List String) : Except Refusal Arguments := parseFrom true arguments

end Arguments

end CommandLine

end SpecGraph
