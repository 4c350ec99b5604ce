import SpecGraph.Error.Basic
import SpecGraph.Files
import SpecGraph.Log

/-!
# Workspaces

A workspace is a file tree with the log of what was done to it. A job works on a workspace and may fail;
what it did before it failed remains, so that folders that were made stay when one inside them cannot be
made, and a file is empty when its text cannot be written.
-/

namespace SpecGraph

/-- A file tree with the log of what was done to it. -/
structure Workspace where
  /-- The file tree. -/
  files : Files
  /-- The records so far, in order. -/
  log : List LogRecord
deriving Inhabited

/-- A computation on a workspace that may fail; what it did before it failed remains. -/
abbrev Job (α : Type) := ExceptT Error (StateM Workspace) α

namespace Job

/-- A result that may be at fault. -/
def ofFault {α : Type} (result : Except Fault α) : Job α :=
  match result with
  | .ok value => pure value
  | .error fault => throw (.fault fault)

/-- Does to the file tree what an action tells, and ends as it tells. -/
def ofAction {α : Type} (action : Files → Except Error α × Files) : Job α := do
  let (outcome, files) := action (← get).files
  modify fun workspace => { workspace with files }
  match outcome with
  | .ok value => pure value
  | .error error => throw error

/-- Adds a record to the log. -/
def record (level : Level) (logger message : String) : Job Unit :=
  modify fun workspace => { workspace with log := workspace.log ++ [⟨level, logger, message⟩] }

/-- Fails for a path that no file can have. -/
def ensurePossible (path : Path) : Job Unit := do
  if !path.isWritable then throw (.fault .unwritable)
  if path.hasNul then throw (.fault .badValue)

/-- Replaces the file tree by a change at a path, or fails if the change is not possible. -/
def replaceFiles (path : Path) (change : Files → Option Files) : Job Unit := do
  ensurePossible path
  match change (← get).files with
  | some files => modify fun workspace => { workspace with files }
  | none => throw .file

/-- Makes the folder of a path and all folders above it. -/
def makeParents (path : Path) : Job Unit := do
  ensurePossible path.parent
  let (files, made) := (← get).files.makeParents path
  modify fun workspace => { workspace with files }
  if !made then throw .file

/-- Makes the folders on a way, one after the other from the first on. -/
def makeWay (way : Path) : Job Unit :=
  (List.range way.parts.length).forM fun count =>
    let folder : Path := ⟨way.anchor, way.parts.take (count + 1)⟩
    replaceFiles folder fun files =>
      match files.makeFolder folder with
      | .done files => some files
      | _ => none

/-- Writes a text into the file of a name as it stands, where a name that ends in a slash or a dot is none
of a file. The folders on the way are made first. -/
def writeFile (name text : String) : Job Unit := do
  makeWay (Path.wayTo name)
  let path := Path.parse name
  replaceFiles path fun files => if Path.isFolderName name then none else files.write? path ""
  if !Text.isWhole text then throw (.fault .unwritable)
  replaceFiles path fun files => files.write? path text

/-- Removes the file of a name as it stands. -/
def deleteFile (name : String) : Job Unit := do
  let path := Path.parse name
  replaceFiles path fun files => if Path.isFolderName name then none else files.remove? path

end Job

end SpecGraph
