import SpecGraph.Files
import SpecGraph.Settings.Basic
import SpecGraph.Settings.VariableFile

/-!
# Settings from files

Settings may be taken from files of variables, the last of which comes first, and from folders of secrets,
where the name of a file is that of a variable and its text, without white characters at both ends, is the
value. What is not there is left out. A tilde at the start of a path stands for the home folder.
-/

namespace SpecGraph

namespace Settings

/-- The names of one path or of several ones. -/
def pathNames (value : Data) : Except Fault (List Data) :=
  match value with
  | .null => pure []
  | .text _ => pure [value]
  | value => value.items

/-- The home folder of an environment, if it tells one. -/
def homeFolder? (environment : List (String × String)) : Option String :=
  (environment.lookup "HOME").map fun home =>
    let trimmed := (home.toList.reverse.dropWhile (· == '/')).reverse
    if trimmed = [] then "/" else String.ofList trimmed

/-- A path with the home folder for a tilde, or nothing for a home folder that is not in the tree. -/
def withHome (environment : List (String × String)) (path : Path) : Except Error (Option Path) :=
  match path.isAbsolute, path.parts with
  | false, first :: rest =>
      if first.toList.head? ≠ some '~' then pure (some path)
      else if first ≠ "~" then throw .homeless
      else
        match homeFolder? environment with
        | none => pure none
        | some home =>
            if home.toList.head? = some '~' then throw .homeless
            else
              let home := Path.parse home
              pure (some ⟨home.anchor, home.parts ++ rest⟩)
  | _, _ => pure (some path)

/-- The path of a name, or nothing for a path that no file has. -/
def pathOf (environment : List (String × String)) (name : Data) : Except Error (Option Path) :=
  match name with
  | .text name => withHome environment (Path.parse name)
  | _ => throw (.fault .wrongKind)

/-- What a path leads to, or nothing if it leads nowhere. -/
def nodeAt (files : Files) (path : Path) : Except Error (Option Node) := do
  if !path.isPossible then return none
  if files.isTooLong path then throw .file
  return files.find? path

/-- The encoding that is asked for, or the usual one. -/
def encodingOf (value : Data) : Except Error Text.Encoding := do
  match value with
  | .text name =>
      if name == "" then return .utf8
      if !Text.isWhole name then throw (.fault .unwritable)
      if name.toList.contains (Char.ofNat 0) then throw (.fault .badValue)
      match Text.Encoding.ofName? name with
      | some encoding => return encoding
      | none => throw (.decoding .unknownEncoding)
  | value => if value.isTruthy then throw (.fault .wrongKind) else return .utf8

/-- The variables of one file, if it is there. -/
def readVariables (files : Files) (environment : List (String × String)) (encoding name : Data) :
    Except Error (List Variable) := do
  match ← pathOf environment name with
  | none => return []
  | some path =>
      match ← nodeAt files path with
      | some (.file text) =>
          match (← encodingOf encoding).decode text with
          | .ok text => return VariableFile.read environment (Files.readText text)
          | .error fault => throw (.decoding fault)
      | _ => return []

/-- The variables of all files that are given, as they are looked up. -/
def storedVariables (files : Files) (environment : List (String × String)) (given : Given)
    (lookup : Lookup) : Except Error (List Variable) := do
  let names ← (pathNames (given.value "_env_file")).mapError Error.fault
  let read ← names.mapM (readVariables files environment (given.value "_env_file_encoding"))
  return (read.map lookup.admitted).flatten

/-- The folders of secrets that are given, as far as they are there. -/
def secretFolders (files : Files) (environment : List (String × String)) (given : Given) :
    Except Error (List Location) := do
  let names ← (pathNames (given.value "_secrets_dir")).mapError Error.fault
  let paths ← names.mapM (pathOf environment)
  let found ← (paths.filterMap id).mapM fun path => return (path, ← nodeAt files path)
  let present := found.filter fun (_, node) => node.isSome
  present.mapM fun (path, node) =>
    match node, files.resolve? path with
    | some .folder, some place => pure place
    | _, _ => throw .lookup

/-- The secret of a variable in a folder: the text of the first file of its name. -/
def secretIn? (files : Files) (lookup : Lookup) (name : String) (folder : Location) : Option Data := do
  let found ← (files.namesIn folder).find? fun other => lookup.fold other == lookup.fold name
  match files.nodeAt? (folder ++ [found]) with
  | some (.file text) => return .text (String.ofList (Text.trimmed (Files.readText text).toList))
  | _ => none

/-- The secret of a variable in the last folder that has one. -/
def secret? (files : Files) (lookup : Lookup) (folders : List Location) (name : String) : Option Data :=
  folders.reverse.findSome? (secretIn? files lookup name)

end Settings

end SpecGraph
