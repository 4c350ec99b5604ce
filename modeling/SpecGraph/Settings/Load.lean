import SpecGraph.Settings.Flags
import SpecGraph.Settings.Stored

/-!
# Loading settings

A setting is taken from the first source that has it: the arguments, the values that are given, the
environment, the files of variables and the folders of secrets; or else it has a default. It is given by
its name, and its variable is its name after `HYPERSPEC_`, both in any mixture of cases. Every problem
with a value is reported, as is every name that gives no setting.
-/

namespace SpecGraph

namespace Settings

/-- An environment that a program can have: no name is empty or holds an equals sign, nothing holds a NUL,
and everything can be written in bytes. -/
def checkEnvironment (environment : List (String × String)) : Except Error Unit :=
  environment.forM fun (name, value) => do
    if !Text.canNameFile name || !Text.canNameFile value then throw (.fault .unwritable)
    if name == "" then throw .file
    let characters := name.toList ++ value.toList
    if name.toList.contains '=' || characters.contains (Char.ofNat 0) then throw (.fault .badValue)

/-- Where settings are looked up. -/
structure Sources where
  /-- The values of arguments. -/
  arguments : List (String × Data)
  /-- The values that are given. -/
  given : Given
  /-- The environment. -/
  environment : List Variable
  /-- The variables of files. -/
  stored : List Variable
  /-- The files in which the secrets are. -/
  files : Files
  /-- The folders of secrets. -/
  folders : List Location
deriving Inhabited

/-- The given values that tell nothing about the lookup. -/
def ownValues (given : Given) : Given := given.filter fun entry => !Lookup.names.contains entry.1

namespace Sources

/-- The sources of settings. -/
def find (files : Files) (environment : List (String × String)) (given : Given) (lookup : Lookup) :
    Except Error Sources := do
  let stored ← storedVariables files environment given lookup
  let arguments ← Flags.read given
  if (lookup.variableName? flagName).isNone then throw .lookup
  return {
    arguments
    given := ownValues given
    environment := lookup.admitted (environment.map fun (name, value) => ⟨name, some value⟩)
    stored, files
    folders := ← secretFolders files environment given }

/-- The value of a setting, or nothing if no source has it. -/
def value? (sources : Sources) (lookup : Lookup) (name : String) : Option Data :=
  let fromVariable (read : String → Option Data) : Option Data := (lookup.variableName? name).bind read
  sources.arguments.lookup name <|>
    ((sources.given.find? fun entry => lowered entry.1 == name).map Prod.snd) <|>
      fromVariable (lookup.find? sources.environment) <|>
        fromVariable (lookup.find? sources.stored) <|>
          fromVariable (secret? sources.files lookup sources.folders)

/-- The last variable of each name. -/
def lastOnes : List Variable → List Variable
  | [] => []
  | entry :: rest =>
      if rest.any fun other => other.name == entry.name then lastOnes rest else entry :: lastOnes rest

/-- The names of the variables in files that give no setting. -/
def strayVariables (sources : Sources) (lookup : Lookup) : List String :=
  let hasValue (name : String) : Bool :=
    ((lookup.variableName? name).bind (lookup.find? sources.stored)).isSome
  let isKnown (found : String) : Bool :=
    names.any fun name =>
      lookup.variableName? name == some found ||
        (found == name && (hasValue name || lookup.start.isTruthy))
  ((lastOnes sources.stored).filter fun entry => entry.value.any (· != "")).filterMap fun entry =>
    if isKnown entry.name then none else some entry.name

/-- The names that give no setting. -/
def unknown (sources : Sources) (lookup : Lookup) : List String :=
  let given := (sources.given.map Prod.fst).filter fun name => !names.contains (lowered name)
  given ++ (sources.strayVariables lookup).filter fun name => !given.contains name

end Sources

/-- The value of a setting from its source, or the default if it has none. -/
def choose {α : Type} (source : Option Data) (read : Data → Except Problem α) (default : α) :
    Except Problem α :=
  match source with
  | some value => read value
  | none => pure default

/-- The problem of a setting, if it has one. -/
def problem? {α : Type} (name : String) (result : Except Problem α) : Option (String × Problem) :=
  match result with
  | .ok _ => none
  | .error problem => some (name, problem)

/-- Problems are reported in the order of the settings' names, and then of the kinds of problems. -/
def notAfter (left right : String × Problem) : Bool :=
  Data.isBefore? (.texts [right.1, right.2]) (.texts [left.1, left.2]) != some true

/-- The settings of a source of values, given the names that are no settings. -/
def assemble (source : String → Option Data) (unknown : List String) : Except Error Settings :=
  let specRoot := choose (source "spec_root") readText default.specRoot
  let schemaFolder := choose (source "schema_dir") readText default.schemaFolder
  let storageFolder := choose (source "db_dir") readText default.storageFolder
  let dispatchFolder := choose (source "dispatch_dir") readText default.dispatchFolder
  let allowBreaking := choose (source flagName) readFlag default.allowBreaking
  let logLevel := choose (source "log_level") readText default.logLevel
  let logFormat := choose (source "log_format") readFormat default.logFormat
  match specRoot, schemaFolder, storageFolder, dispatchFolder, allowBreaking, logLevel, logFormat,
      unknown with
  | .ok specRoot, .ok schemaFolder, .ok storageFolder, .ok dispatchFolder, .ok allowBreaking,
      .ok logLevel, .ok logFormat, [] =>
      .ok ⟨specRoot, schemaFolder, storageFolder, dispatchFolder, allowBreaking, logLevel, logFormat⟩
  | _, _, _, _, _, _, _, _ =>
      let problems :=
        [problem? "spec_root" specRoot, problem? "schema_dir" schemaFolder,
          problem? "db_dir" storageFolder, problem? "dispatch_dir" dispatchFolder,
          problem? flagName allowBreaking, problem? "log_level" logLevel,
          problem? "log_format" logFormat].filterMap id ++
          unknown.map fun name => (name, "extra_forbidden")
      .error (.settings (problems.mergeSort notAfter))

/-- The settings without any source, if the value that stands for all sources is a pair whose first part
is empty. -/
def loadWithout (sources : Data) : Except Fault Settings := do
  match ← sources.items with
  | [first, _] => if first.isTruthy then throw .wrongKind else return default
  | _ => throw .badValue

/-- The settings of an environment and given values, where files are found in a tree. -/
def load (files : Files) (environment : List (String × String)) (given : Given) :
    Except Error Settings := do
  checkEnvironment environment
  match given.value "_build_sources" with
  | .null =>
      if (given.lookup "cls").isSome then throw (.fault .wrongKind)
      (Lookup.check given).mapError Error.fault
      let lookup := Lookup.ofGiven given
      let sources ← Sources.find files environment given lookup
      assemble (sources.value? lookup) (sources.unknown lookup)
  | sources => (loadWithout sources).mapError Error.fault

end Settings

end SpecGraph
