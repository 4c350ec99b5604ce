import SpecGraph.Data.Access
import SpecGraph.Text.Lowercase

/-!
# Lookup of settings

Values are given by name. Some names that start with an underscore give no setting, but tell how the
others are looked up: what the names of variables start with, whether the case of their names counts, and
which of their values count as none.
-/

namespace SpecGraph

/-- Values that are given by name. -/
abbrev Given := List (String × Data)

/-- A variable with its value, if it has one. -/
structure Variable where
  /-- The name. -/
  name : String
  /-- The value. -/
  value : Option String
deriving DecidableEq, Inhabited

namespace Given

/-- The value under a name, or null. -/
def value (given : Given) (name : String) : Data := (given.lookup name).getD .null

/-- The value under a name counts as true. -/
def isSet (given : Given) (name : String) : Bool := (given.value name).isTruthy

end Given

namespace Settings

/-- A text in small letters. -/
def lowered (text : String) : String := String.ofList (Text.lowered text.toList)

/-- How settings are looked up. -/
structure Lookup where
  /-- What the names of variables start with. -/
  start : Data
  /-- The names of variables start with nothing all the same. -/
  isBare : Bool
  /-- The case of the names of variables counts. -/
  isExact : Bool
  /-- An empty variable counts as absent. -/
  skipsEmpty : Bool
  /-- A variable with this value stands for null. -/
  absent : Option String
deriving Inhabited

namespace Lookup

/-- The names that tell how settings are looked up, or what no setting of this program depends on. -/
def names : List String :=
  ["_case_sensitive", "_nested_model_default_partial_update", "_env_prefix", "_env_prefix_target",
    "_env_file", "_env_file_encoding", "_env_ignore_empty", "_env_nested_delimiter",
    "_env_nested_max_split", "_env_parse_none_str", "_env_parse_enums", "_cli_prog_name",
    "_cli_parse_args", "_cli_settings_source", "_cli_parse_none_str", "_cli_hide_none_type",
    "_cli_avoid_json", "_cli_enforce_required", "_cli_use_class_docs_for_groups",
    "_cli_exit_on_error", "_cli_prefix", "_cli_flag_prefix_char", "_cli_implicit_flags",
    "_cli_ignore_unknown_args", "_cli_kebab_case", "_cli_shortcuts", "_secrets_dir",
    "_build_sources"]

/-- What the names of variables start with if nothing else is given. -/
def usualStart : String := "HYPERSPEC_"

/-- The start of names can be put before some of them only. -/
def startsVariables : Data → Bool
  | .null => true
  | .text kind => kind == "variable" || kind == "all"
  | _ => false

/-- The lookup that given values tell. -/
def ofGiven (given : Given) : Lookup where
  start :=
    match given.value "_env_prefix" with
    | .null => .text usualStart
    | start => start
  isBare := !startsVariables (given.value "_env_prefix_target")
  isExact := given.isSet "_case_sensitive"
  skipsEmpty := given.isSet "_env_ignore_empty"
  absent := (given.value "_env_parse_none_str").text?

/-- Fails if nothing can be cut off the names of variables, or their parts cannot be counted. -/
def check (given : Given) : Except Fault Unit := do
  match given.value "_env_nested_max_split" with
  | .null | .bool _ | .int _ | .float _ => pure ()
  | count => if count.isTruthy then throw .wrongKind
  match given.value "_env_prefix" with
  | .bool _ | .int _ | .float _ => throw .wrongKind
  | _ => pure ()

/-- A name as it is compared with others. -/
def fold (lookup : Lookup) (name : String) : String :=
  if lookup.isExact then name else lowered name

/-- The name of the variable of a setting, if the start of names is a text. -/
def variableName? (lookup : Lookup) (setting : String) : Option String :=
  if lookup.isBare then some (lookup.fold setting)
  else lookup.start.text?.map fun start => lookup.fold (start ++ setting)

/-- The variables that count, with their names as they are compared. -/
def admitted (lookup : Lookup) (entries : List Variable) : List Variable :=
  (entries.filter fun entry => !(lookup.skipsEmpty && entry.value == some "")).map fun entry =>
    { entry with name := lookup.fold entry.name }

/-- What a text stands for. -/
def read (lookup : Lookup) (text : String) : Data :=
  if lookup.absent = some text then .null else .text text

/-- The last value under a name among variables that count. -/
def find? (lookup : Lookup) (entries : List Variable) (name : String) : Option Data := do
  let found ← entries.reverse.find? fun entry => entry.name == name
  lookup.read <$> found.value

end Lookup

end Settings

end SpecGraph
