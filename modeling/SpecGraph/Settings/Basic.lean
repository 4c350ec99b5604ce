import SpecGraph.Error.Basic
import SpecGraph.Log
import SpecGraph.Path

/-!
# Settings

Settings tell where manifests are written, whether breaking changes are written too, and what is logged.
A value has to be a text, or for the flag a truth value in one of its spellings.
-/

namespace SpecGraph

/-- What can be configured. -/
structure Settings where
  /-- The root folder of all that is written. -/
  specRoot : String
  /-- The folder of the manifest of schemas below the root. -/
  schemaFolder : String
  /-- The folder of the manifest of collections below the root. -/
  storageFolder : String
  /-- The folder of the manifest of dispatches below the root. -/
  dispatchFolder : String
  /-- Breaking changes are written all the same. -/
  allowBreaking : Bool
  /-- The name of the least level that is logged. -/
  logLevel : String
  /-- The form of the lines of the log. -/
  logFormat : LogFormat
deriving DecidableEq, Inhabited

namespace Settings

/-- The settings of a program that was told nothing. -/
def default : Settings := ⟨"./spec", "schema", "db", "dispatch", false, "INFO", .text⟩

/-- The name of the flag. -/
def flagName : String := "allow_breaking"

/-- The names of the settings. -/
def names : List String :=
  ["spec_root", "schema_dir", "db_dir", "dispatch_dir", flagName, "log_level", "log_format"]

/-- The kind of problem of a value. -/
abbrev Problem := String

/-- A text setting. -/
def readText (value : Data) : Except Problem String :=
  match value with
  | .text text => pure text
  | _ => throw "string_type"

/-- A truth value from a number of at most 64 bits. -/
def boolOfInt (value : Int) : Except Problem Bool :=
  if value = 0 then pure false
  else if value = 1 then pure true
  else if -9223372036854775808 ≤ value ∧ value ≤ 9223372036854775807 then throw "bool_parsing"
  else throw "bool_type"

/-- A flag. -/
def readFlag (value : Data) : Except Problem Bool :=
  match value with
  | .bool flag => pure flag
  | .int number => boolOfInt number
  | .float number =>
      if number.isNaN || number.isInfinite then throw "bool_type"
      else if number.compareInt? number.truncate = some .eq ∧
          number.truncate.natAbs < 9223372036854775808 then boolOfInt number.truncate
      else throw "bool_type"
  | .text text =>
      let word := text.map Char.toLower
      if ["0", "off", "f", "false", "n", "no"].contains word then pure false
      else if ["1", "on", "t", "true", "y", "yes"].contains word then pure true
      else if Text.isWhole text then throw "bool_parsing"
      else throw "string_unicode"
  | _ => throw "bool_type"

/-- The form of the log. -/
def readFormat (value : Data) : Except Problem LogFormat :=
  match value with
  | .text text =>
      if text == "text" then pure .text
      else if text == "json" then pure .json
      else if Text.isWhole text then throw "literal_error"
      else throw "string_unicode"
  | _ => throw "literal_error"

/-- The folder of the manifest of schemas under a root. -/
def schemaRoot (settings : Settings) (root : Path) : Path :=
  root.join (Path.parse settings.schemaFolder)

/-- The folder of the manifest of collections under a root. -/
def storageRoot (settings : Settings) (root : Path) : Path :=
  root.join (Path.parse settings.storageFolder)

/-- The folder of the manifest of dispatches under a root. -/
def dispatchRoot (settings : Settings) (root : Path) : Path :=
  root.join (Path.parse settings.dispatchFolder)

/-- The small letters outside ASCII whose capitals are in ASCII, and the small letters of ASCII, as
capitals. -/
def capitals (character : Char) : List Char :=
  let code := character.toNat
  if code = 0x131 then ['I']
  else if code = 0x17F then ['S']
  else if code = 0xFB05 ∨ code = 0xFB06 then ['S', 'T']
  else [character.toUpper]

/-- The number of the level of a name; a name that is none stands for the level of information. -/
def levelNumber (name : String) : Except Fault Nat :=
  let known := [("DEBUG", 10), ("INFO", 20), ("WARNING", 30), ("WARN", 30), ("ERROR", 40),
    ("CRITICAL", 50), ("FATAL", 50), ("NOTSET", 0)]
  let upper := String.ofList (name.toList.flatMap capitals)
  match known.lookup upper with
  | some number => pure number
  | none =>
      if upper == "BASIC_FORMAT" then throw .badValue
      else if upper == "_STYLES" then throw .wrongKind
      else pure Level.info.number

/-- The log handler of the settings. -/
def handler (settings : Settings) : Except Fault LogHandler :=
  return ⟨← levelNumber settings.logLevel, settings.logFormat⟩

end Settings

end SpecGraph
