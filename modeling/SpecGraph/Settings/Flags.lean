import SpecGraph.CommandLine.Word
import SpecGraph.Settings.Basic
import SpecGraph.Settings.Lookup
import SpecGraph.Text.Identifier
import SpecGraph.Text.Printable

/-!
# Settings from arguments

Arguments may be given that are read as a command line, on which every setting is an option with its name.
What the names start with, how they are marked and what other spellings they have is given too. Unless
that is switched off, an argument that fits no option is refused, as is one without its value; so is all
that follows when the arguments ask for help.
-/

namespace SpecGraph

open CommandLine

namespace Settings

/-- What an option of the arguments is for. -/
inductive Flag where
  /-- To ask for help. -/
  | help
  /-- To give the value of a setting. -/
  | value (name : String)
  /-- To set the flag, or to unset it. -/
  | truth (value : Bool)
deriving DecidableEq, Inhabited

/-- How arguments are read. -/
structure Flags where
  /-- The spellings of the options with what they are for. -/
  spellings : List (String × Flag)
  /-- The characters that spellings start with. -/
  mark : String
  /-- The case of the names of options counts. -/
  isExact : Bool
  /-- Arguments that fit no option are left out. -/
  skipsUnknown : Bool
  /-- A refusal ends the program. -/
  ends : Bool
  /-- A value of this text stands for null. -/
  absent : Option String
deriving Inhabited

namespace Flags

/-- A text is parts of an identifier with dots between them. -/
def isDotted (text : String) : Bool :=
  let characters := text.toList
  characters.head? != some '.' && characters.getLast? != some '.' &&
    Text.isIdentifier (characters.filter (· != '.'))

/-- What the names of options start with. -/
def readStart (value : Data) : Except Error String :=
  match value with
  | .null | .list [] | .map [] => pure ""
  | .text start =>
      if start == "" then pure ""
      else if isDotted start then pure (start ++ ".")
      else throw .lookup
  | .list _ | .map _ => throw (.fault .missingMember)
  | value => throw (.fault (if value.isTruthy then .missingMember else .wrongKind))

/-- The marks that options start with. -/
def readMark (value : Data) : Except Fault String :=
  match value with
  | .null => pure "-"
  | .text mark => if mark == "" then throw .outOfRange else pure mark
  | .list [] => throw .outOfRange
  | .list _ => throw .badValue
  | _ => throw .wrongKind

/-- The problems of values that are asked for with the options. -/
def problems (given : Given) : List (String × Problem) :=
  let start :=
    match given.value "_cli_prefix" with
    | .list [] | .map [] => [("arg_prefix", "string_type")]
    | _ => []
  let ofFlag (field name : String) : List (String × Problem) :=
    match given.value name with
    | .null => []
    | value =>
        match readFlag value with
        | .ok _ => []
        | .error problem => [(field, problem)]
  start ++ ofFlag "case_sensitive" "_case_sensitive" ++
    ofFlag "hide_none_type" "_cli_hide_none_type"

/-- A value is false or a zero. -/
def isZero (value : Data) : Bool := value.same (.int 0)

/-- A value is null or the truth value for no. -/
def isNullOrNo : Data → Bool
  | .null => true
  | .bool value => !value
  | _ => false

/-- The name of an option, in which hyphens may stand for underscores. -/
def optionName (given : Given) (start setting : String) : String :=
  let value := given.value "_cli_kebab_case"
  let isPlain := value.same .null || isZero value
  start ++ if isPlain then setting else setting.map fun character =>
    if character = '_' then '-' else character

/-- The other names of an option. -/
def shortcuts (given : Given) (option : String) : Except Fault (List String) := do
  match given.value "_cli_shortcuts" with
  | .map entries =>
      let found ← entries.mapM fun (target, names) => do
        if target.text? = some option then
          match names with
          | .text name => return [name]
          | names => (← names.items).mapM fun name =>
              match name with
              | .text name => pure name
              | _ => throw .wrongKind
        else return []
      return found.flatten
  | value => if value.isTruthy then throw .missingMember else return []

/-- The spelling of a name: one mark before a letter, or else two. -/
def spelling (mark name : String) : Except Fault String :=
  match name.toList with
  | [] => throw .outOfRange
  | letters => pure (String.ofList ((mark.toList ++ mark.toList).take (Nat.min letters.length 2)) ++ name)

/-- The option of a setting, given whether the flag is an option without a value and whether it has
another one to unset it. -/
def optionOf (isSwitch isDual : Bool) (setting spelling : String) : List (String × Flag) :=
  let letters := spelling.toList
  let value := !("--no-".toList.isPrefixOf letters)
  if setting = flagName && isSwitch then
    if isDual && "--".toList.isPrefixOf letters then
      [(spelling, .truth value), ("--no-" ++ String.ofList (letters.drop 2), .truth false)]
    else [(spelling, .truth (value || !isDual))]
  else [(spelling, .value setting)]

/-- The options of all settings. A name that is taken is no option of another setting. -/
def settingSpellings (given : Given) (start mark : String) : Except Fault (List (String × Flag)) := do
  let implicit := given.value "_cli_implicit_flags"
  let isDual := implicit.text? != some "toggle"
  let (found, _) ← names.foldlM (fun (found, taken) setting => do
    let name := optionName given start setting
    let free := (name :: (← shortcuts given name)).filter fun other => !taken.contains other
    let spellings ← free.mapM (spelling mark)
    return (found ++ spellings.flatMap (optionOf implicit.isTruthy isDual setting), taken ++ free))
    (([] : List (String × Flag)), ([] : List String))
  return found

/-- The spellings of the option for help. -/
def helpSpellings (mark : String) : List (String × Flag) :=
  let first := if mark.toList.contains '-' then '-' else mark.toList.headD '-'
  [(String.ofList [first, 'h'], .help), (String.ofList [first, first] ++ "help", .help)]

/-- No spelling is that of two settings. -/
def isClear : List (String × Flag) → Bool
  | [] => true
  | (spelling, flag) :: rest =>
      rest.all (fun other => other.1 != spelling || other.2 == flag) && isClear rest

/-- The text that stands for null. -/
def absentText (given : Given) : Option String :=
  let given? (name : String) : Option Data :=
    if given.isSet name then some (given.value name) else none
  match given? "_env_parse_none_str" <|> given? "_cli_parse_none_str" with
  | some value => value.text?
  | none =>
      match given.value "_cli_avoid_json" with
      | .bool true => some "None"
      | _ => some "null"

/-- How arguments are read, as given values tell. -/
def ofGiven (given : Given) : Except Error Flags := do
  let ofFault {α : Type} (result : Except Fault α) : Except Error α := result.mapError .fault
  match given.value "_cli_flag_prefix_char" with
  | .map _ => throw (.fault .wrongKind)
  | _ => pure ()
  let start ← readStart (given.value "_cli_prefix")
  let mark ← ofFault (readMark (given.value "_cli_flag_prefix_char"))
  match problems given with
  | [] => pure ()
  | found => throw (.settings found)
  let spellings := helpSpellings mark ++ (← ofFault (settingSpellings given start mark))
  if !isClear spellings then throw .clash
  return {
    spellings, mark
    isExact := !isNullOrNo (given.value "_case_sensitive")
    skipsUnknown := given.isSet "_cli_ignore_unknown_args"
    ends := given.isSet "_cli_exit_on_error" || (given.value "_cli_exit_on_error").same .null
    absent := absentText given }

/-- The arguments, if they are to be read. -/
def arguments (value : Data) : Except Error (List Data) :=
  match value with
  | .null => pure []
  | .bool _ => pure []
  | .list arguments => pure arguments
  | value => if isZero value then pure [] else throw .lookup

/-- An argument as it is read: where the case of names does not count, an option has a name in small
letters and no second line. -/
def argument (flags : Flags) (value : Data) : Except Fault String :=
  match value with
  | .text text =>
      let letters := text.toList
      let mark := flags.mark.toList
      let name := letters.takeWhile fun character => character != '=' && !Text.isWhite character
      if flags.isExact || !mark.isPrefixOf letters || name.length ≤ mark.length then pure text
      else
        let rest := (letters.drop name.length).takeWhile fun character => character != '\n'
        pure (String.ofList (Text.lowered name ++ rest))
  | value => if flags.isExact || value.isTruthy then throw .wrongKind else pure ""

/-- The options that arguments may have. -/
def options (flags : Flags) : Options Flag where
  spellings := flags.spellings
  takesValue flag :=
    match flag with
    | .value _ => true
    | _ => false
  allowsBeginnings := false
  marks := flags.mark.toList

/-- What a refusal of arguments is. -/
def refusal (flags : Flags) : Error := if flags.ends then .ended else .lookup

/-- The values of settings with one more; a later value replaces an earlier one. -/
def give (values : List (String × Data)) (name : String) (value : Data) : List (String × Data) :=
  (name, value) :: values

/-- The values of settings with those of options without values. -/
def giveAll (values : List (String × Data)) : List Flag → Except Error (List (String × Data))
  | [] => pure values
  | .truth value :: rest => giveAll (give values flagName (.bool value)) rest
  | _ :: _ => throw .ended

/-- What the value of an option stands for. -/
def valueOf (flags : Flags) (text : String) : Data :=
  if flags.absent = some text then .null else .text text

/-- The values of settings among words. -/
def collect (flags : Flags) (values : List (String × Data)) (isClean : Bool) :
    List (Word Flag) → Except Error (List (String × Data))
  | [] => if isClean || flags.skipsUnknown then pure values else throw flags.refusal
  | .options plain (some (.value name, some text)) :: rest => do
      collect flags (give (← giveAll values plain) name (flags.valueOf text)) isClean rest
  | .options plain (some (.value name, none)) :: .plain text :: rest => do
      collect flags (give (← giveAll values plain) name (flags.valueOf text)) isClean rest
  | .options _ (some _) :: _ => throw flags.refusal
  | .options plain none :: rest => do collect flags (← giveAll values plain) isClean rest
  | .misused :: _ => throw flags.refusal
  | _ :: rest => collect flags values false rest

/-- The values of settings that arguments give. -/
def read (given : Given) : Except Error (List (String × Data)) := do
  match given.value "_cli_parse_args" with
  | .null => return []
  | value =>
      let flags ← ofGiven given
      let arguments ← (← arguments value).mapM fun value => (flags.argument value).mapError Error.fault
      collect flags [] true (Word.readAll flags.options arguments)

end Flags

end Settings

end SpecGraph
