import SpecGraph.Text.Integer

/-!
# Words of a command line

An argument of a command line is an option or it is not. An option is spelled in full, or, where that is
allowed, by a beginning that fits no other option; its value is the next argument, or stands behind an
equals sign, or directly behind a spelling of one letter. Behind a letter that takes no value stand more
letters of options. An argument that looks like an option is never taken for a value, unless it is a
negative number or has a blank in it. After a double hyphen nothing is an option.
-/

namespace SpecGraph

namespace CommandLine

/-- The options that a command line may have. -/
structure Options (α : Type) where
  /-- The spellings of the options. -/
  spellings : List (String × α)
  /-- An option has a value. -/
  takesValue : α → Bool
  /-- The beginning of a spelling will do. -/
  allowsBeginnings : Bool
  /-- The characters that spellings start with. -/
  marks : List Char

/-- How an argument reads. -/
inductive Word (α : Type) where
  /-- Options without values, and then one with a value, unless that is still to follow. -/
  | options (plain : List α) (last : Option (α × Option String))
  /-- An option with a value that it does not take. -/
  | misused
  /-- It begins more than one option. -/
  | ambiguous
  /-- It looks like an option and is none. -/
  | unknown
  /-- It does not look like an option. -/
  | plain (text : String)
deriving DecidableEq, Inhabited

namespace Options

variable {α : Type}

/-- A text starts as a spelling does. -/
def isMarked (options : Options α) : List Char → Bool
  | first :: _ => options.marks.contains first
  | [] => false

end Options

namespace Word

variable {α : Type}

/-- Digits, with at most one point that has digits behind it. -/
def isNumber (text : List Char) : Bool :=
  let isDigit (character : Char) : Bool := (Text.anyDigit? character).isSome
  match text.dropWhile isDigit with
  | [] => text != []
  | '.' :: places => places != [] && places.all isDigit
  | _ => false

/-- A minus sign and a number, after which a line may end. -/
def isNegativeNumber : List Char → Bool
  | '-' :: rest =>
      isNumber (if rest.getLast? = some '\n' then rest.dropLast else rest)
  | _ => false

/-- Some spelling looks like a negative number. -/
def namesNumbers (options : Options α) : Bool :=
  options.spellings.any fun entry => isNegativeNumber entry.1.toList

/-- The word of options without values and the letters behind the last one, of which there is one at
least; all of them have one mark. -/
def ofLetters (options : Options α) (mark : Char) (plain : List α) : List Char → Word α
  | [] => misused
  | letter :: rest =>
      match options.spellings.lookup (String.ofList [mark, letter]) with
      | none => misused
      | some switch =>
          if options.takesValue switch then
            .options plain (some (switch, if rest = [] then none else some (String.ofList rest)))
          else if rest = [] then .options (plain ++ [switch]) none
          else ofLetters options mark (plain ++ [switch]) rest

/-- The word of an option in a spelling with what stands behind it. -/
def ofOption (options : Options α) (spelling : List Char) (switch : α) (value : Option String) :
    Word α :=
  if options.takesValue switch then .options [] (some (switch, value))
  else
    match value with
    | none => .options [switch] none
    | some letters =>
        match spelling with
        | [mark, _] => ofLetters options mark [switch] letters.toList
        | _ => misused

/-- The text before the first equals sign and the text behind it. -/
def splitAtEquals (text : List Char) : List Char × Option String :=
  let stem := text.takeWhile fun character => character != '='
  (stem, if stem.length < text.length then some (String.ofList (text.drop (stem.length + 1))) else none)

/-- The words that an argument may be: options in their beginnings, or in a letter with what stands
directly behind it. -/
def candidates (options : Options α) (text : List Char) : List (Word α) :=
  if options.isMarked (text.drop 1) then
    if options.allowsBeginnings then
      let (stem, value) := splitAtEquals text
      (options.spellings.filter fun entry => stem.isPrefixOf entry.1.toList).map fun entry =>
        ofOption options entry.1.toList entry.2 value
    else []
  else
    (options.spellings.filter fun entry => entry.1.toList == text.take 2).map fun entry =>
      ofOption options (text.take 2) entry.2 (some (String.ofList (text.drop 2)))

/-- An argument that starts with the mark of options and is not exactly an option. -/
def readLoose (options : Options α) (text : List Char) : Word α :=
  match candidates options text with
  | [word] => word
  | _ :: _ => ambiguous
  | [] =>
      if (isNegativeNumber text && !namesNumbers options) || text.contains ' ' then
        plain (String.ofList text)
      else unknown

/-- The word of an argument. -/
def read (options : Options α) (argument : String) : Word α :=
  let text := argument.toList
  if !options.isMarked text then plain argument
  else
    match options.spellings.lookup argument with
    | some switch => ofOption options text switch none
    | none =>
        if text.length = 1 then plain argument
        else
          match splitAtEquals text with
          | (_, none) => readLoose options text
          | (stem, some value) =>
              match options.spellings.lookup (String.ofList stem) with
              | some switch => ofOption options stem switch (some value)
              | none => readLoose options text

/-- The words of arguments; a double hyphen is an option that there is not. -/
def readAll (options : Options α) : List String → List (Word α)
  | [] => []
  | argument :: rest =>
      if argument = "--" then unknown :: rest.map plain
      else read options argument :: readAll options rest

end Word

end CommandLine

end SpecGraph
