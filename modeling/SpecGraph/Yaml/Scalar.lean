import SpecGraph.Data.Moment

/-!
# Types of plain scalars

A plain scalar without a tag has the type that its text suggests: a truth value, a floating-point
number, an integer, the key that merges mappings, null, a date or time, the mark of a default value,
or else a text. Numbers may have underscores between their digits, and parts of base sixty between
colons.
-/

namespace SpecGraph

namespace Yaml

/-- The type of a node. -/
inductive Tag where
  | null | bool | int | float | binary | timestamp | text
  | merge | default | sequence | mapping | set | ordered | pairs
  | unknown (name : String)
deriving DecidableEq, Inhabited

namespace Tag

/-- The name space of the types of YAML. -/
def standard : String := "tag:yaml.org,2002:"

/-- The types with a name in the standard name space. -/
def names : List (String × Tag) := [
  ("null", null), ("bool", bool), ("int", int), ("float", float), ("binary", binary),
  ("timestamp", timestamp), ("str", text), ("merge", merge), ("value", default), ("seq", sequence),
  ("map", mapping), ("set", set), ("omap", ordered), ("pairs", pairs)]

/-- The type with a full name. -/
def ofName (name : String) : Tag :=
  match names.find? fun entry => standard ++ entry.1 == name with
  | some entry => entry.2
  | none => unknown name

/-- A type whose values have no parts. -/
def isLeaf : Tag → Bool
  | null | bool | int | float | binary | timestamp | text => true
  | _ => false

/-- The short form of a type, as it stands before a node. -/
def shortName (tag : Tag) : String :=
  match names.find? fun entry => entry.2 == tag, tag with
  | some entry, _ => "!!" ++ entry.1
  | none, unknown name => name
  | none, _ => ""

end Tag

/-- A text without a sign at its start. -/
def withoutSign : List Char → List Char
  | '-' :: rest => rest
  | '+' :: rest => rest
  | text => text

/-- A decimal digit or an underscore. -/
def isGroupedDigit (character : Char) : Bool := Text.isDigit character || character == '_'

/-- A digit, followed by digits and underscores. -/
def isGrouped : List Char → Bool
  | [] => false
  | first :: rest => Text.isDigit first && rest.all isGroupedDigit

/-- Digits and underscores that do not start with a zero. -/
def isGroupedFromOne (text : List Char) : Bool := isGrouped text && text.head? != some '0'

/-- A part of base sixty: one digit, or two of which the first is below six. -/
def isSixtieth : List Char → Bool
  | [digit] => Text.isDigit digit
  | [first, second] => '0' ≤ first && first ≤ '5' && Text.isDigit second
  | _ => false

/-- The parts of a text between occurrences of a character. -/
def splitAt (mark : Char) : List Char → List (List Char)
  | [] => [[]]
  | character :: rest =>
      if character = mark then [] :: splitAt mark rest
      else
        match splitAt mark rest with
        | [] => [[character]]
        | part :: parts => (character :: part) :: parts

/-- Nothing, or an exponent with its sign. -/
def isExponent : List Char → Bool
  | [] => true
  | mark :: sign :: digits =>
      (mark == 'e' || mark == 'E') && (sign == '-' || sign == '+') && !digits.isEmpty &&
        digits.all Text.isDigit
  | _ => false

/-- A number with a point and digits before it. -/
def isPointed (text : List Char) : Bool :=
  let whole := text.takeWhile isGroupedDigit
  match text.drop whole.length with
  | '.' :: rest => isGrouped whole && isExponent (rest.dropWhile isGroupedDigit)
  | _ => false

/-- A number that starts with a point. -/
def isPointFirst : List Char → Bool
  | '.' :: rest =>
      isGrouped (rest.takeWhile isGroupedDigit) && isExponent (rest.dropWhile isGroupedDigit)
  | _ => false

/-- Parts of base sixty of which the last one has a point. -/
def isSexagesimalFloat (text : List Char) : Bool :=
  match splitAt ':' text with
  | whole :: parts =>
      match parts.reverse with
      | last :: middle =>
          let before := last.takeWhile fun character => character != '.'
          match last.drop before.length with
          | '.' :: rest =>
              isGrouped whole && middle.all isSixtieth && isSixtieth before &&
                rest.all isGroupedDigit
          | _ => false
      | [] => false
  | [] => false

/-- A floating-point number. -/
def isFloat (text : List Char) : Bool :=
  isPointed (withoutSign text) || isPointFirst text || isSexagesimalFloat (withoutSign text) ||
    [".inf", ".Inf", ".INF"].contains (String.ofList (withoutSign text)) ||
    [".nan", ".NaN", ".NAN"].contains (String.ofList text)

/-- Parts of base sixty. -/
def isSexagesimalInt (text : List Char) : Bool :=
  match splitAt ':' text with
  | whole :: parts => isGroupedFromOne whole && !parts.isEmpty && parts.all isSixtieth
  | [] => false

/-- A number in base two, eight or sixteen. -/
def isBased : List Char → Bool
  | '0' :: 'b' :: rest =>
      !rest.isEmpty && rest.all fun digit => digit == '0' || digit == '1' || digit == '_'
  | '0' :: 'x' :: rest =>
      !rest.isEmpty && rest.all fun digit => (Text.hexValue? digit).isSome || digit == '_'
  | '0' :: rest =>
      !rest.isEmpty && rest.all fun digit => ('0' ≤ digit && digit ≤ '7') || digit == '_'
  | _ => false

/-- An integer. -/
def isInt (text : List Char) : Bool :=
  let unsigned := withoutSign text
  unsigned == ['0'] || isGroupedFromOne unsigned || isBased unsigned || isSexagesimalInt unsigned

/-- A text without the line feed at its end, unless it is nothing else. -/
def withoutLineFeed (text : List Char) : List Char :=
  match text.reverse with
  | '\n' :: character :: rest => (character :: rest).reverse
  | _ => text

/-- The parts of a date or time as they are written. -/
structure Timestamp where
  year : Nat
  month : Nat
  day : Nat
  /-- Month and day have two digits each. -/
  padded : Bool
  /-- Hour, minute, second and the digits of the fraction. -/
  clock : Option (Nat × Nat × Nat × List Char)
  /-- The offset from universal time in minutes. -/
  offset : Option Int

/-- A number of digits between a least and a greatest count, and what follows them. -/
def takeDigits? (least most : Nat) (text : List Char) : Option (List Char × List Char) :=
  let digits := (text.take most).takeWhile Text.isDigit
  if digits.length < least then none else some (digits, text.drop digits.length)

/-- What follows a character. -/
def after? (mark : Char) : List Char → Option (List Char)
  | [] => none
  | character :: rest => if character = mark then some rest else none

/-- A blank inside a time. -/
def isTimeBlank (character : Char) : Bool := character == ' ' || character == '\t'

/-- The offset at the end of a time, if there is one. -/
def readOffset? (text : List Char) : Option (Option Int) :=
  if text.isEmpty then some none
  else
    match text.dropWhile isTimeBlank with
    | ['Z'] => some (some 0)
    | sign :: rest => do
        if sign ≠ '-' ∧ sign ≠ '+' then none
        let (hours, rest) ← takeDigits? 1 2 rest
        let minutes ←
          match rest with
          | [] => some []
          | _ => do
              let (digits, rest) ← takeDigits? 2 2 (← after? ':' rest)
              if rest.isEmpty then some digits else none
        let size := Int.ofNat (Text.readDecimal hours * 60 + Text.readDecimal minutes)
        return some (if sign = '-' then -size else size)
    | [] => none

/-- What follows the mark between a day and a time: a letter, or blanks. -/
def afterDay? : List Char → Option (List Char)
  | [] => none
  | character :: rest =>
      if character = 'T' ∨ character = 't' then some rest
      else if isTimeBlank character then some (rest.dropWhile isTimeBlank)
      else none

/-- The parts of a date or time. -/
def Timestamp.readParts? (text : List Char) : Option Timestamp := do
  let (year, rest) ← takeDigits? 4 4 text
  let (month, rest) ← takeDigits? 1 2 (← after? '-' rest)
  let (day, rest) ← takeDigits? 1 2 (← after? '-' rest)
  let date : Timestamp :=
    { year := Text.readDecimal year, month := Text.readDecimal month, day := Text.readDecimal day,
      padded := month.length = 2 && day.length = 2, clock := none, offset := none }
  if rest.isEmpty then return date
  let (hour, rest) ← takeDigits? 1 2 (← afterDay? rest)
  let (minute, rest) ← takeDigits? 2 2 (← after? ':' rest)
  let (second, rest) ← takeDigits? 2 2 (← after? ':' rest)
  let (fraction, rest) :=
    match rest with
    | '.' :: more => (more.takeWhile Text.isDigit, more.dropWhile Text.isDigit)
    | _ => ([], rest)
  let offset ← readOffset? rest
  return { date with
    clock := some (Text.readDecimal hour, Text.readDecimal minute, Text.readDecimal second, fraction),
    offset }

/-- The parts of a date or time, after which a line may end. -/
def Timestamp.read? (text : List Char) : Option Timestamp := readParts? (withoutLineFeed text)

/-- A date, which has two digits for month and day, or a time. -/
def isTimestamp (text : List Char) : Bool :=
  match Timestamp.read? text with
  | some parts => parts.padded || parts.clock.isSome
  | none => false

/-- The spellings of the truth values. -/
def truthValues : List (String × Bool) :=
  [("yes", true), ("no", false), ("true", true), ("false", false), ("on", true), ("off", false)]

/-- A word in small letters, in capitals, or with one capital. -/
def spellings (word : String) : List String :=
  match word.toList with
  | [] => [word]
  | first :: rest =>
      [word, String.ofList (first.toUpper :: rest),
        String.ofList (first.toUpper :: rest.map Char.toUpper)]

/-- The type that the text of a scalar suggests; a line feed at its end does not count. -/
def Tag.ofPlain (written : List Char) : Tag :=
  let characters := withoutLineFeed written
  let text := String.ofList characters
  if (truthValues.flatMap fun entry => spellings entry.1).contains text then .bool
  else if isFloat characters then .float
  else if isInt characters then .int
  else if text == "<<" then .merge
  else if text == "" || text == "~" || (spellings "null").contains text then .null
  else if isTimestamp characters then .timestamp
  else if text == "=" then .default
  else if text == "!" || text == "&" || text == "*" then .unknown (standard ++ "yaml")
  else .text

end Yaml

end SpecGraph
