import SpecGraph.Error.Basic
import SpecGraph.Text.Numeral
import SpecGraph.Text.CodePoints

/-!
# Reading JSON

A JSON text is one value, with blanks before and after it. Integers have as many digits as a numeral
may have; a numeral with a fraction or an exponent is a floating-point number; `NaN`, `Infinity` and
`-Infinity` are accepted. Of several members with one name the last one counts, in the place of the
first. Two escapes of the halves of a pair are one character; a half without the other one stays a half.
Collections can be nested for as long as there is room.
-/

namespace SpecGraph

namespace Json

/-- A blank between two parts of a JSON text. -/
def isBlank (character : Char) : Bool :=
  character == ' ' || character == '\t' || character == '\n' || character == '\r'

/-- A text without the blanks at its start. -/
def skipBlanks (text : List Char) : List Char := text.dropWhile isBlank

/-- Four hexadecimal digits and what follows them. -/
def readUnit? : List Char → Option (Nat × List Char)
  | first :: second :: third :: fourth :: rest => do
      let first ← Text.hexValue? first
      let second ← Text.hexValue? second
      let third ← Text.hexValue? third
      let fourth ← Text.hexValue? fourth
      return (((first * 16 + second) * 16 + third) * 16 + fourth, rest)
  | _ => none

/-- The code point of a unit escape, which may go on with the other half of a pair. -/
def pairedCode (unit : Nat) (rest : List Char) : Nat × List Char :=
  if Text.isHighHalf unit then
    match rest with
    | '\\' :: 'u' :: more =>
        match readUnit? more with
        | some (low, after) =>
            if Text.isLowHalf low then (0x10000 + (unit - 0xD800) * 0x400 + (low - 0xDC00), after)
            else (unit, rest)
        | none => (unit, rest)
    | _ => (unit, rest)
  else (unit, rest)

/-- The code point of the escape after a backslash. -/
def readEscape? : List Char → Option (Nat × List Char)
  | 'u' :: rest => do
      let (unit, rest) ← readUnit? rest
      return pairedCode unit rest
  | '"' :: rest => some ('"'.toNat, rest)
  | '\\' :: rest => some ('\\'.toNat, rest)
  | '/' :: rest => some ('/'.toNat, rest)
  | 'b' :: rest => some (8, rest)
  | 'f' :: rest => some (12, rest)
  | 'n' :: rest => some ('\n'.toNat, rest)
  | 'r' :: rest => some ('\r'.toNat, rest)
  | 't' :: rest => some ('\t'.toNat, rest)
  | _ => none

/-- The characters of a text up to its closing quote. -/
def readText? : (fuel : Nat) → List Char → Option (List Char × List Char)
  | 0, _ => none
  | _ + 1, [] => none
  | fuel + 1, character :: rest =>
      if character = '"' then some ([], rest)
      else if character = '\\' then do
        let (code, rest) ← readEscape? rest
        let (characters, rest) ← readText? fuel rest
        return (Text.ofCode code ++ characters, rest)
      else if character.toNat < 32 then none
      else do
        let (characters, rest) ← readText? fuel rest
        return (character :: characters, rest)

/-- The decimal digits at the start of a text and what follows them. -/
def spanDigits (text : List Char) : List Char × List Char :=
  (text.takeWhile Text.isDigit, text.dropWhile Text.isDigit)

/-- The fraction of a numeral: its digits after the point, or none. -/
def readFraction (text : List Char) : List Char × List Char :=
  match text with
  | '.' :: rest =>
      let (digits, after) := spanDigits rest
      if digits.isEmpty then ([], text) else (digits, after)
  | _ => ([], text)

/-- The exponent of a numeral with its sign, if it has one. -/
def readExponent (text : List Char) : Option Int × List Char :=
  match text with
  | mark :: rest =>
      if mark = 'e' ∨ mark = 'E' then
        let (negative, unsigned) : Bool × List Char :=
          match rest with
          | '-' :: more => (true, more)
          | '+' :: more => (false, more)
          | _ => (false, rest)
        let (digits, after) := spanDigits unsigned
        if digits.isEmpty then (none, text)
        else
          let size := Int.ofNat (Text.readDecimal digits)
          (some (if negative then -size else size), after)
      else (none, text)
  | [] => (none, text)

/-- The whole part of a numeral: zero alone, or digits of which the first is not zero. -/
def readWhole? (text : List Char) : Option (List Char × List Char) :=
  match text with
  | '0' :: rest => some (['0'], rest)
  | _ =>
      let (digits, rest) := spanDigits text
      if digits.isEmpty then none else some (digits, rest)

/-- The number at the start of a text, after its sign. -/
def readUnsigned (negative : Bool) (text : List Char) : Except Error (Data × List Char) := do
  match readWhole? text with
  | none => throw .notJson
  | some (whole, rest) =>
      let (fraction, rest) := readFraction rest
      let (exponent, rest) := readExponent rest
      if fraction.isEmpty && exponent.isNone then
        if Text.mostDigits < whole.length then throw (.fault .badValue)
        let size := Int.ofNat (Text.readDecimal whole)
        return (.int (if negative then -size else size), rest)
      else
        let digits := Text.readDecimal (whole ++ fraction)
        let scale := exponent.getD 0 - Int.ofNat fraction.length
        return (.float (Binary64.ofDecimal negative digits scale), rest)

/-- What follows a word at the start of a text. -/
def afterWord? (word : List Char) (text : List Char) : Option (List Char) :=
  if word.isPrefixOf text then some (text.drop word.length) else none

/-- A value that is a single word. -/
def readWord? (text : List Char) : Option (Data × List Char) :=
  [("null", Data.null), ("true", .bool true), ("false", .bool false),
    ("NaN", .float Binary64.nan), ("Infinity", .float (Binary64.infinity false)),
    ("-Infinity", .float (Binary64.infinity true))].findSome? fun (word, value) =>
      (afterWord? word.toList text).map fun rest => (value, rest)

/-- A value that is a word or a number. -/
def readScalar (text : List Char) : Except Error (Data × List Char) :=
  match readWord? text with
  | some found => pure found
  | none =>
      match text with
      | '-' :: rest => readUnsigned true rest
      | _ => readUnsigned false text

/-- The characters of a text up to its closing quote, which it has to have. -/
def readText (text : List Char) : Except Error (List Char × List Char) :=
  match readText? (text.length + 1) text with
  | some found => pure found
  | none => throw .notJson

mutual

/-- The value at the start of a text, inside which there is room for some levels of collections. -/
def readValue (room : Nat) : (fuel : Nat) → List Char → Except Error (Data × List Char)
  | 0, _ => throw .notJson
  | fuel + 1, text =>
      match text with
      | [] => throw .notJson
      | character :: rest =>
          if character = '"' then do
            let (characters, rest) ← readText rest
            return (.text (String.ofList characters), rest)
          else if character = '[' then do
            if room = 0 then throw (.fault .tooDeep)
            match skipBlanks rest with
            | ']' :: rest => return (.list [], rest)
            | rest =>
                let (items, rest) ← readItems (room - 1) fuel rest
                return (.list items, rest)
          else if character.toNat = 123 then do
            if room = 0 then throw (.fault .tooDeep)
            match skipBlanks rest with
            | closing :: more =>
                if closing.toNat = 125 then return (.map [], more)
                else
                  let (entries, rest) ← readEntries (room - 1) fuel (closing :: more)
                  return (.map (Table.ofEntries entries), rest)
            | [] => throw .notJson
          else readScalar text

/-- The items of a list that is not empty, up to its closing bracket. -/
def readItems (room : Nat) : (fuel : Nat) → List Char → Except Error (List Data × List Char)
  | 0, _ => throw .notJson
  | fuel + 1, text => do
      let (item, rest) ← readValue room fuel text
      match skipBlanks rest with
      | ',' :: rest =>
          let (items, rest) ← readItems room fuel (skipBlanks rest)
          return (item :: items, rest)
      | ']' :: rest => return ([item], rest)
      | _ => throw .notJson

/-- The entries of an object that is not empty, up to its closing brace. -/
def readEntries (room : Nat) : (fuel : Nat) → List Char →
    Except Error (List (Data × Data) × List Char)
  | 0, _ => throw .notJson
  | fuel + 1, text =>
      match text with
      | '"' :: rest => do
          let (name, rest) ← readText rest
          match skipBlanks rest with
          | ':' :: rest =>
              let (value, rest) ← readValue room fuel (skipBlanks rest)
              let entry := (Data.text (String.ofList name), value)
              match skipBlanks rest with
              | closing :: more =>
                  if closing = ',' then
                    let (entries, rest) ← readEntries room fuel (skipBlanks more)
                    return (entry :: entries, rest)
                  else if closing.toNat = 125 then return ([entry], more)
                  else throw .notJson
              | [] => throw .notJson
          | _ => throw .notJson
      | _ => throw .notJson

end

/-- The value of a JSON text as characters, with room for a number of collections inside one another. -/
def readCharacters (room : Nat) (text : List Char) : Except Error Data := do
  let start := skipBlanks text
  let (value, rest) ← readValue room (2 * start.length + 2) start
  if (skipBlanks rest).isEmpty then return value else throw .notJson

/-- The value of a JSON text, with room for a number of collections inside one another. -/
def readWithin (room : Nat) (text : String) : Except Error Data := readCharacters room text.toList

/-- The greatest number of collections inside one another. -/
def mostLevels : Nat := roomWithin 10 1

/-- The value of a JSON text. -/
def read (text : String) : Except Error Data := readWithin mostLevels text

end Json

end SpecGraph
