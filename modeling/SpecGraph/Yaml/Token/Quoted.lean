import SpecGraph.Text.Numeral
import SpecGraph.Text.CodePoints
import SpecGraph.Yaml.Cursor
import SpecGraph.Yaml.Token

/-!
# Quoted scalars

A scalar between single quotes holds every character but a quote as it stands, and a quote written
twice; one between double quotes has escapes. Line breaks inside are folded: blanks around them are
dropped, a single break becomes a space, and of several breaks all but the first are kept.
-/

namespace SpecGraph

namespace Yaml

/-- The character of a one-letter escape. -/
def escapedLetter? (letter : Char) : Option Char :=
  (("0abt\tnvfre \"\\/N_LP".toList).zip
    ([0, 7, 8, 9, 9, 10, 11, 12, 13, 27, 32, 34, 92, 47, 0x85, 0xA0, 0x2028, 0x2029].map
      Char.ofNat)).lookup letter

/-- The number of hexadecimal digits after an escape letter. -/
def escapeWidth? (letter : Char) : Option Nat :=
  if letter = 'x' then some 2 else if letter = 'u' then some 4
  else if letter = 'U' then some 8 else none

/-- A number of hexadecimal digits and their value. -/
def hexDigits (width : Nat) (cursor : Cursor) : Except Error (Nat × Cursor) := do
  let digits := cursor.rest.take width
  if digits.length = width ∧ digits.all (fun digit => (Text.hexValue? digit).isSome) then
    return (Text.readDigits 16 Text.hexValue? 0 digits, cursor.skip width)
  else throw .notYaml

/-- The characters of a code point, which may be half a pair. -/
def ofCode (code : Nat) : Except Error (List Char) :=
  if 0x7FFFFFFF < code then throw (.fault .notFinite)
  else if 0x10FFFF < code then throw (.fault .badValue)
  else return Text.ofCode code

/-- The blank lines after a line break inside a quoted scalar, up to its next word. -/
def quotedBreaks : (fuel : Nat) → Cursor → Except Error (List Char × Cursor)
  | 0, _ => throw .notYaml
  | fuel + 1, cursor => do
      if cursor.isSeparator then throw .notYaml
      let cursor := cursor.skipWhile isBlank
      if isBreak cursor.peek then
        let (first, cursor) := cursor.lineBreak
        let (more, cursor) ← quotedBreaks fuel cursor
        return (first ++ more, cursor)
      else return ([], cursor)

/-- A line break inside a quoted scalar and the blank lines after it, folded. -/
def foldedBreak (cursor : Cursor) : Except Error (List Char × Cursor) := do
  let (first, cursor) := cursor.lineBreak
  let (more, cursor) ← quotedBreaks cursor.limit cursor
  if first ≠ ['\n'] then return (first ++ more, cursor)
  else if more.isEmpty then return ([' '], cursor)
  else return (more, cursor)

/-- The blanks or line breaks between two words of a quoted scalar. -/
def quotedSpaces (cursor : Cursor) : Except Error (List Char × Cursor) := do
  let (blanks, cursor) := cursor.span isBlank
  if cursor.peek = endMark then throw .notYaml
  else if isBreak cursor.peek then foldedBreak cursor
  else return (blanks, cursor)

/-- The text of an escape after its backslash. -/
def escapeText (cursor : Cursor) : Except Error (List Char × Cursor) := do
  let letter := cursor.peek
  match escapedLetter? letter with
  | some character => return ([character], cursor.advance)
  | none =>
      match escapeWidth? letter with
      | some width =>
          let (code, cursor) ← hexDigits width cursor.advance
          return (← ofCode code, cursor)
      | none =>
          if isBreak letter then
            let (_, cursor) := cursor.lineBreak
            quotedBreaks cursor.limit cursor
          else throw .notYaml

/-- A character that a quoted scalar does not hold as it stands. -/
def endsQuotedRun (character : Char) : Bool :=
  character == '\'' || character == '"' || character == '\\' || isBlankOrEnd character

/-- The word of a quoted scalar from here on. -/
def quotedWord (double : Bool) : (fuel : Nat) → Cursor → Except Error (List Char × Cursor)
  | 0, _ => throw .notYaml
  | fuel + 1, cursor => do
      let (run, cursor) := cursor.span fun character => !endsQuotedRun character
      let character := cursor.peek
      if !double && character == '\'' && cursor.ahead 1 == '\'' then
        let (more, cursor) ← quotedWord double fuel (cursor.skip 2)
        return (run ++ '\'' :: more, cursor)
      else if (double && character == '\'') ||
          (!double && (character == '"' || character == '\\')) then
        let (more, cursor) ← quotedWord double fuel cursor.advance
        return (run ++ character :: more, cursor)
      else if double && character == '\\' then
        let (escaped, cursor) ← escapeText cursor.advance
        let (more, cursor) ← quotedWord double fuel cursor
        return (run ++ escaped ++ more, cursor)
      else return (run, cursor)

/-- The text of a quoted scalar up to its closing quote. -/
def quotedRest (double : Bool) : (fuel : Nat) → Cursor → Except Error (List Char × Cursor)
  | 0, _ => throw .notYaml
  | fuel + 1, cursor => do
      if cursor.peek = (if double then '"' else '\'') then return ([], cursor.advance)
      let (spaces, cursor) ← quotedSpaces cursor
      let (word, cursor) ← quotedWord double cursor.limit cursor
      let (more, cursor) ← quotedRest double fuel cursor
      return (spaces ++ word ++ more, cursor)

/-- The quoted scalar at a quote. -/
def quotedScalar (double : Bool) (cursor : Cursor) : Except Error (Token × Cursor) := do
  let cursor := cursor.advance
  let (word, cursor) ← quotedWord double cursor.limit cursor
  let (more, cursor) ← quotedRest double cursor.limit cursor
  return (.scalar (word ++ more) false, cursor)

end Yaml

end SpecGraph
