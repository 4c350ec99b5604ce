/-!
# Reading a text character by character

A cursor is the rest of a text with its place: the number of characters before it, its line and its
column. The character after the end is NUL, which no text holds.
-/

namespace SpecGraph

namespace Yaml

/-- A place in a text. -/
structure Cursor where
  /-- The text from here on. -/
  rest : List Char
  /-- The number of characters before. -/
  index : Nat
  /-- The number of lines before. -/
  line : Nat
  /-- The number of characters before in this line. -/
  column : Nat
  /-- More than the number of characters of the whole text, and so of those from anywhere on. -/
  limit : Nat
deriving DecidableEq, Inhabited

/-- The character that stands for the end of a text. -/
def endMark : Char := Char.ofNat 0

/-- A mark at the start of a text that takes no column. -/
def byteOrderMark : Char := Char.ofNat 0xFEFF

/-- A character that ends a line. -/
def isBreak (character : Char) : Bool :=
  character == '\n' || character == '\r' || character.toNat == 0x85 ||
    character.toNat == 0x2028 || character.toNat == 0x2029

/-- The end of a line or of the text. -/
def isLineEnd (character : Char) : Bool := character == endMark || isBreak character

/-- A space or the end of a line. -/
def isSpaceOrEnd (character : Char) : Bool := character == ' ' || isLineEnd character

/-- A blank or the end of a line. -/
def isBlankOrEnd (character : Char) : Bool := character == '\t' || isSpaceOrEnd character

/-- A blank within a line. -/
def isBlank (character : Char) : Bool := character == ' ' || character == '\t'

/-- A letter, a digit, a hyphen or an underscore. -/
def isWordChar (character : Char) : Bool :=
  ('0' ≤ character && character ≤ '9') || ('A' ≤ character && character ≤ 'Z') ||
    ('a' ≤ character && character ≤ 'z') || character == '-' || character == '_'

/-- A character of a given text. -/
def isAmong (text : String) (character : Char) : Bool := text.toList.contains character

namespace Cursor

/-- The start of a text. -/
def start (text : List Char) : Cursor := ⟨text, 0, 0, 0, text.length + 1⟩

/-- The character some places further on. -/
def ahead (cursor : Cursor) (distance : Nat) : Char := cursor.rest.getD distance endMark

/-- The next character. -/
def peek (cursor : Cursor) : Char := cursor.ahead 0

/-- The place after the next character. -/
def advance (cursor : Cursor) : Cursor :=
  match cursor.rest with
  | [] => cursor
  | character :: rest =>
      let endsLine := isBreak character && !(character == '\r' && rest.head? == some '\n')
      let next := { cursor with rest, index := cursor.index + 1 }
      if endsLine then { next with line := cursor.line + 1, column := 0 }
      else if character = byteOrderMark then next
      else { next with column := cursor.column + 1 }

/-- The place after some characters. -/
def skip (cursor : Cursor) : (count : Nat) → Cursor
  | 0 => cursor
  | count + 1 => cursor.advance.skip count

/-- The characters of a class from here on, and the place after them. -/
def span (cursor : Cursor) (inClass : Char → Bool) : List Char × Cursor :=
  let taken := cursor.rest.takeWhile inClass
  (taken, cursor.skip taken.length)

/-- The place after the characters of a class. -/
def skipWhile (cursor : Cursor) (inClass : Char → Bool) : Cursor := (cursor.span inClass).2

/-- The place after the spaces. -/
def skipSpaces (cursor : Cursor) : Cursor := cursor.skipWhile fun character => character == ' '

/-- The place after a comment, if there is one. -/
def skipComment (cursor : Cursor) : Cursor :=
  if cursor.peek = '#' then cursor.skipWhile fun character => !isLineEnd character else cursor

/-- A line break in its normal form, or nothing, and the place after it. -/
def lineBreak (cursor : Cursor) : List Char × Cursor :=
  let character := cursor.peek
  if character = '\r' ∧ cursor.ahead 1 = '\n' then (['\n'], cursor.skip 2)
  else if character.toNat = 0x2028 ∨ character.toNat = 0x2029 then ([character], cursor.advance)
  else if isBreak character then (['\n'], cursor.advance)
  else ([], cursor)

/-- Three equal characters stand here, with a blank or the end after them. -/
def isMarker (cursor : Cursor) (character : Char) : Bool :=
  cursor.peek == character && cursor.ahead 1 == character && cursor.ahead 2 == character &&
    isBlankOrEnd (cursor.ahead 3)

/-- A line that separates two documents starts here. -/
def isSeparator (cursor : Cursor) : Bool := cursor.isMarker '-' || cursor.isMarker '.'

end Cursor

end Yaml

end SpecGraph
