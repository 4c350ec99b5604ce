import SpecGraph.Yaml.Token.Quoted

/-!
# Anchors, tags and directives

The parts of a YAML text that name nodes and their types. A tag has a handle and a suffix, or stands
verbatim between angle brackets; inside a suffix a percent sign starts an escaped byte of UTF-8.
-/

namespace SpecGraph

namespace Yaml

/-- A character that may follow the name of an anchor. -/
def mayFollowAnchor (character : Char) : Bool :=
  isBlankOrEnd character || isAmong "?:,]%@\x60" character || character.toNat == 125

/-- The name after the mark of an anchor or an alias. -/
def anchorName (cursor : Cursor) : Except Error (String × Cursor) := do
  let (name, cursor) := cursor.advance.span isWordChar
  if name.isEmpty || !mayFollowAnchor cursor.peek then throw .notYaml
  return (String.ofList name, cursor)

/-- A character of a tag suffix. -/
def isTagChar (character : Char) : Bool :=
  isWordChar character || isAmong ";/?:@&=+$,.!~*'()[]%" character

/-- A byte of an escape after its percent sign. -/
def escapedByte (cursor : Cursor) : Except Error (UInt8 × Cursor) := do
  let (value, cursor) ← hexDigits 2 cursor
  return (UInt8.ofNat value, cursor)

/-- The escaped bytes from here on. -/
def escapedBytes : (fuel : Nat) → Cursor → Except Error (List UInt8 × Cursor)
  | 0, _ => throw .notYaml
  | fuel + 1, cursor => do
      if cursor.peek = '%' then
        let (byte, cursor) ← escapedByte cursor.advance
        let (more, cursor) ← escapedBytes fuel cursor
        return (byte :: more, cursor)
      else return ([], cursor)

/-- The text of bytes of UTF-8. -/
def textOfBytes (bytes : List UInt8) : Except Error (List Char) :=
  match String.fromUTF8? ⟨bytes.toArray⟩ with
  | some text => return text.toList
  | none => throw .notYaml

/-- The tag suffix from here on. -/
def tagSuffix : (fuel : Nat) → Cursor → Except Error (List Char × Cursor)
  | 0, _ => throw .notYaml
  | fuel + 1, cursor => do
      let (run, cursor) := cursor.span fun character => isTagChar character && character != '%'
      if cursor.peek = '%' then
        let (bytes, cursor) ← escapedBytes cursor.limit cursor
        let escaped ← textOfBytes bytes
        let (more, cursor) ← tagSuffix fuel cursor
        return (run ++ escaped ++ more, cursor)
      else return (run, cursor)

/-- A tag suffix that is not empty. -/
def someTagSuffix (cursor : Cursor) : Except Error (String × Cursor) := do
  if !isTagChar cursor.peek then throw .notYaml
  let (suffix, cursor) ← tagSuffix cursor.limit cursor
  return (String.ofList suffix, cursor)

/-- The handle of a tag: an exclamation mark alone, or a word between two of them. -/
def tagHandle (cursor : Cursor) : Except Error (String × Cursor) := do
  if cursor.peek ≠ '!' then throw .notYaml
  if cursor.ahead 1 = ' ' then return ("!", cursor.advance)
  let (word, cursor) := cursor.advance.span isWordChar
  if cursor.peek ≠ '!' then throw .notYaml
  return (String.ofList ('!' :: word ++ ['!']), cursor.advance)

/-- An exclamation mark stands before the next space. -/
def hasHandle (text : List Char) : Bool :=
  (text.takeWhile fun character => !isSpaceOrEnd character).contains '!'

/-- The tag at an exclamation mark. -/
def tagText (cursor : Cursor) : Except Error (TagText × Cursor) := do
  let (tag, cursor) ← (do
    if cursor.ahead 1 = '<' then
      let (suffix, cursor) ← someTagSuffix (cursor.skip 2)
      if cursor.peek ≠ '>' then throw .notYaml
      return (⟨none, suffix⟩, cursor.advance)
    else if isBlankOrEnd (cursor.ahead 1) then return (⟨none, "!"⟩, cursor.advance)
    else if hasHandle (cursor.rest.drop 1) then
      let (handle, cursor) ← tagHandle cursor
      let (suffix, cursor) ← someTagSuffix cursor
      return (⟨some handle, suffix⟩, cursor)
    else
      let (suffix, cursor) ← someTagSuffix cursor.advance
      return (⟨some "!", suffix⟩, cursor))
  if !isSpaceOrEnd cursor.peek then throw .notYaml
  return (tag, cursor)

/-- A part of a version. -/
def versionPart (cursor : Cursor) : Except Error (Nat × Cursor) := do
  let (digits, cursor) := cursor.span Text.isDigit
  if digits.isEmpty then throw .notYaml
  if Text.mostDigits < digits.length then throw (.fault .badValue)
  return (Text.readDecimal digits, cursor)

/-- The value of a version directive. -/
def versionDirective (cursor : Cursor) : Except Error (Directive × Cursor) := do
  let (major, cursor) ← versionPart cursor.skipSpaces
  if cursor.peek ≠ '.' then throw .notYaml
  let (minor, cursor) ← versionPart cursor.advance
  if !isSpaceOrEnd cursor.peek then throw .notYaml
  return (.version major minor, cursor)

/-- The value of a tag directive. -/
def tagDirective (cursor : Cursor) : Except Error (Directive × Cursor) := do
  let (handle, cursor) ← tagHandle cursor.skipSpaces
  if cursor.peek ≠ ' ' then throw .notYaml
  let (suffix, cursor) ← someTagSuffix cursor.skipSpaces
  if !isSpaceOrEnd cursor.peek then throw .notYaml
  return (.tag handle suffix, cursor)

/-- The directive at a percent sign. -/
def directive (cursor : Cursor) : Except Error (Token × Cursor) := do
  let (name, cursor) := cursor.advance.span isWordChar
  if name.isEmpty || !isSpaceOrEnd cursor.peek then throw .notYaml
  let (value, cursor) ← (
    if name = "YAML".toList then versionDirective cursor
    else if name = "TAG".toList then tagDirective cursor
    else return (.reserved, cursor.skipWhile fun character => !isLineEnd character))
  let cursor := cursor.skipSpaces.skipComment
  if !isLineEnd cursor.peek then throw .notYaml
  return (.directive value, cursor.lineBreak.2)

end Yaml

end SpecGraph
