import SpecGraph.Yaml.Token.Quoted

/-!
# Block scalars

A block scalar is the lines that are indented below its header. The header tells whether lines are kept
or folded, how much the lines are indented if the first one does not tell, and what becomes of the line
breaks at the end: they are clipped to one, stripped, or all kept.
-/

namespace SpecGraph

namespace Yaml

/-- What becomes of the line breaks at the end of a block scalar. -/
inductive Chomping where
  | clip | strip | keep
deriving DecidableEq, Inhabited

/-- The chomping of an indicator. -/
def Chomping.ofChar? (character : Char) : Option Chomping :=
  if character = '+' then some .keep else if character = '-' then some .strip else none

/-- The header of a block scalar: its chomping, and its indentation if it is given. -/
def blockHeader (cursor : Cursor) : Except Error ((Chomping × Option Nat) × Cursor) := do
  let increment (cursor : Cursor) : Except Error (Option Nat × Cursor) :=
    match Text.digitValue? cursor.peek with
    | some 0 => throw .notYaml
    | some width => return (some width, cursor.advance)
    | none => return (none, cursor)
  let (chomping, width, cursor) ←
    match Chomping.ofChar? cursor.peek with
    | some chomping => do
        let (width, cursor) ← increment cursor.advance
        pure (chomping, width, cursor)
    | none => do
        let (width, cursor) ← increment cursor
        match width, Chomping.ofChar? cursor.peek with
        | some _, some chomping => pure (chomping, width, cursor.advance)
        | _, _ => pure (Chomping.clip, width, cursor)
  if isSpaceOrEnd cursor.peek then
    let cursor := cursor.skipSpaces.skipComment
    if isLineEnd cursor.peek then return ((chomping, width), cursor.lineBreak.2)
  throw .notYaml

/-- The blank lines at the start of a block scalar and the greatest column reached in them. -/
def leadingLines (widest : Nat) : (fuel : Nat) → Cursor → List Char × Nat × Cursor
  | 0, cursor => ([], widest, cursor)
  | fuel + 1, cursor =>
      if cursor.peek = ' ' then
        let cursor := cursor.advance
        leadingLines (if widest < cursor.column then cursor.column else widest) fuel cursor
      else if isBreak cursor.peek then
        let (first, cursor) := cursor.lineBreak
        let (more, widest, cursor) := leadingLines widest fuel cursor
        (first ++ more, widest, cursor)
      else ([], widest, cursor)

/-- The spaces from here on, but not beyond a column. -/
def skipIndent (column : Nat) (cursor : Cursor) : Cursor :=
  let spaces := cursor.rest.takeWhile fun character => character == ' '
  let room := column - cursor.column
  cursor.skip (if spaces.length < room then spaces.length else room)

/-- The blank lines from here on, and the place at the indentation of the line after them. -/
def blockBreaks (column : Nat) : (fuel : Nat) → Cursor → List Char × Cursor
  | 0, cursor => ([], cursor)
  | fuel + 1, cursor =>
      let cursor := skipIndent column cursor
      if isBreak cursor.peek then
        let (first, cursor) := cursor.lineBreak
        let (more, cursor) := blockBreaks column fuel cursor
        (first ++ more, cursor)
      else ([], cursor)

/-- The lines of a block scalar, the blank lines before the first of them given, and the line breaks
after the last one. -/
def blockLines (folded : Bool) (column : Nat) (pending : List Char) :
    (fuel : Nat) → Cursor → List Char × List Char × List Char × Cursor
  | 0, cursor => ([], [], pending, cursor)
  | fuel + 1, cursor =>
      if cursor.column = column ∧ cursor.peek ≠ endMark then
        let startsBlank := isBlank cursor.peek
        let (line, cursor) := cursor.span fun character => !isLineEnd character
        let (ending, cursor) := cursor.lineBreak
        let (breaks, cursor) := blockBreaks column cursor.limit cursor
        if cursor.column = column ∧ cursor.peek ≠ endMark then
          let joint :=
            if folded && ending == ['\n'] && !startsBlank && !isBlank cursor.peek then
              (if breaks.isEmpty then [' '] else [])
            else ending
          let (more, last, tail, cursor) := blockLines folded column breaks fuel cursor
          (pending ++ line ++ joint ++ more, last, tail, cursor)
        else (pending ++ line, ending, breaks, cursor)
      else ([], [], pending, cursor)

/-- The block scalar at its indicator, below an indentation. -/
def blockScalar (folded : Bool) (indent : Int) (cursor : Cursor) : Except Error (Token × Cursor) := do
  let ((chomping, width), cursor) ← blockHeader cursor.advance
  let least := if indent < 0 then 1 else indent.toNat + 1
  let fuel := cursor.limit
  let (column, breaks, cursor) :=
    match width with
    | none =>
        let (breaks, widest, cursor) := leadingLines 0 fuel cursor
        (if widest < least then least else widest, breaks, cursor)
    | some width =>
        let column := least + width - 1
        let (breaks, cursor) := blockBreaks column fuel cursor
        (column, breaks, cursor)
  let (body, ending, tail, cursor) := blockLines folded column breaks fuel cursor
  let text :=
    match chomping with
    | .strip => body
    | .clip => body ++ ending
    | .keep => body ++ ending ++ tail
  return (.scalar text false, cursor)

end Yaml

end SpecGraph
