import SpecGraph.Yaml.Token.Quoted

/-!
# Plain scalars

A plain scalar has no quotes. It ends before a comment, before a colon with a blank after it, before a
mark of the structure inside a flow collection, and where a line is not indented enough. Line breaks
inside are folded as in a quoted scalar.
-/

namespace SpecGraph

namespace Yaml

/-- A mark of the structure of a flow collection. -/
def isFlowMark (character : Char) : Bool :=
  character == ',' || character == '[' || character == ']' || character.toNat == 123 ||
    character.toNat == 125

/-- The number of characters of a text that a run of a plain scalar takes. -/
def plainRun (inFlow : Bool) : List Char → Nat
  | [] => 0
  | character :: rest =>
      let next := rest.headD endMark
      if isBlankOrEnd character then 0
      else if character = ':' ∧ (isBlankOrEnd next ∨ (inFlow ∧ isFlowMark next)) then 0
      else if inFlow ∧ (isFlowMark character ∨ character = '?') then 0
      else plainRun inFlow rest + 1

/-- What stands between two runs of a plain scalar. -/
structure PlainGap where
  /-- The text between the runs, or nothing if no run can follow. -/
  text : List Char
  /-- A line ended here. -/
  brokeLine : Bool
  /-- The place after the gap. -/
  cursor : Cursor

/-- The blank lines after a line break inside a plain scalar, or nothing before a separator. -/
def plainBreaks : (fuel : Nat) → Cursor → Option (List Char) × Cursor
  | 0, cursor => (none, cursor)
  | fuel + 1, cursor =>
      if cursor.peek = ' ' then plainBreaks fuel cursor.advance
      else if isBreak cursor.peek then
        let (first, cursor) := cursor.lineBreak
        if cursor.isSeparator then (none, cursor)
        else
          let (more, cursor) := plainBreaks fuel cursor
          (more.map (first ++ ·), cursor)
      else (some [], cursor)

/-- The gap after a run of a plain scalar. -/
def plainGap (cursor : Cursor) : PlainGap :=
  let (spaces, cursor) := cursor.span fun character => character == ' '
  if isBreak cursor.peek then
    let (first, cursor) := cursor.lineBreak
    if cursor.isSeparator then ⟨[], true, cursor⟩
    else
      match plainBreaks cursor.limit cursor with
      | (none, cursor) => ⟨[], true, cursor⟩
      | (some more, cursor) =>
          let text :=
            if first ≠ ['\n'] then first ++ more else if more.isEmpty then [' '] else more
          ⟨text, true, cursor⟩
  else ⟨spaces, false, cursor⟩

/-- The runs of a plain scalar with the gaps between them, whether a line ended in the last gap, and
the place after that. -/
def plainText (inFlow : Bool) (least : Nat) (gap : List Char) :
    (fuel : Nat) → Cursor → List Char × Bool × Cursor
  | 0, cursor => ([], false, cursor)
  | fuel + 1, cursor =>
      let count := if cursor.peek = '#' then 0 else plainRun inFlow cursor.rest
      if count = 0 then ([], false, cursor)
      else
        let run := cursor.rest.take count
        let next := plainGap (cursor.skip count)
        if next.text.isEmpty || next.cursor.peek == '#' ||
            (!inFlow && next.cursor.column < least) then
          (gap ++ run, next.brokeLine, next.cursor)
        else
          let (more, brokeLine, cursor) := plainText inFlow least next.text fuel next.cursor
          (gap ++ run ++ more, if more.isEmpty then next.brokeLine else brokeLine, cursor)

/-- The plain scalar from here on, and whether a line ended after it. -/
def plainScalar (inFlow : Bool) (indent : Int) (cursor : Cursor) : Token × Bool × Cursor :=
  let least := (indent + 1).toNat
  let (text, brokeLine, cursor) := plainText inFlow least [] cursor.limit cursor
  (.scalar text true, brokeLine, cursor)

end Yaml

end SpecGraph
