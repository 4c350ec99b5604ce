import SpecGraph.Data.Access
import SpecGraph.Data.Sort
import SpecGraph.Text.Quoted

/-!
# Writing JSON

The JSON text of a value is ASCII: every other character is escaped by its UTF-16 units. A `Layout`
says whether keys are sorted, what stands between items and between a key and its value, and whether
each item has a line of its own. Keys that are truth values, numbers or null are written as texts.
Numbers that are not finite have the names `NaN`, `Infinity` and `-Infinity`. Dates, bytes and sets
have no JSON text, and neither has a value that holds itself or an integer with too many digits. Any other
value is written, however deep it is.
-/

namespace SpecGraph

namespace Json

/-- How a JSON text is laid out. -/
structure Layout where
  /-- What stands between two items. -/
  itemSeparator : List Char
  /-- What stands between a key and its value. -/
  keySeparator : List Char
  /-- What one level of indentation is, if every item has a line of its own. -/
  indent : Option (List Char)
  /-- The entries of every mapping are written in the order of their keys. -/
  sorted : Bool

namespace Layout

/-- The shortest text, with sorted keys. -/
def compact : Layout := ⟨[','], [':'], none, true⟩

/-- One line, in insertion order. -/
def line : Layout := ⟨[',', ' '], [':', ' '], none, false⟩

/-- A line for every item, in insertion order. -/
def lines (width : Nat) : Layout := ⟨[','], [':', ' '], some (List.replicate width ' '), false⟩

/-- A line for every item, with sorted keys. -/
def sortedLines (width : Nat) : Layout := { lines width with sorted := true }

/-- A text can be repeated by a number, which fits in 64 bits. -/
def isCount (number : Int) : Bool := -9223372036854775808 ≤ number && number ≤ 9223372036854775807

/-- A line for every item, indented by a text or by a number of blanks, or one line for null, in insertion
order. -/
def indentedBy : Data → Except Fault Layout
  | .null => pure line
  | .text unit => pure { lines 0 with indent := some unit.toList }
  | indent =>
      match indent.integer? with
      | some width => if isCount width then pure (lines width.toNat) else throw .notFinite
      | none => throw .wrongKind

/-- The start of an item at a depth. -/
def lineStart (layout : Layout) (depth : Nat) : List Char :=
  match layout.indent with
  | none => []
  | some unit => '\n' :: (List.replicate depth unit).flatten

/-- Written items between two brackets. -/
def enclose (layout : Layout) (depth : Nat) (opening closing : Char) (parts : List (List Char)) :
    List Char :=
  if parts.isEmpty then [opening, closing]
  else
    opening :: layout.lineStart (depth + 1) ++
      (layout.itemSeparator ++ layout.lineStart (depth + 1)).intercalate parts ++
      layout.lineStart depth ++ [closing]

end Layout

/-- The escape of one UTF-16 unit. -/
def unitEscape (unit : Nat) : List Char :=
  '\\' :: 'u' :: Text.hexadecimal Text.lowerHexDigit 4 unit

/-- A code point inside a JSON text. -/
def escapedCode (code : Nat) : List Char :=
  if code = '"'.toNat then ['\\', '"']
  else if code = '\\'.toNat then ['\\', '\\']
  else if code = '\n'.toNat then ['\\', 'n']
  else if code = '\r'.toNat then ['\\', 'r']
  else if code = '\t'.toNat then ['\\', 't']
  else if code = 12 then ['\\', 'f']
  else if code = 8 then ['\\', 'b']
  else
    if 32 ≤ code ∧ code < 127 then [Char.ofNat code]
    else if code < 0x10000 then unitEscape code
    else
      unitEscape (0xD800 + (code - 0x10000) / 0x400) ++
        unitEscape (0xDC00 + (code - 0x10000) % 0x400)

/-- A text between double quotes. -/
def writtenText (characters : List Char) : List Char :=
  '"' :: ((Text.codes characters).flatMap escapedCode ++ ['"'])

/-- The text of a number in floating-point format. -/
def writtenFloat (number : Binary64) : List Char :=
  if number.isNaN then "NaN".toList
  else if number.isInfinite then (if number.isNegative then "-Infinity" else "Infinity").toList
  else number.characters

/-- The text of a truth value. -/
def writtenBool (value : Bool) : List Char := (if value then "true" else "false").toList

/-- The text of an integer, which has not too many digits. -/
def writtenInt (value : Int) : Except Fault (List Char) :=
  if Text.isShowable value then pure (Text.signedDecimal value) else throw .badValue

/-- The text that stands for a key. -/
def keyText : Data → Except Fault (List Char)
  | .text value => pure value.toList
  | .null => pure "null".toList
  | .bool value => pure (writtenBool value)
  | .int value => writtenInt value
  | .float value => pure (writtenFloat value)
  | _ => throw .wrongKind

/-- Keys with what belongs to them, in the order of the keys if a layout asks for that. -/
def arranged {α : Type} (layout : Layout) (entries : List (Data × α)) :
    Except Fault (List (Data × α)) :=
  if !layout.sorted then pure entries
  else
    match Data.sortBy? (fun left right => Data.isBefore? left.1 right.1) entries with
    | some entries => pure entries
    | none => throw .wrongKind

/-- The text of an entry, given the outcome of its value. -/
def writtenEntry (layout : Layout) (key : Data) (outcome : Except Fault (List Char)) :
    Except Fault (List Char) := do
  let name ← keyText key
  let value ← outcome
  return writtenText name ++ layout.keySeparator ++ value

/-- The texts of entries one after the other, given the outcomes of their values. -/
def joinEntries (layout : Layout) (entries : List (Data × Except Fault (List Char))) :
    Except Fault (List (List Char)) := do
  let entries ← arranged layout entries
  entries.mapM fun (key, outcome) => writtenEntry layout key outcome

/-- The text of a value without parts. -/
def writtenLeaf : Data → Except Fault (List Char)
  | .null => pure "null".toList
  | .bool value => pure (writtenBool value)
  | .int value => writtenInt value
  | .float value => pure (writtenFloat value)
  | .text value => pure (writtenText value.toList)
  | _ => throw .wrongKind

/-- The brackets of a list around texts. -/
def enclosedItems (layout : Layout) (depth : Nat) (parts : List (List Char)) : List Char :=
  layout.enclose depth '[' ']' parts

/-- The brackets of a mapping around texts. -/
def enclosedEntries (layout : Layout) (depth : Nat) (parts : List (List Char)) : List Char :=
  layout.enclose depth (Char.ofNat 123) (Char.ofNat 125) parts

/-- The text of the value at a place of a store, given the places around it, none of which it may hold. -/
def writtenPlace (layout : Layout) (store : Store Data) :
    (fuel : Nat) → (around : List Nat) → (depth place : Nat) → Except Fault (List Char)
  | 0, _, _, _ => throw .badValue
  | fuel + 1, around, depth, place => do
      if around.contains place then throw .badValue
      let part := writtenPlace layout store fuel (place :: around) (depth + 1)
      match store.layer place with
      | .leaf value => writtenLeaf value
      | .list items => return enclosedItems layout depth (← items.mapM part)
      | .pair first second => return enclosedItems layout depth (← [first, second].mapM part)
      | .map entries => do
          let entries ← arranged layout entries
          return enclosedEntries layout depth
            (← entries.mapM fun (key, value) => writtenEntry layout key (part value))
      | .set _ => throw .wrongKind

mutual

/-- The text of a value at a depth. -/
def written (layout : Layout) (depth : Nat) : Data → Except Fault (List Char)
  | .list items => return enclosedItems layout depth (← writtenItems layout (depth + 1) items)
  | .pair first second => do
      let first ← written layout (depth + 1) first
      let second ← written layout (depth + 1) second
      return enclosedItems layout depth [first, second]
  | .map entries => do
      let parts ← joinEntries layout (writtenEntries layout (depth + 1) entries)
      return enclosedEntries layout depth parts
  | .shared store place => writtenPlace layout store store.limit [] depth place
  | .again _ => throw .badValue
  | value => writtenLeaf value

/-- The texts of the items of a list. -/
def writtenItems (layout : Layout) (depth : Nat) : List Data → Except Fault (List (List Char))
  | [] => pure []
  | item :: rest => do
      let text ← written layout depth item
      let texts ← writtenItems layout depth rest
      return text :: texts

/-- The keys of entries with the outcomes of their values. -/
def writtenEntries (layout : Layout) (depth : Nat) :
    List (Data × Data) → List (Data × Except Fault (List Char))
  | [] => []
  | (key, value) :: rest =>
      (key, written layout depth value) :: writtenEntries layout depth rest

end

/-- The JSON text of a value as characters. -/
def writeCharacters (layout : Layout) (value : Data) : Except Fault (List Char) :=
  written layout 0 value

/-- The JSON text of a value. -/
def write (layout : Layout) (value : Data) : Except Fault String :=
  return String.ofList (← writeCharacters layout value)

end Json

end SpecGraph
