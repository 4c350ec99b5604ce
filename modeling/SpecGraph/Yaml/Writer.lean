import SpecGraph.Data.Display
import SpecGraph.Text.Base64
import SpecGraph.Yaml.Cursor
import SpecGraph.Yaml.Scalar

/-!
# Writing YAML

Collections are written in block style, an empty one between brackets. The items of a sequence that is
the value of an entry are not indented. A text is plain where it reads back as itself, and otherwise
between single quotes, or between double quotes with escapes where it holds a character outside ASCII, a
control character, or a space before a line break. Long texts are folded at a space beyond column 80.
A key that is long, empty or of several lines is marked by a question mark. A value that stands in
several places is written in the first of them with an anchor, and by its alias in the others.
-/

namespace SpecGraph

namespace Yaml

/-- What was written last, and where. -/
structure Pen where
  /-- The text so far, the last character first. -/
  output : List Char
  /-- The column. -/
  column : Nat
  /-- No space is needed before the next mark. -/
  spaced : Bool
  /-- The line so far holds only indentation and marks of block collections. -/
  indenting : Bool
  /-- The marks of the values so far. -/
  written : List Mark

namespace Pen

/-- A pen at the start of a text. -/
def start : Pen := ⟨[], 0, true, true, []⟩

/-- Writes characters. -/
def put (pen : Pen) (characters : List Char) : Pen :=
  { pen with output := characters.reverse ++ pen.output, column := pen.column + characters.length }

/-- Ends the line. -/
def newLine (pen : Pen) : Pen :=
  { pen with output := '\n' :: pen.output, column := 0, spaced := true, indenting := true }

/-- Goes to the indentation of a new item, on a new line unless this one has room for it. -/
def goTo (pen : Pen) (indent : Nat) : Pen :=
  let pen :=
    if !pen.indenting || indent < pen.column || (pen.column == indent && !pen.spaced) then pen.newLine
    else pen
  if pen.column < indent then
    { pen.put (List.replicate (indent - pen.column) ' ') with spaced := true }
  else pen

/-- Writes a mark, with a space before it where that is needed. -/
def mark (pen : Pen) (characters : List Char) (needsSpace keepsIndenting : Bool) : Pen :=
  let text := if pen.spaced || !needsSpace then characters else ' ' :: characters
  { pen.put text with spaced := false, indenting := pen.indenting && keepsIndenting }

end Pen

/-- The way a scalar is written. -/
inductive Style where
  | plain | single | double | literal
deriving DecidableEq, Inhabited

/-- A scalar to write. -/
structure Scalar where
  /-- Its type. -/
  tag : Tag
  /-- Its text. -/
  text : List Char
  /-- It is written line by line where that is possible. -/
  asLines : Bool

namespace Scalar

/-- A break of a line other than a carriage return. -/
def isLineFeed (character : Char) : Bool := isBreak character && character != '\r'

/-- A character that is written as it stands only in ASCII texts. -/
def isSpecial (character : Char) : Bool :=
  character != '\n' && !(32 ≤ character.toNat && character.toNat ≤ 126)

/-- Some two neighbours in a text, where the first is of one class and the second of another. -/
def hasNeighbours (first second : Char → Bool) : List Char → Bool
  | left :: right :: rest => (first left && second right) || hasNeighbours first second (right :: rest)
  | _ => false

/-- A space. -/
def isSpace (character : Char) : Bool := character == ' '

/-- A character after the first one that would end a plain scalar or start a comment. -/
def hasInnerMark : List Char → Bool
  | [] => false
  | [_] => false
  | left :: right :: rest =>
      (right == ':' && (rest.isEmpty || isBlankOrEnd (rest.headD endMark))) ||
        (right == '#' && isBlankOrEnd left) || hasInnerMark (right :: rest)

/-- A first character that a plain scalar in a block cannot have. -/
def hasLeadingMark (text : List Char) : Bool :=
  match text with
  | [] => false
  | first :: rest =>
      let isAlone := rest.isEmpty || isBlankOrEnd (rest.headD endMark)
      isAmong "#,[]&*!|>'\"%@\x60" first || first.toNat == 123 || first.toNat == 125 ||
        (isAmong "?:-" first && isAlone) ||
        "---".toList.isPrefixOf text || "...".toList.isPrefixOf text

/-- The text has more than one line. -/
def isMultiline (text : List Char) : Bool := text.any isLineFeed

/-- The text may stand plain in a block. -/
def allowsPlain (text : List Char) : Bool :=
  let isEdge (character : Option Char) : Bool :=
    (character.map fun found => isSpace found || isLineFeed found).getD false
  text.isEmpty || !(isEdge text.head? || isEdge text.getLast? || isMultiline text ||
    text.any isSpecial || hasLeadingMark text || hasInnerMark text)

/-- The text may stand between single quotes. -/
def allowsSingle (text : List Char) : Bool :=
  !(text.any isSpecial || hasNeighbours isLineFeed isSpace text || hasNeighbours isSpace isLineFeed text)

/-- The text may be written line by line. -/
def allowsLines (text : List Char) : Bool :=
  !(text.isEmpty || text.any isSpecial || hasNeighbours isSpace isLineFeed text ||
    text.getLast? == some ' ')

/-- The type that the scalar has when it is plain is its own. -/
def readsBack (scalar : Scalar) : Bool := Tag.ofPlain scalar.text == scalar.tag

/-- The style of the scalar, as the key of an entry or elsewhere. -/
def style (scalar : Scalar) (isKey : Bool) : Style :=
  let text := scalar.text
  if scalar.asLines then
    if !isKey && allowsLines text then .literal else .double
  else if scalar.readsBack && allowsPlain text && !(isKey && (text.isEmpty || isMultiline text)) then
    .plain
  else if allowsSingle text && !(isKey && isMultiline text) then .single
  else .double

/-- The tag has to be written, because the style does not tell it. -/
def needsTag (scalar : Scalar) (style : Style) : Bool :=
  match style with
  | .plain => !scalar.readsBack
  | _ => scalar.tag != .text

/-- The escape of a code point between double quotes, if it needs one. -/
def escape? (code : Nat) : Option (List Char) :=
  if code = '"'.toNat ∨ code = '\\'.toNat then some ['\\', Char.ofNat code]
  else if 32 ≤ code ∧ code ≤ 126 then none
  else
    match [(0, '0'), (7, 'a'), (8, 'b'), (9, 't'), (10, 'n'), (11, 'v'), (12, 'f'), (13, 'r'),
        (27, 'e'), (0x85, 'N'), (0xA0, '_'), (0x2028, 'L'), (0x2029, 'P')].lookup code with
    | some letter => some ['\\', letter]
    | none =>
        if code ≤ 0xFF then some ('\\' :: 'x' :: Text.hexadecimal Text.upperHexDigit 2 code)
        else if code ≤ 0xFFFF then some ('\\' :: 'u' :: Text.hexadecimal Text.upperHexDigit 4 code)
        else some ('\\' :: 'U' :: Text.hexadecimal Text.upperHexDigit 8 code)

/-- The width of a line beyond which a text is folded. -/
def lineWidth : Nat := 80

/-- Writes a plain text of one line, folding it at single spaces if it may be. -/
def writePlain (indent : Nat) (mayFold : Bool) : (fuel : Nat) → List Char → Pen → Pen
  | 0, _, pen => pen
  | fuel + 1, text, pen =>
      let word := text.takeWhile fun character => character != ' '
      let pen := pen.put word
      let rest := text.drop word.length
      if rest.isEmpty then pen
      else
        let spaces := rest.takeWhile isSpace
        let after := rest.drop spaces.length
        if spaces.length = 1 ∧ mayFold ∧ lineWidth < pen.column then
          writePlain indent mayFold fuel after
            { pen.goTo indent with spaced := false, indenting := false }
        else writePlain indent mayFold fuel after (pen.put spaces)

/-- Writes the line breaks of a text between single quotes: the first one twice. -/
def writeBreaks (breaks : List Char) (pen : Pen) : Pen :=
  let pen := if breaks.head? = some '\n' then pen.newLine else pen
  breaks.foldl (fun pen _ => pen.newLine) pen

/-- Writes a text between single quotes, folding it at single spaces inside if it may be. -/
def writeSingle (indent : Nat) (mayFold : Bool) (atStart : Bool) :
    (fuel : Nat) → List Char → Pen → Pen
  | 0, _, pen => pen
  | fuel + 1, text, pen =>
      match text with
      | [] => pen
      | character :: rest =>
          if isSpace character then
            let spaces := text.takeWhile isSpace
            let after := text.drop spaces.length
            if spaces.length = 1 ∧ mayFold ∧ !atStart ∧ !after.isEmpty ∧ lineWidth < pen.column then
              writeSingle indent mayFold false fuel after (pen.goTo indent)
            else writeSingle indent mayFold false fuel after (pen.put spaces)
          else if isLineFeed character then
            let breaks := text.takeWhile isLineFeed
            writeSingle indent mayFold false fuel (text.drop breaks.length)
              ((writeBreaks breaks pen).goTo indent)
          else if character = '\'' then
            writeSingle indent mayFold false fuel rest (pen.put ['\'', '\''])
          else
            let word := text.takeWhile fun other =>
              !isSpace other && !isLineFeed other && other != '\''
            writeSingle indent mayFold false fuel (text.drop word.length) (pen.put word)

/-- Folds a text between double quotes here: a backslash at the end of the line, and another one before
a space at the start of the next line. -/
def foldDouble (indent : Nat) (next : Option Nat) (pen : Pen) : Pen :=
  let pen := { (pen.put ['\\']).goTo indent with spaced := false, indenting := false }
  if next = some ' '.toNat then pen.put ['\\'] else pen

/-- Writes code points between double quotes. The characters in `pending`, the last one first, are not yet
written; `index` counts the code points before the rest, of which there are `size` in all. -/
def writeDouble (indent : Nat) (mayFold : Bool) (size : Nat) :
    (index : Nat) → (pending : List Char) → List Nat → Pen → Pen
  | _, pending, [], pen => pen.put pending.reverse
  | index, pending, code :: rest, pen =>
      let character := Char.ofNat code
      let isInside := 0 < index && index + 1 < size
      match escape? code with
      | some escaped =>
          let pen := (pen.put pending.reverse).put escaped
          let pen :=
            if isInside && mayFold && lineWidth + 1 < pen.column then
              foldDouble indent rest.head? pen
            else pen
          writeDouble indent mayFold size (index + 1) [] rest pen
      | none =>
          if isInside && mayFold && (isSpace character || pending.isEmpty) &&
              lineWidth < pen.column + pending.length then
            let pen := foldDouble indent (some code) (pen.put pending.reverse)
            writeDouble indent mayFold size (index + 1) [character] rest pen
          else writeDouble indent mayFold size (index + 1) (character :: pending) rest pen

/-- Writes the lines of a text, each of which has an end. -/
def writeLines (indent : Nat) : (fuel : Nat) → List Char → Pen → Pen
  | 0, _, pen => pen
  | fuel + 1, text, pen =>
      if text.isEmpty then pen
      else
        let line := text.takeWhile fun character => character != '\n'
        let pen := if line.isEmpty then pen else (pen.goTo indent).put line
        writeLines indent fuel (text.drop (line.length + 1)) pen.newLine

/-- Writes a scalar, as the key of an entry or elsewhere, with its later lines at an indentation. -/
def write (indent : Nat) (isKey : Bool) (scalar : Scalar) (pen : Pen) : Pen :=
  let style := scalar.style isKey
  let pen :=
    if scalar.needsTag style then pen.mark scalar.tag.shortName.toList true false else pen
  let text := scalar.text
  let fuel := text.length + 1
  match style with
  | .plain =>
      if text.isEmpty then pen
      else
        let pen := if pen.spaced then pen else pen.put [' ']
        writePlain indent (!isKey) fuel text { pen with spaced := false, indenting := false }
  | .single =>
      (writeSingle indent (!isKey) true fuel text (pen.mark ['\''] true false)).mark ['\''] false false
  | .double =>
      let codes := Text.codes text
      (writeDouble indent (!isKey) codes.length 0 [] codes (pen.mark ['"'] true false)).mark ['"'] false
        false
  | .literal => writeLines indent fuel text ((pen.mark ['|'] true false).newLine)

/-- The number of code points of a scalar with its tag. -/
def size (scalar : Scalar) : Nat := (Text.codes scalar.text).length + scalar.tag.shortName.length

/-- The scalar may be a key without a mark. -/
def isSimpleKey (scalar : Scalar) : Bool :=
  scalar.size < 128 && !scalar.text.isEmpty && !isMultiline scalar.text

end Scalar

/-- The text of a floating-point number: always with a point. -/
def floatText (number : Binary64) : List Char :=
  if number.isNaN then ".nan".toList
  else if number.isInfinite then (if number.isNegative then "-.inf" else ".inf").toList
  else
    let text := number.characters
    if text.contains '.' then text
    else
      let mantissa := text.takeWhile fun character => character != 'e'
      if mantissa.length = text.length then text
      else mantissa ++ '.' :: '0' :: text.drop mantissa.length

/-- The scalar that a value without parts is written as. -/
def Scalar.ofData? : Data → Option Scalar
  | .null => some ⟨.null, "null".toList, false⟩
  | .bool value => some ⟨.bool, (if value then "true" else "false").toList, false⟩
  | .int value => some ⟨.int, Text.signedDecimal value, false⟩
  | .float value => some ⟨.float, floatText value, false⟩
  | .text value => some ⟨.text, value.toList, false⟩
  | .bytes value => some ⟨.binary, Base64.encodeLines value, true⟩
  | .moment value => some ⟨.timestamp, value.text.toList, false⟩
  | _ => none

/-- Where a value stands. -/
inductive Role where
  | item | key | value
deriving DecidableEq, Inhabited

/-- The indentation of the parts of a collection below one, or of the whole text. -/
def deeper : Option Nat → Nat
  | none => 0
  | some indent => indent + 2

/-- The indentation of the later lines of a scalar. -/
def scalarIndent (indent : Option Nat) : Nat := (indent.getD 0) + 2

/-- Writes a value without parts. -/
def writeLeaf (indent : Option Nat) (role : Role) (value : Data) (pen : Pen) : Pen :=
  match Scalar.ofData? value with
  | some scalar => scalar.write (scalarIndent indent) (role == .key) pen
  | none => pen

/-- A key needs no question mark. -/
def isSimpleKey (key : Data) : Bool :=
  match key.unmarked with
  | .list items => items.isEmpty
  | .map entries => entries.isEmpty
  | .set items => items.isEmpty
  | value => (Scalar.ofData? value).any Scalar.isSimpleKey

/-- What was found on the way through a value: the marks that were met, and those that were met more
than once, in the order in which that was found. -/
structure Visit where
  /-- The marks that were met. -/
  met : List Mark
  /-- The marks that were met again. -/
  repeated : List Mark

mutual

/-- Goes through a value. What was met before is not gone through again. -/
def Visit.value (visit : Visit) : Data → Visit
  | .list items => visit.items items
  | .pair first second => (visit.value first).value second
  | .map entries => visit.entries entries
  | .set items => visit.items items
  | .marked mark value =>
      if visit.repeated.contains mark then visit
      else if visit.met.contains mark then { visit with repeated := visit.repeated ++ [mark] }
      else { visit with met := mark :: visit.met }.value value
  | .again mark =>
      if visit.repeated.contains mark then visit
      else { visit with repeated := visit.repeated ++ [mark] }
  | _ => visit

/-- Goes through items. -/
def Visit.items (visit : Visit) : List Data → Visit
  | [] => visit
  | item :: rest => (visit.value item).items rest

/-- Goes through entries. -/
def Visit.entries (visit : Visit) : List (Data × Data) → Visit
  | [] => visit
  | (key, value) :: rest => ((visit.value key).value value).entries rest

end

/-- The anchors of the values that stand in several places, in the order of their names. -/
abbrev Anchors := List Mark

/-- The name of the anchor of a mark. -/
def Anchors.name (anchors : Anchors) (mark : Mark) : List Char :=
  "id".toList ++ Text.paddedDecimal 3 (anchors.idxOf mark + 1)

/-- Writes an empty collection. -/
def writeEmpty (opening closing : Char) (pen : Pen) : Pen :=
  (pen.mark [opening] true false).mark [closing] false false

/-- The mark before a collection of a type that is not usual. -/
def writeTag (text : String) (pen : Pen) : Pen := pen.mark text.toList true false

/-- The indentation of a sequence: that of the mapping around it when it is the value of an entry. -/
def sequenceIndent (indent : Option Nat) (role : Role) (pen : Pen) : Nat :=
  if role ≠ .item ∧ !pen.indenting then indent.getD 0 else deeper indent

/-- The mark of an item of a sequence. -/
def markItem (indent : Nat) (pen : Pen) : Pen := (pen.goTo indent).mark ['-'] true true

/-- What stands before a key. -/
def startKey (indent : Nat) (key : Data) (pen : Pen) : Pen :=
  let pen := pen.goTo indent
  if isSimpleKey key then pen else pen.mark ['?'] true true

/-- The role of a key: one with a mark is written like a value. -/
def keyRole (key : Data) : Role := if isSimpleKey key then .key else .value

/-- What stands after a key. -/
def endKey (indent : Nat) (key : Data) (pen : Pen) : Pen :=
  if isSimpleKey key then pen.mark [':'] false false else (pen.goTo indent).mark [':'] true true

/-- The alias of a value that was written before. -/
def writeAlias (anchors : Anchors) (mark : Mark) (pen : Pen) : Pen :=
  pen.mark ('*' :: anchors.name mark) true false

/-- The anchor of a value, if it stands in several places. -/
def writeAnchor (anchors : Anchors) (mark : Mark) (pen : Pen) : Pen :=
  let pen := { pen with written := mark :: pen.written }
  if anchors.contains mark then pen.mark ('&' :: anchors.name mark) true false else pen

mutual

/-- Writes a value in a role below an indentation. -/
def writeValue (anchors : Anchors) (indent : Option Nat) (role : Role) : Data → Pen → Pen
  | .list [], pen => writeEmpty '[' ']' pen
  | .list (item :: items), pen =>
      let inner := sequenceIndent indent role pen
      writeItems anchors inner items (writeValue anchors (some inner) .item item (markItem inner pen))
  | .pair first second, pen =>
      let pen := writeTag "!!python/tuple" pen
      let inner := sequenceIndent indent role pen
      let pen := writeValue anchors (some inner) .item first (markItem inner pen)
      writeValue anchors (some inner) .item second (markItem inner pen)
  | .map [], pen => writeEmpty (Char.ofNat 123) (Char.ofNat 125) pen
  | .map (entry :: entries), pen => writeEntries anchors (deeper indent) (entry :: entries) pen
  | .set [], pen => writeEmpty (Char.ofNat 123) (Char.ofNat 125) (writeTag "!!set" pen)
  | .set (item :: items), pen =>
      writeMembers anchors (deeper indent) (item :: items) (writeTag "!!set" pen)
  | .marked mark value, pen =>
      if pen.written.contains mark then writeAlias anchors mark pen
      else writeValue anchors indent role value (writeAnchor anchors mark pen)
  | .again mark, pen => writeAlias anchors mark pen
  | value, pen => writeLeaf indent role value pen

/-- Writes the items of a sequence. -/
def writeItems (anchors : Anchors) (indent : Nat) : List Data → Pen → Pen
  | [], pen => pen
  | item :: rest, pen =>
      writeItems anchors indent rest (writeValue anchors (some indent) .item item (markItem indent pen))

/-- Writes the entries of a mapping. -/
def writeEntries (anchors : Anchors) (indent : Nat) : List (Data × Data) → Pen → Pen
  | [], pen => pen
  | (key, value) :: rest, pen =>
      let pen := writeValue anchors (some indent) (keyRole key) key (startKey indent key pen)
      let pen := writeValue anchors (some indent) .value value (endKey indent key pen)
      writeEntries anchors indent rest pen

/-- Writes the members of a set as keys without values. -/
def writeMembers (anchors : Anchors) (indent : Nat) : List Data → Pen → Pen
  | [], pen => pen
  | item :: rest, pen =>
      let pen := writeValue anchors (some indent) (keyRole item) item (startKey indent item pen)
      let pen := writeLeaf (some indent) .value .null (endKey indent item pen)
      writeMembers anchors indent rest pen

end

/-- A text that would be taken for an open end after a plain scalar. -/
def isOpenEnded (value : Data) : Bool :=
  match Scalar.ofData? value with
  | some scalar => scalar.style false == .plain
  | none => false

/-- The YAML text of a value that there is room for, and that has no number with too many digits. -/
def writeWithin (room : Nat) (value : Data) : Except Fault String := do
  let value := value.outlined
  if value.hasLongNumeral then throw .badValue
  if room < value.depth then throw .tooDeep
  let anchors := ((⟨[], []⟩ : Visit).value value).repeated
  let pen := writeValue anchors none .item value Pen.start
  let pen := if pen.column = 0 ∧ pen.indenting then pen else pen.newLine
  let pen := if isOpenEnded value then (pen.put "...".toList).newLine else pen
  return String.ofList pen.output.reverse

/-- The greatest depth of a value that is written. -/
def mostWrittenLevels : Nat := roomWithin 25 3

/-- The YAML text of a value, which is not nested too deeply and has no number with too many digits. -/
def write (value : Data) : Except Fault String := writeWithin mostWrittenLevels value

end Yaml

end SpecGraph
