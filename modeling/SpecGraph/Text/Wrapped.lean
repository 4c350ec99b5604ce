/-!
# Wrapped texts

A text of words can be set in lines of a width. A line takes as many words as it has room for; a word
that is wider than a whole line is broken where the line that it starts in is full.
-/

namespace SpecGraph

namespace Text

/-- The words of a text, with a blank between every two of them. -/
def wordsAndBlanks (words : List String) : List (List Char) :=
  (words.map String.toList).intersperse [' ']

/-- The longest start of some pieces that has room in a line, and the other pieces. -/
def takeFitting (room : Nat) : List (List Char) → List (List Char) × List (List Char)
  | [] => ([], [])
  | piece :: rest =>
      if piece.length ≤ room then
        let (taken, others) := takeFitting (room - piece.length) rest
        (piece :: taken, others)
      else ([], piece :: rest)

/-- A piece without anything but blanks. -/
def isBlankPiece (piece : List Char) : Bool := piece.all (· == ' ')

/-- The pieces of a line, the last of which is not blank. -/
def dropLastBlank (pieces : List (List Char)) : List (List Char) :=
  if pieces.getLast?.any isBlankPiece then pieces.dropLast else pieces

/-- The lines of some pieces, given whether there is a line before them. -/
def setLines (width : Nat) : (fuel : Nat) → (started : Bool) → List (List Char) → List String
  | 0, _, _ => []
  | fuel + 1, started, pieces =>
      let pieces := if started && pieces.head?.any isBlankPiece then pieces.drop 1 else pieces
      if pieces.isEmpty then []
      else
        let (taken, others) := takeFitting width pieces
        let room := width - taken.flatten.length
        let (line, rest) : List (List Char) × List (List Char) :=
          match others with
          | piece :: after =>
              if width < piece.length then (taken ++ [piece.take room], piece.drop room :: after)
              else (taken, others)
          | [] => (taken, [])
        let line := dropLastBlank line
        if line.isEmpty then setLines width fuel started rest
        else String.ofList line.flatten :: setLines width fuel true rest

/-- The lines of a text of words. -/
def wrapped (width : Nat) (words : List String) : List String :=
  let pieces := wordsAndBlanks words
  setLines width (2 * pieces.flatten.length + 1) false pieces

/-- Blanks. -/
def blanks (count : Nat) : String := String.ofList (List.replicate count ' ')

end Text

end SpecGraph
