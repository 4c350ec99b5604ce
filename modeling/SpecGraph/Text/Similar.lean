/-!
# Similar texts

The similarity of two texts is twice the number of characters in their matching blocks over the sum of
their lengths. The matching blocks are found by taking the longest common block, the first one of that
length in the first text and then in the second, and going on to the left and to the right of it.
`closest` picks the candidates most similar to a text. A text of which only the characters and their order
are known, but no character can be looked up at its place, is compared as far as no look at the place
beside a block is needed: `lookup?` tells the first place that is looked at.
-/

namespace SpecGraph

namespace Text

/-- The length of the common start of two texts. -/
def commonStart : List Char → List Char → Nat
  | left :: lefts, right :: rights => if left = right then commonStart lefts rights + 1 else 0
  | _, _ => 0

/-- A common block of two texts. -/
structure Block where
  /-- Where the block starts in the first text. -/
  left : Nat
  /-- Where the block starts in the second text. -/
  right : Nat
  /-- The number of characters in the block. -/
  size : Nat

/-- The longer of the best block so far and the block at a place in both texts. -/
def bestAlong (left : List Char) (leftStart : Nat) (best : Block) :
    (rightStart : Nat) → List Char → Block
  | _, [] => best
  | rightStart, character :: rest =>
      let size := commonStart left (character :: rest)
      let best := if best.size < size then ⟨leftStart, rightStart, size⟩ else best
      bestAlong left leftStart best (rightStart + 1) rest

/-- The longest common block, from a place in the first text on. -/
def longestFrom (right : List Char) (best : Block) : (leftStart : Nat) → List Char → Block
  | _, [] => best
  | leftStart, character :: rest =>
      longestFrom right (bestAlong (character :: rest) leftStart best 0 right) (leftStart + 1) rest

/-- The longest common block of two texts. -/
def longestBlock (left right : List Char) : Block := longestFrom right ⟨0, 0, 0⟩ 0 left

/-- The number of characters in the matching blocks of two texts. -/
def matchingCharacters : (fuel : Nat) → List Char → List Char → Nat
  | 0, _, _ => 0
  | fuel + 1, left, right =>
      let block := longestBlock left right
      if block.size = 0 then 0
      else
        block.size + matchingCharacters fuel (left.take block.left) (right.take block.right) +
          matchingCharacters fuel (left.drop (block.left + block.size))
            (right.drop (block.right + block.size))

/-- The place in the second text that is looked at to extend the longest common block: the one before it
if both texts reach there, or else the one after it. -/
def Block.lookup? (block : Block) (left right : List Char) : Option Nat :=
  if 0 < block.left ∧ 0 < block.right then some (block.right - 1)
  else if block.left + block.size < left.length ∧ block.right + block.size < right.length then
    some (block.right + block.size)
  else none

/-- The number of characters that two texts share, wherever they stand. -/
def sharedCharacters : List Char → List Char → Nat
  | [], _ => 0
  | character :: rest, right =>
      if right.contains character then sharedCharacters rest (right.erase character) + 1
      else sharedCharacters rest right

/-- A candidate with its similarity to a text as a fraction. -/
structure Candidate where
  /-- The candidate itself. -/
  text : String
  /-- Twice the number of matching characters. -/
  matched : Nat
  /-- The sum of the two lengths, or one if both are empty. -/
  total : Nat

/-- A candidate measured against a text. Two empty texts are wholly similar. -/
def Candidate.measure (word candidate : String) : Candidate :=
  let total := candidate.length + word.length
  if total = 0 then ⟨candidate, 1, 1⟩
  else
    ⟨candidate, 2 * matchingCharacters (candidate.length + 1) candidate.toList word.toList, total⟩

/-- A character list that comes before another one in the order of code points. -/
def precedes : List Char → List Char → Bool
  | [], [] => false
  | [], _ :: _ => true
  | _ :: _, [] => false
  | left :: lefts, right :: rights =>
      if left.toNat < right.toNat then true
      else if left = right then precedes lefts rights
      else false

/-- The first candidate ranks at least as high as the second: it is more similar, or equally similar
and not before the second in the order of texts. -/
def Candidate.ranksBefore (first second : Candidate) : Bool :=
  let left := first.matched * second.total
  let right := second.matched * first.total
  if left = right then !precedes first.text.toList second.text.toList else right < left

/-- The similarity of a candidate is at least three fifths. -/
def Candidate.isClose (candidate : Candidate) : Bool := 3 * candidate.total ≤ 5 * candidate.matched

/-- A candidate may be close to a text, as far as their lengths and the characters that they share tell;
one that is close passes, since its matching characters are shared ones. -/
def mayBeClose (word : List Char) (candidate : String) : Bool :=
  3 * (candidate.length + word.length) ≤ 10 * sharedCharacters candidate.toList word

/-- The first place in a text that is looked at to find the candidates close to it. As long as no place is
looked at, the longest common block is the only matching one. -/
def lookup? (word : List Char) (candidates : List String) : Option Nat :=
  (candidates.filter (mayBeClose word)).findSome? fun candidate =>
    (longestBlock candidate.toList word).lookup? candidate.toList word

/-- The candidates that are close to a text, best first, up to a number of them. -/
def closest (count : Nat) (word : String) (candidates : List String) : List String :=
  let close := (candidates.map (Candidate.measure word)).filter Candidate.isClose
  ((close.mergeSort Candidate.ranksBefore).take count).map Candidate.text

end Text

end SpecGraph
