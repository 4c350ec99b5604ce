import SpecGraph.Data.Shared
import SpecGraph.Text.CodePoints

/-!
# Equality and order of plain data

Two values are the same when they denote the same thing: truth values count as the numbers zero and
one, numbers are compared by value whatever their format, and mappings and sets are compared without
regard to the order of their entries. A number that is not a number is the same as no value, but a
collection tells it from others by its bits.

Only values of one class can be ordered: numbers, texts, bytes, moments of one kind, and lists or pairs
of such values. A number that is not a number comes neither before nor after another.
-/

namespace SpecGraph

namespace Data

/-- The order of two lists, given the order of their elements. -/
def compareLists {α : Type} (compare : α → α → Option Ordering) :
    List α → List α → Option Ordering
  | [], [] => some .eq
  | [], _ :: _ => some .lt
  | _ :: _, [] => some .gt
  | left :: lefts, right :: rights =>
      match compare left right with
      | some .eq => compareLists compare lefts rights
      | other => other

/-- The order of two natural numbers. -/
def compareNats (left right : Nat) : Option Ordering :=
  some (if left < right then .lt else if left = right then .eq else .gt)

/-- The order of two texts, by their code points. -/
def compareTexts (left right : String) : Option Ordering :=
  compareLists compareNats (Text.codes left.toList) (Text.codes right.toList)

/-- The integer a truth value or an integer counts as. -/
def integer? : Data → Option Int
  | .bool value => some (if value then 1 else 0)
  | .int value => some value
  | _ => none

/-- The opposite order. -/
def flipOrder : Option Ordering → Option Ordering
  | some .lt => some .gt
  | some .gt => some .lt
  | other => other

/-- The order of two numbers, or nothing when one of the values is none. -/
def compareNumbers (left right : Data) : Option Ordering :=
  match left.integer?, right.integer? with
  | some first, some second => some (Binary64.signOf first second)
  | some first, none =>
      match right with
      | .float second => flipOrder (second.compareInt? first)
      | _ => none
  | none, some second =>
      match left with
      | .float first => first.compareInt? second
      | _ => none
  | none, none =>
      match left, right with
      | .float first, .float second => first.compare? second
      | _, _ => none

/-- One floating-point number, bit by bit. -/
def sameBits : Data → Data → Bool
  | .float left, .float right => left == right
  | _, _ => false

mutual

/-- Two trees that denote the same thing. -/
def sameTrees (left right : Data) : Bool :=
  match left, right.unmarked with
  | .marked mark left, other => right.hasMark mark || sameTrees left other
  | .again mark, _ => right.hasMark mark
  | .null, .null => true
  | .text left, .text right => left == right
  | .bytes left, .bytes right => left == right
  | .moment left, .moment right => left.same right
  | .list left, .list right => sameLists left right
  | .pair left₁ left₂, .pair right₁ right₂ =>
      (sameBits left₁ right₁ || sameTrees left₁ right₁) &&
        (sameBits left₂ right₂ || sameTrees left₂ right₂)
  | .map left, .map right => left.length == right.length && sameEntries left right
  | .set left, .set right => left.length == right.length && sameMembers left right
  | left, right => compareNumbers left right == some .eq

/-- Two lists of the same trees in the same order. -/
def sameLists : List Data → List Data → Bool
  | [], [] => true
  | left :: lefts, right :: rights =>
      (sameBits left right || sameTrees left right) && sameLists lefts rights
  | _, _ => false

/-- Every entry of the first list has the same entry in the second. -/
def sameEntries : List (Data × Data) → List (Data × Data) → Bool
  | [], _ => true
  | (key, value) :: rest, right =>
      (right.any fun entry =>
        (sameBits key entry.1 || sameTrees key entry.1) &&
          (sameBits value entry.2 || sameTrees value entry.2)) &&
        sameEntries rest right

/-- Every tree of the first list has the same one in the second. -/
def sameMembers : List Data → List Data → Bool
  | [], _ => true
  | item :: rest, right =>
      right.any (fun other => sameBits item other || sameTrees item other) && sameMembers rest right

end

/-- Two values that denote the same thing. -/
def same (left right : Data) : Bool := sameTrees left.expanded right.expanded

/-- Two values that a collection takes for one: the same values, or one that is not even the same as
itself. -/
def alike (left right : Data) : Bool := sameBits left right || same left right

/-- A truth value or a number. -/
def isNumber : Data → Bool
  | .bool _ => true
  | .int _ => true
  | .float _ => true
  | _ => false

mutual

/-- Whether the first tree comes before the second, or nothing when they cannot be ordered. -/
def isTreeBefore? (left right : Data) : Option Bool :=
  match left, right.unmarked with
  | .marked _ left, other => isTreeBefore? left other
  | .text left, .text right => some (compareTexts left right == some .lt)
  | .bytes left, .bytes right =>
      some (compareLists (fun first second => compareNats first.toNat second.toNat) left right ==
        some .lt)
  | .moment left, .moment right => (left.compare? right).map (· == .lt)
  | .list left, .list right => isListBefore? left right
  | .pair left₁ left₂, .pair right₁ right₂ =>
      if !alike left₁ right₁ then isTreeBefore? left₁ right₁
      else if !alike left₂ right₂ then isTreeBefore? left₂ right₂
      else some false
  | left, right =>
      if left.isNumber && right.isNumber then some (compareNumbers left right == some .lt) else none

/-- Whether the first list comes before the second by their first difference. -/
def isListBefore? : List Data → List Data → Option Bool
  | _, [] => some false
  | [], _ :: _ => some true
  | left :: lefts, right :: rights =>
      if alike left right then isListBefore? lefts rights else isTreeBefore? left right

end

/-- Whether the first value comes before the second, or nothing when they cannot be ordered. -/
def isBefore? (left right : Data) : Option Bool := isTreeBefore? left.expanded right.expanded

/-- A value that can be the key of a mapping. -/
def isKey : Data → Bool
  | .list _ => false
  | .map _ => false
  | .set _ => false
  | .pair first second => isKey first && isKey second
  | .shared .. => false
  | .marked _ value => isKey value
  | .again _ => false
  | _ => true

end Data

end SpecGraph
