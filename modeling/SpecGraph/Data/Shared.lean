import SpecGraph.Data.Basic
import SpecGraph.Text.Integer

/-!
# Values of a store

A value of a store stands for the tree that results from going from each place to the places of its
parts, which has no end if a value holds itself. What is asked of all parts of a value is found by going
to each place once. Written out along its ways, a value has its mark around its parts and stands for
itself inside them; written out once, it stands for itself in every place but the first.
-/

namespace SpecGraph

namespace Layer

variable {α : Type}

/-- The places of the parts of a layer. -/
def parts : Layer α → List Nat
  | .leaf _ => []
  | .list items => items
  | .pair first second => [first, second]
  | .map entries => entries.map Prod.snd
  | .set _ => []

/-- The values in a layer that have no parts. -/
def leaves : Layer α → List α
  | .leaf value => [value]
  | .list _ => []
  | .pair .. => []
  | .map entries => entries.map Prod.fst
  | .set items => items

end Layer

namespace Store

/-- What was met of a store on a way through it. -/
structure Search where
  /-- The places that were met, the last one first. -/
  places : List Nat
  /-- The places that were met. -/
  met : Array Bool
  /-- The places whose parts are done. -/
  done : Array Bool
  /-- Some place was met inside itself. -/
  loops : Bool
  /-- The depths of the places that are done. -/
  depths : Array Nat

/-- The search of a store before it starts. -/
def Search.start (size : Nat) : Search :=
  ⟨[], Array.replicate size false, Array.replicate size false, false, Array.replicate size 0⟩

/-- A layer is a collection. -/
def isCollection {α : Type} : Layer α → Bool
  | .leaf _ => false
  | .set _ => false
  | _ => true

/-- The search after going to a place and to the parts of it that were not met. -/
def search {α : Type} (store : Store α) : (fuel : Nat) → Search → (place : Nat) → Search
  | 0, found, _ => found
  | fuel + 1, found, place =>
      if found.done.getD place true then found
      else if found.met.getD place true then { found with loops := true }
      else
        let layer := store.layer place
        let inner := layer.parts.foldl (store.search fuel)
          { found with places := place :: found.places, met := found.met.setIfInBounds place true }
        let below := layer.parts.foldl (fun depth part => Nat.max depth (inner.depths.getD part 0)) 0
        { inner with
          done := inner.done.setIfInBounds place true
          depths := inner.depths.setIfInBounds place (below + if isCollection layer then 1 else 0) }

/-- What is met from a place on. -/
def searchFrom {α : Type} (store : Store α) (place : Nat) : Search :=
  store.search store.limit (Search.start store.layers.size) place

/-- Some value from a place on holds itself. -/
def isEndless {α : Type} (store : Store α) (place : Nat) : Bool := (store.searchFrom place).loops

/-- The number of collections around the innermost value at a place, if it has an end. -/
def depth {α : Type} (store : Store α) (place : Nat) : Nat := (store.searchFrom place).depths.getD place 0

/-- Some value without parts, at a place or in the values from there on, is of a class. -/
def anyLeaf {α : Type} (store : Store α) (place : Nat) (inClass : α → Bool) : Bool :=
  (store.searchFrom place).places.any fun other => (store.layer other).leaves.any inClass

/-- The value at a place written out along its ways, given the places around it. -/
def tree (store : Store Data) : (fuel : Nat) → (around : List Nat) → (place : Nat) → Data
  | 0, _, place => .again (store.mark place)
  | fuel + 1, around, place =>
      let part := store.tree fuel (place :: around)
      let mark := store.mark place
      match store.layer place with
      | .leaf value => value
      | layer =>
          if around.contains place then .again mark
          else
            match layer with
            | .leaf value => value
            | .list items => .marked mark (.list (items.map part))
            | .pair first second => .marked mark (.pair (part first) (part second))
            | .map entries => .marked mark (.map (entries.map fun (key, value) => (key, part value)))
            | .set items => .marked mark (.set items)

/-- The value at a place written out once, after some values that were. -/
def outline (store : Store Data) : (fuel : Nat) → (place : Nat) → StateM (List Mark) Data
  | 0, place => return .again (store.mark place)
  | fuel + 1, place => do
      let mark := store.mark place
      match store.layer place with
      | .leaf value => return value
      | layer =>
          if (← get).contains mark then return .again mark
          modify (mark :: ·)
          match layer with
          | .leaf value => return value
          | .list items => return .marked mark (.list (← items.mapM (store.outline fuel)))
          | .pair first second => do
              let first ← store.outline fuel first
              let second ← store.outline fuel second
              return .marked mark (.pair first second)
          | .map entries => do
              let entries ← entries.mapM fun (key, value) => return (key, ← store.outline fuel value)
              return .marked mark (.map entries)
          | .set items => return .marked mark (.set items)

end Store

namespace Data

mutual

/-- A value with the values of stores in it written out along their ways. -/
def expanded : Data → Data
  | .list items => .list (expandedItems items)
  | .pair first second => .pair (expanded first) (expanded second)
  | .map entries => .map (expandedEntries entries)
  | .shared store place => store.tree store.limit [] place
  | value => value

/-- Items with the values of stores in them written out. -/
def expandedItems : List Data → List Data
  | [] => []
  | item :: rest => expanded item :: expandedItems rest

/-- Entries with the values of stores in them written out. -/
def expandedEntries : List (Data × Data) → List (Data × Data)
  | [] => []
  | (key, value) :: rest => (key, expanded value) :: expandedEntries rest

end

mutual

/-- A value with the values of stores in it written out once, after some values that were. -/
def outlinedAfter : Data → StateM (List Mark) Data
  | .list items => return .list (← outlinedItems items)
  | .pair first second => do
      let first ← outlinedAfter first
      let second ← outlinedAfter second
      return .pair first second
  | .map entries => return .map (← outlinedEntries entries)
  | .shared store place => store.outline store.limit place
  | value => return value

/-- Items with the values of stores in them written out once. -/
def outlinedItems : List Data → StateM (List Mark) (List Data)
  | [] => return []
  | item :: rest => do
      let item ← outlinedAfter item
      return item :: (← outlinedItems rest)

/-- Entries with the values of stores in them written out once. -/
def outlinedEntries : List (Data × Data) → StateM (List Mark) (List (Data × Data))
  | [] => return []
  | (key, value) :: rest => do
      let value ← outlinedAfter value
      return (key, value) :: (← outlinedEntries rest)

end

/-- A value with the values of stores in it written out once. -/
def outlined (value : Data) : Data := (value.outlinedAfter.run []).1

mutual

/-- Some value holds itself, so that the tree has no end. -/
def isEndless : Data → Bool
  | .list items => isEndlessItems items
  | .pair first second => isEndless first || isEndless second
  | .map entries => isEndlessEntries entries
  | .shared store place => store.isEndless place
  | .marked _ value => isEndless value
  | .again _ => true
  | _ => false

/-- Some item is endless. -/
def isEndlessItems : List Data → Bool
  | [] => false
  | item :: rest => isEndless item || isEndlessItems rest

/-- The value of some entry is endless. -/
def isEndlessEntries : List (Data × Data) → Bool
  | [] => false
  | (_, value) :: rest => isEndless value || isEndlessEntries rest

end

mutual

/-- The number of collections around the innermost value, if the tree has an end. -/
def depth : Data → Nat
  | .list items => depthOfItems items + 1
  | .pair first second => Nat.max (depth first) (depth second) + 1
  | .map entries => depthOfEntries entries + 1
  | .shared store place => store.depth place
  | .marked _ value => depth value
  | _ => 0

/-- The greatest depth of some items. -/
def depthOfItems : List Data → Nat
  | [] => 0
  | item :: rest => Nat.max (depth item) (depthOfItems rest)

/-- The greatest depth of the values of some entries. -/
def depthOfEntries : List (Data × Data) → Nat
  | [] => 0
  | (_, value) :: rest => Nat.max (depth value) (depthOfEntries rest)

end

/-- A number with too many digits to be shown. -/
def isLongNumeral : Data → Bool
  | .int value => !Text.isShowable value
  | _ => false

mutual

/-- Some number in a value has too many digits to be shown. -/
def hasLongNumeral : Data → Bool
  | .list items => hasLongItem items
  | .pair first second => hasLongNumeral first || hasLongNumeral second
  | .map entries => hasLongEntry entries
  | .set items => hasLongItem items
  | .shared store place => store.anyLeaf place isLongNumeral
  | .marked _ value => hasLongNumeral value
  | value => isLongNumeral value

/-- Some item has a number with too many digits. -/
def hasLongItem : List Data → Bool
  | [] => false
  | item :: rest => hasLongNumeral item || hasLongItem rest

/-- Some entry has a number with too many digits. -/
def hasLongEntry : List (Data × Data) → Bool
  | [] => false
  | (key, value) :: rest => hasLongNumeral key || hasLongNumeral value || hasLongEntry rest

end

end Data

end SpecGraph
