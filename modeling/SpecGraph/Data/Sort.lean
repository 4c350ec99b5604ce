import SpecGraph.Data.Order

/-!
# Sorting

Elements are sorted by insertion. The elements at the start that rise already, or that fall throughout and
are turned round, are sorted as they are; each later one goes to the place that halving finds for it among
those before. Elements of which neither is before the other keep their order. A number that is not a
number is before no other and after no other, so where it goes depends on what it meets. Elements that
cannot be ordered cannot be sorted.
-/

namespace SpecGraph

namespace Data

/-- The elements that go on rising or falling after an element, and those after them. -/
def takeRun {α : Type} (isBefore? : α → α → Option Bool) (falls : Bool) (last : α) :
    List α → Option (List α × List α)
  | [] => some ([], [])
  | element :: rest => do
      if (← isBefore? element last) != falls then return ([], element :: rest)
      let (run, after) ← takeRun isBefore? falls element rest
      return (element :: run, after)

/-- The place of an element among sorted ones, between two places. -/
def placeBetween {α : Type} (isBefore? : α → α → Option Bool) (sorted : List α) (element : α) :
    (fuel low high : Nat) → Option Nat
  | 0, low, _ => some low
  | fuel + 1, low, high =>
      if low < high then
        let middle := low + (high - low) / 2
        match sorted[middle]? with
        | none => some low
        | some other =>
            match isBefore? element other with
            | none => none
            | some true => placeBetween isBefore? sorted element fuel low middle
            | some false => placeBetween isBefore? sorted element fuel (middle + 1) high
      else some low

/-- Sorted elements with more elements inserted one after the other. -/
def insertEach {α : Type} (isBefore? : α → α → Option Bool) (sorted : List α) :
    List α → Option (List α)
  | [] => some sorted
  | element :: rest => do
      let place ← placeBetween isBefore? sorted element (sorted.length + 1) 0 sorted.length
      insertEach isBefore? (sorted.take place ++ element :: sorted.drop place) rest

/-- Elements in order, or nothing when two that meet cannot be ordered. -/
def sortBy? {α : Type} (isBefore? : α → α → Option Bool) : List α → Option (List α)
  | first :: second :: rest => do
      let falls ← isBefore? second first
      let (run, after) ← takeRun isBefore? falls second rest
      let run := first :: second :: run
      insertEach isBefore? (if falls then run.reverse else run) after
  | elements => some elements

/-- Values in order, or nothing when two that meet cannot be ordered. -/
def sort? (values : List Data) : Option (List Data) := sortBy? isBefore? values

end Data

end SpecGraph
