import Mathlib
import SpecGraph.Data.Sort
import SpecGraph.Proofs.Data.Table

/-!
# What sorting keeps

Sorting looks at elements through its test alone, so elements can be sorted before or after they are
turned into others that the test tells apart in the same way. Where the test always has an answer, as it
has for texts, there is a sorted list, and it has the elements that were sorted.
-/

namespace SpecGraph

namespace Data

variable {α β : Type}

/-- Runs are taken from images as from the elements themselves. -/
theorem takeRun_map (image : α → β) (test : β → β → Option Bool) (falls : Bool) (last : α)
    (elements : List α) :
    takeRun test falls (image last) (elements.map image) =
      (takeRun (fun left right => test (image left) (image right)) falls last elements).map
        fun found => (found.1.map image, found.2.map image) := by
  induction elements generalizing last with
  | nil => rfl
  | cons element rest ih =>
      rw [List.map_cons, takeRun, takeRun, ih]
      cases test (image element) (image last) with
      | none => rfl
      | some answer =>
          rcases Decidable.em (answer = falls) with same | other
          · cases takeRun (fun left right => test (image left) (image right)) falls element rest <;>
              simp [same]
          · simp [other]

theorem placeBetween_map (image : α → β) (test : β → β → Option Bool) (sorted : List α) (element : α)
    (fuel low high : Nat) :
    placeBetween test (sorted.map image) (image element) fuel low high =
      placeBetween (fun left right => test (image left) (image right)) sorted element fuel low
        high := by
  induction fuel generalizing low high with
  | zero => rfl
  | succ fuel ih =>
      simp only [placeBetween, List.getElem?_map]
      cases sorted[low + (high - low) / 2]? with
      | none => rfl
      | some other => simp only [Option.map_some, ih]

theorem insertEach_map (image : α → β) (test : β → β → Option Bool) (sorted elements : List α) :
    insertEach test (sorted.map image) (elements.map image) =
      (insertEach (fun left right => test (image left) (image right)) sorted elements).map
        (List.map image) := by
  induction elements generalizing sorted with
  | nil => rfl
  | cons element rest ih =>
      rw [List.map_cons, insertEach, insertEach, placeBetween_map, List.length_map]
      cases placeBetween (fun left right => test (image left) (image right)) sorted element
          (sorted.length + 1) 0 sorted.length with
      | none => rfl
      | some place =>
          have moved : (sorted.map image).take place ++ image element :: (sorted.map image).drop place =
              (sorted.take place ++ element :: sorted.drop place).map image := by
            simp
          exact (congrArg (insertEach test · (rest.map image)) moved).trans (ih _)

/-- Images are sorted like the elements themselves. -/
theorem sortBy?_map (image : α → β) (test : β → β → Option Bool) (elements : List α) :
    sortBy? test (elements.map image) =
      (sortBy? (fun left right => test (image left) (image right)) elements).map (List.map image) := by
  rcases elements with _ | ⟨first, _ | ⟨second, rest⟩⟩
  · rfl
  · rfl
  · rw [List.map_cons, List.map_cons, sortBy?, sortBy?]
    cases test (image second) (image first) with
    | none => rfl
    | some falls =>
        simp only [Option.bind_eq_bind, Option.bind_some, takeRun_map]
        cases takeRun (fun left right => test (image left) (image right)) falls second rest with
        | none => rfl
        | some found =>
            obtain ⟨run, after⟩ := found
            rw [Option.map_some, Option.bind_some, Option.bind_some]
            cases falls with
            | false => exact insertEach_map image test (first :: second :: run) after
            | true =>
                rw [if_pos rfl, if_pos rfl, ← List.map_cons, ← List.map_cons, ← List.map_reverse]
                exact insertEach_map image test (first :: second :: run).reverse after

section Kept

variable {test : α → α → Option Bool}

theorem append_of_takeRun {falls : Bool} {last : α} {elements run after : List α}
    (taken : takeRun test falls last elements = some (run, after)) : run ++ after = elements := by
  induction elements generalizing last run with
  | nil =>
      cases taken
      rfl
  | cons element rest ih =>
      rw [takeRun] at taken
      rcases Option.bind_eq_some_iff.mp taken with ⟨answer, _, taken⟩
      split at taken
      · cases taken
        rfl
      · rcases Option.bind_eq_some_iff.mp taken with ⟨⟨others, left⟩, takenOthers, isRun⟩
        cases isRun
        rw [List.cons_append, ih takenOthers]

/-- Inserting adds elements and loses none. -/
theorem perm_of_insertEach {sorted elements all : List α} (inserted : insertEach test sorted elements = some all) :
    all.Perm (sorted ++ elements) := by
  induction elements generalizing sorted with
  | nil =>
      cases inserted
      rw [List.append_nil]
  | cons element rest ih =>
      rw [insertEach] at inserted
      rcases Option.bind_eq_some_iff.mp inserted with ⟨place, _, inserted⟩
      have moved : (sorted.take place ++ element :: sorted.drop place).Perm (element :: sorted) := by
        have middle : (sorted.take place ++ element :: sorted.drop place).Perm
            (element :: (sorted.take place ++ sorted.drop place)) := List.perm_middle
        rwa [List.take_append_drop] at middle
      exact (ih inserted).trans ((moved.append_right rest).trans List.perm_middle.symm)

/-- Sorting keeps the elements. -/
theorem perm_of_sortBy? {elements sorted : List α} (found : sortBy? test elements = some sorted) :
    sorted.Perm elements := by
  rcases elements with _ | ⟨first, _ | ⟨second, rest⟩⟩
  · cases found
    exact List.Perm.refl _
  · cases found
    exact List.Perm.refl _
  · rw [sortBy?] at found
    rcases Option.bind_eq_some_iff.mp found with ⟨falls, _, found⟩
    rcases Option.bind_eq_some_iff.mp found with ⟨⟨run, after⟩, taken, inserted⟩
    refine (perm_of_insertEach inserted).trans ?_
    rw [← append_of_takeRun taken, ← List.cons_append, ← List.cons_append]
    split
    · exact (List.reverse_perm _).append_right after
    · exact List.Perm.refl _

end Kept

section Total

variable (before : α → α → Bool)

/-- A test that always has an answer takes some run. -/
theorem exists_takeRun (falls : Bool) (last : α) (elements : List α) :
    ∃ run after, takeRun (fun left right => some (before left right)) falls last elements = some (run, after) := by
  induction elements generalizing last with
  | nil => exact ⟨[], [], rfl⟩
  | cons element rest ih =>
      rw [takeRun]
      rcases Decidable.em (before element last = falls) with same | other
      · obtain ⟨run, after, taken⟩ := ih element
        exact ⟨element :: run, after, by simp [same, taken]⟩
      · exact ⟨[], element :: rest, by simp [other]⟩

theorem exists_placeBetween (sorted : List α) (element : α) (fuel low high : Nat) :
    ∃ place, placeBetween (fun left right => some (before left right)) sorted element fuel low high =
      some place := by
  induction fuel generalizing low high with
  | zero => exact ⟨low, rfl⟩
  | succ fuel ih =>
      by_cases inside : low < high
      · simp only [placeBetween, if_pos inside]
        cases sorted[low + (high - low) / 2]? with
        | none => exact ⟨low, rfl⟩
        | some other =>
            cases answer : before element other with
            | true => simpa only [answer] using ih low (low + (high - low) / 2)
            | false => simpa only [answer] using ih (low + (high - low) / 2 + 1) high
      · exact ⟨low, by simp only [placeBetween, if_neg inside]⟩

theorem exists_insertEach (sorted elements : List α) :
    ∃ all, insertEach (fun left right => some (before left right)) sorted elements = some all := by
  induction elements generalizing sorted with
  | nil => exact ⟨sorted, rfl⟩
  | cons element rest ih =>
      obtain ⟨place, placed⟩ :=
        exists_placeBetween before sorted element (sorted.length + 1) 0 sorted.length
      obtain ⟨all, inserted⟩ := ih (sorted.take place ++ element :: sorted.drop place)
      refine ⟨all, ?_⟩
      rw [insertEach, placed]
      exact inserted

/-- Where the test always has an answer there is a sorted list of the elements. -/
theorem exists_sortBy? (elements : List α) :
    ∃ sorted, sortBy? (fun left right => some (before left right)) elements = some sorted ∧
      sorted.Perm elements := by
  have isSorted : ∃ sorted, sortBy? (fun left right => some (before left right)) elements = some sorted := by
    rcases elements with _ | ⟨first, _ | ⟨second, rest⟩⟩
    · exact ⟨[], rfl⟩
    · exact ⟨[first], rfl⟩
    · obtain ⟨run, after, taken⟩ := exists_takeRun before (before second first) second rest
      obtain ⟨all, inserted⟩ := exists_insertEach before
        (if before second first then (first :: second :: run).reverse else first :: second :: run) after
      refine ⟨all, ?_⟩
      rw [sortBy?]
      simpa [taken] using inserted
  rcases isSorted with ⟨sorted, found⟩
  exact ⟨sorted, found, perm_of_sortBy? found⟩

end Total

section Keyed

variable {κ : Type} [LinearOrder κ] (key : α → κ)

/-- An element comes before another one by its key. -/
def keyBefore (left right : α) : Option Bool := some (decide (key left < key right))

/-- Elements stand in the order of their keys. -/
def IsSorted (elements : List α) : Prop := elements.Pairwise fun left right => key left ≤ key right

variable {key}

/-- The elements of a run rise if the second does not come before the first, and fall otherwise. -/
theorem pairwise_of_takeRun {falls : Bool} {last : α} {elements run after : List α}
    (taken : takeRun (keyBefore key) falls last elements = some (run, after)) :
    (last :: run).Pairwise fun left right => if falls then key right < key left else key left ≤ key right := by
  induction elements generalizing last run with
  | nil =>
      cases taken
      exact List.pairwise_singleton _ _
  | cons element rest ih =>
      rw [takeRun, keyBefore] at taken
      simp only [Option.bind_eq_bind, Option.bind_some, bne_iff_ne] at taken
      split at taken
      · cases taken
        exact List.pairwise_singleton _ _
      · next same =>
          rw [not_not] at same
          rcases Option.bind_eq_some_iff.mp taken with ⟨⟨others, left⟩, takenOthers, isRun⟩
          cases isRun
          have sorted := ih takenOthers
          refine List.pairwise_cons.mpr ⟨?_, sorted⟩
          have first : if falls then key element < key last else key last ≤ key element := by
            cases falls with
            | true => exact of_decide_eq_true same
            | false => exact not_lt.mp (of_decide_eq_false same)
          rw [List.forall_mem_cons]
          refine ⟨first, fun other otherMem => ?_⟩
          have next := (List.pairwise_cons.mp sorted).1 other otherMem
          cases falls with
          | true => exact lt_trans next first
          | false => exact le_trans first next

/-- Halving finds the place between the elements that an element is not before and those that it is before. -/
theorem placeBetween_spec {sorted : List α} (isSorted : IsSorted key sorted) {element : α} {fuel low high place : Nat}
    (enough : high - low < fuel) (ordered : low ≤ high) (inside : high ≤ sorted.length)
    (below : ∀ other ∈ sorted.take low, key other ≤ key element)
    (above : ∀ other ∈ sorted.drop high, key element < key other)
    (placed : placeBetween (keyBefore key) sorted element fuel low high = some place) :
    (∀ other ∈ sorted.take place, key other ≤ key element) ∧ ∀ other ∈ sorted.drop place, key element < key other := by
  induction fuel generalizing low high with
  | zero => omega
  | succ fuel ih =>
      rw [placeBetween] at placed
      split at placed
      · next less =>
          dsimp only at placed
          have middleLess : low + (high - low) / 2 < sorted.length := by omega
          generalize isMiddle : low + (high - low) / 2 = middle at *
          rw [List.getElem?_eq_getElem middleLess] at placed
          dsimp only [keyBefore] at placed
          have split : sorted = sorted.take middle ++ sorted[middle] :: sorted.drop (middle + 1) := by
            rw [List.getElem_cons_drop, List.take_append_drop]
          have pairs := isSorted
          rw [IsSorted, split, List.pairwise_append, List.pairwise_cons] at pairs
          rcases pairs with ⟨_, ⟨afterMiddle, _⟩, beforeMiddle⟩
          by_cases before : key element < key sorted[middle]
          · rw [decide_eq_true before] at placed
            refine ih (by omega) (by omega) (by omega) below (fun other otherMem => ?_) placed
            rw [← List.getElem_cons_drop middleLess] at otherMem
            rcases List.mem_cons.mp otherMem with rfl | later
            · exact before
            · exact lt_of_lt_of_le before (afterMiddle other later)
          · rw [decide_eq_false before] at placed
            refine ih (by omega) (by omega) (by omega) (fun other otherMem => ?_) above placed
            have notBefore := not_lt.mp before
            rw [List.take_succ_eq_append_getElem middleLess] at otherMem
            rcases List.mem_append.mp otherMem with earlier | isMiddle
            · exact le_trans (beforeMiddle other earlier _ List.mem_cons_self) notBefore
            · rw [List.mem_singleton.mp isMiddle]
              exact notBefore
      · next notLess =>
          obtain rfl : low = high := by omega
          obtain rfl := Option.some.inj placed
          exact ⟨below, above⟩

/-- An element that goes to its place leaves the elements in order. -/
theorem IsSorted.insertEach {sorted elements all : List α} (isSorted : IsSorted key sorted)
    (inserted : insertEach (keyBefore key) sorted elements = some all) : IsSorted key all := by
  induction elements generalizing sorted with
  | nil =>
      cases inserted
      exact isSorted
  | cons element rest ih =>
      rw [Data.insertEach] at inserted
      rcases Option.bind_eq_some_iff.mp inserted with ⟨place, placed, inserted⟩
      rcases placeBetween_spec isSorted (by omega) (Nat.zero_le _) (Nat.le_refl _) (by simp) (by simp) placed with
        ⟨below, above⟩
      refine ih ?_ inserted
      have pairs := isSorted
      rw [IsSorted, ← List.take_append_drop place sorted, List.pairwise_append] at pairs
      rcases pairs with ⟨front, back, across⟩
      refine List.pairwise_append.mpr ⟨front, List.pairwise_cons.mpr ⟨fun other otherMem => ?_, back⟩, ?_⟩
      · exact (above other otherMem).le
      · intro first firstMem second secondMem
        rcases List.mem_cons.mp secondMem with rfl | later
        · exact below first firstMem
        · exact across first firstMem second later

/-- Sorted elements stand in the order of their keys. -/
theorem isSorted_of_sortBy? {elements sorted : List α} (isSorted : sortBy? (keyBefore key) elements = some sorted) :
    IsSorted key sorted := by
  rcases elements with _ | ⟨first, _ | ⟨second, rest⟩⟩
  · cases isSorted
    exact List.Pairwise.nil
  · cases isSorted
    exact List.pairwise_singleton _ _
  · rw [sortBy?] at isSorted
    rcases Option.bind_eq_some_iff.mp isSorted with ⟨falls, isFalls, isSorted⟩
    rcases Option.bind_eq_some_iff.mp isSorted with ⟨⟨run, after⟩, taken, inserted⟩
    have same := Option.some.inj isFalls
    have whole : takeRun (keyBefore key) falls first (second :: rest) = some (second :: run, after) := by
      rw [takeRun, keyBefore, same, taken]
      simp
    have pairs := pairwise_of_takeRun whole
    refine IsSorted.insertEach ?_ inserted
    cases falls with
    | false => exact pairs
    | true => exact (List.pairwise_reverse.mpr pairs).imp le_of_lt

variable (key) in
theorem exists_isSorted (elements : List α) :
    ∃ sorted, sortBy? (keyBefore key) elements = some sorted ∧ IsSorted key sorted ∧ sorted.Perm elements := by
  obtain ⟨sorted, found, same⟩ := exists_sortBy? (fun left right => decide (key left < key right)) elements
  exact ⟨sorted, found, isSorted_of_sortBy? found, same⟩

/-- Elements that stand in order are sorted. -/
theorem IsSorted.sortBy?_eq {elements : List α} (isSorted : IsSorted key elements) :
    sortBy? (keyBefore key) elements = some elements := by
  rcases elements with _ | ⟨first, _ | ⟨second, rest⟩⟩
  · rfl
  · rfl
  · have run {last : α} {others : List α} (rises : IsSorted key (last :: others)) :
        takeRun (keyBefore key) false last others = some (others, []) := by
      induction others generalizing last with
      | nil => rfl
      | cons element others ih =>
          have next := (List.pairwise_cons.mp rises).1 element List.mem_cons_self
          rw [takeRun, keyBefore, decide_eq_false (not_lt.mpr next)]
          simp [ih (List.pairwise_cons.mp rises).2]
    have next := (List.pairwise_cons.mp isSorted).1 second List.mem_cons_self
    rw [sortBy?, keyBefore, decide_eq_false (not_lt.mpr next)]
    simp [run (List.pairwise_cons.mp isSorted).2, Data.insertEach]

/-- Elements of different keys have one order. -/
theorem IsSorted.eq_of_perm {elements others : List α} (isSorted : IsSorted key elements)
    (othersSorted : IsSorted key others) (apart : (elements.map key).Nodup) (same : elements.Perm others) :
    elements = others := by
  apply List.Perm.eq_of_pairwise _ isSorted othersSorted same
  intro first second firstMem secondMem notAfter notBefore
  exact List.inj_on_of_nodup_map apart firstMem (same.mem_iff.mpr secondMem) (le_antisymm notAfter notBefore)

end Keyed

/-- A text comes before another one by its code points. -/
def textBefore (left right : String) : Bool := compareTexts left right == some .lt

theorem compareLists_compareNats (left right : List Nat) :
    (compareLists compareNats left right == some .lt) = decide (left < right) := by
  induction left generalizing right with
  | nil => cases right <;> simp [compareLists]
  | cons first lefts ih =>
      cases right with
      | nil => simp [compareLists]
      | cons second rights =>
          simp only [compareLists, compareNats]
          rcases lt_trichotomy first second with less | rfl | more
          · simp [less, List.cons_lt_cons_iff]
          · simp [ih]
          · simp [more.not_gt, more.ne', List.cons_lt_cons_iff]

/-- Entries with texts as keys are ordered by the code points of these. -/
theorem keyBefore_codes {β : Type} (left right : String × β) :
    some (textBefore left.1 right.1) = keyBefore (fun entry => Text.codes entry.1.toList) left right := by
  unfold textBefore compareTexts keyBefore
  rw [compareLists_compareNats, Option.some.injEq, decide_eq_decide]

@[simp]
theorem isBefore?_text (left right : String) :
    isBefore? (.text left) (.text right) = some (textBefore left right) := by
  simp [isBefore?, expanded, isTreeBefore?, unmarked, textBefore]

end Data

end SpecGraph
