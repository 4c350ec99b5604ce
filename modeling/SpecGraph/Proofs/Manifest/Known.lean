import SpecGraph.Proofs.Manifest.Planned

/-!
# Ids that are known again

New ids follow the greatest known one, so the known ids of a plan can be ordered and the greatest of them is a number.
Then all of them are numbers, and so are all ids of the plan. Of numbers there is a greatest one with a number after
it; so when all addresses are known with numbers, they keep them.
-/

namespace SpecGraph

open Json (IsValue)
open Manifest (ok_bind)

namespace Data

theorem isNumber_next {value next : Data} (isNext : value.next = .ok next) :
    value.isNumber = true ∧ next.isNumber = true := by
  cases value with
  | bool | int | float =>
      cases isNext
      exact ⟨rfl, rfl⟩
  | _ => cases isNext

theorem exists_next {value : Data} (isNumber : value.isNumber = true) : ∃ next, value.next = .ok next := by
  cases value with
  | bool | int | float => exact ⟨_, rfl⟩
  | _ => cases isNumber

/-- A value that was read comes before or after a number only if it is a number. -/
theorem isNumber_of_isBefore? {levels : Nat} {first second : Data} (firstRead : IsValue levels first)
    (secondRead : IsValue levels second) {answer : Bool} (ordered : isBefore? first second = some answer) :
    first.isNumber = second.isNumber := by
  unfold isBefore? at ordered
  cases firstRead <;> cases secondRead <;> first
    | rfl
    | unfold isTreeBefore? at ordered
      simp [expanded, unmarked, isNumber, object] at ordered

theorem exists_exceeds {first second : Data} (firstNumber : first.isNumber = true)
    (secondNumber : second.isNumber = true) : ∃ answer, first.exceeds second = .ok answer := by
  have ordered : ∃ answer, isBefore? second first = some answer := by
    cases first <;> cases second <;>
      simp_all [isBefore?, isTreeBefore?, expanded, unmarked, isNumber]
  rcases ordered with ⟨answer, ordered⟩
  unfold exceeds
  rw [ordered]
  exact ⟨answer, rfl⟩

/-- If the greatest of some values that were read is a number, then all of them are. -/
theorem isNumber_of_greatestFrom {levels : Nat} {best greatest : Data} {values : List Data}
    (bestRead : IsValue levels best) (read : ∀ value ∈ values, IsValue levels value)
    (isGreatest : greatestFrom best values = .ok greatest) (isNumber : greatest.isNumber = true) :
    best.isNumber = true ∧ ∀ value ∈ values, value.isNumber = true := by
  induction values generalizing best with
  | nil =>
      cases isGreatest
      exact ⟨isNumber, List.forall_mem_nil _⟩
  | cons value rest ih =>
      rcases List.forall_mem_cons.mp read with ⟨valueRead, restRead⟩
      rw [greatestFrom] at isGreatest
      rcases bind_eq_ok.mp isGreatest with ⟨exceeds_, isExceeds, isGreatest⟩
      have sameKind : best.isNumber = value.isNumber := by
        unfold exceeds at isExceeds
        split at isExceeds
        · next ordered => exact isNumber_of_isBefore? bestRead valueRead ordered
        · cases isExceeds
      rw [List.forall_mem_cons]
      cases exceeds_ with
      | true =>
          have both := ih valueRead restRead isGreatest
          exact ⟨sameKind.trans both.1, both⟩
      | false =>
          have both := ih bestRead restRead isGreatest
          exact ⟨both.1, sameKind.symm.trans both.1, both.2⟩

/-- There is a greatest one of some numbers. -/
theorem exists_greatestFrom {best : Data} {values : List Data} (bestNumber : best.isNumber = true)
    (numbers : ∀ value ∈ values, value.isNumber = true) :
    ∃ greatest, greatestFrom best values = .ok greatest ∧ greatest.isNumber = true := by
  induction values generalizing best with
  | nil => exact ⟨best, rfl, bestNumber⟩
  | cons value rest ih =>
      rcases List.forall_mem_cons.mp numbers with ⟨valueNumber, restNumbers⟩
      rcases exists_exceeds valueNumber bestNumber with ⟨answer, isExceeds⟩
      rw [greatestFrom, isExceeds, ok_bind]
      cases answer with
      | true => exact ih valueNumber restNumbers
      | false => exact ih bestNumber restNumbers

end Data

namespace Manifest

/-- Known ids of addresses are numbers, and they are followed by one. -/
theorem exists_first {values : List Data} (numbers : ∀ value ∈ values, value.isNumber = true) :
    ∃ greatest first, Data.greatest values = .ok greatest ∧ greatest.next = .ok first := by
  have greatest : ∃ greatest, Data.greatest values = .ok greatest ∧ greatest.isNumber = true := by
    cases values with
    | nil => exact ⟨.int 0, rfl, rfl⟩
    | cons value rest =>
        rcases List.forall_mem_cons.mp numbers with ⟨valueNumber, restNumbers⟩
        exact Data.exists_greatestFrom valueNumber restNumbers
  rcases greatest with ⟨greatest, isGreatest, isNumber⟩
  rcases Data.exists_next isNumber with ⟨first, isNext⟩
  exact ⟨greatest, first, isGreatest, isNext⟩

/-- Ids that are given out where all known ids are numbers are numbers. -/
theorem isNumber_assignIds {known : Table Data} (numbers : known.Holds fun id => id.isNumber = true) {next : Data}
    (isNumber : next.isNumber = true) {addresses : List String} {ids : Table Data}
    (assigned : assignIds known next addresses = .ok ids) :
    ∃ entries, ids = Table.textual entries ∧ entries.map Prod.fst = addresses ∧
      ∀ entry ∈ entries, entry.2.isNumber = true := by
  induction addresses generalizing next ids with
  | nil =>
      cases assigned
      exact ⟨[], rfl, rfl, List.forall_mem_nil _⟩
  | cons address rest ih =>
      rw [assignIds] at assigned
      split at assigned
      · next id found =>
          rcases bind_eq_ok.mp assigned with ⟨others, areOthers, areIds⟩
          cases areIds
          rcases ih isNumber areOthers with ⟨entries, rfl, rfl, areNumbers⟩
          exact ⟨(address, id) :: entries, rfl, rfl, List.forall_mem_cons.mpr ⟨numbers.get? found, areNumbers⟩⟩
      · rcases bind_eq_ok.mp assigned with ⟨after, isAfter, assigned⟩
        rcases bind_eq_ok.mp assigned with ⟨others, areOthers, areIds⟩
        cases areIds
        rcases ih (Data.isNumber_next isAfter).2 areOthers with ⟨entries, rfl, rfl, areNumbers⟩
        exact ⟨(address, next) :: entries, rfl, rfl, List.forall_mem_cons.mpr ⟨isNumber, areNumbers⟩⟩

/-- The ids of a section are numbers, one for each address. -/
theorem isNumber_sectionIds {levels : Nat} {previous : Option Data} {section_ : String} {addresses : List String}
    {ids : Table Data} (wasRead : ∀ manifest ∈ previous, IsValue (levels + 3) manifest) (distinct : addresses.Nodup)
    (areIds : sectionIds previous section_ addresses = .ok ids) :
    ∃ entries, ids = Table.textual entries ∧ entries.map Prod.fst = addresses ∧
      ∀ entry ∈ entries, entry.2.isNumber = true := by
  unfold sectionIds at areIds
  rcases bind_eq_ok.mp areIds with ⟨known, areKnown, areIds⟩
  rcases bind_eq_ok.mp areIds with ⟨greatest, isGreatest, areIds⟩
  rcases bind_eq_ok.mp areIds with ⟨first, isFirst, areIds⟩
  rcases bind_eq_ok.mp areIds with ⟨assigned, areAssigned, areIds⟩
  cases areIds
  have read := holds_knownIds wasRead areKnown
  rcases Data.isNumber_next isFirst with ⟨greatestNumber, firstNumber⟩
  have numbers : known.Holds fun id => id.isNumber = true := by
    cases known with
    | nil => exact List.forall_mem_nil _
    | cons entry rest =>
        rcases List.forall_mem_cons.mp read with ⟨entryRead, restRead⟩
        have both := Data.isNumber_of_greatestFrom entryRead (List.forall_mem_map.mpr restRead) isGreatest greatestNumber
        exact List.forall_mem_cons.mpr ⟨both.1, List.forall_mem_map.mp both.2⟩
  rcases isNumber_assignIds numbers firstNumber areAssigned with ⟨entries, rfl, rfl, areNumbers⟩
  exact ⟨entries, Table.ofEntries_of_nodup _ distinct, rfl, areNumbers⟩

/-- Known addresses keep their ids. -/
theorem assignIds_of_known {known : List (String × Data)} (distinct : (known.map Prod.fst).Nodup) (next : Data)
    {entries : List (String × Data)} (areKnown : ∀ entry ∈ entries, entry ∈ known) :
    assignIds (Table.textual known) next (entries.map Prod.fst) = .ok (Table.textual entries) := by
  induction entries with
  | nil => rfl
  | cons entry rest ih =>
      rcases List.forall_mem_cons.mp areKnown with ⟨entryKnown, restKnown⟩
      rw [List.map_cons, assignIds, Table.get?_textual, Table.lookup_of_mem distinct entryKnown]
      simp only [ih restKnown, ok_bind]
      rfl

/-- The ids of a section whose addresses are all known with numbers are these. -/
theorem sectionIds_of_known {previous : Option Data} {section_ : String} {entries : List (String × Data)}
    (areKnown : knownIds previous section_ = .ok (Table.textual entries)) (distinct : (entries.map Prod.fst).Nodup)
    (numbers : ∀ entry ∈ entries, entry.2.isNumber = true) :
    sectionIds previous section_ (entries.map Prod.fst) = .ok (Table.textual entries) := by
  have ids : (Table.textual entries).map Prod.snd = entries.map Prod.snd := by
    rw [Table.textual, List.map_map]
    rfl
  rcases exists_first (List.forall_mem_map.mpr numbers) with ⟨greatest, first, isGreatest, isFirst⟩
  unfold sectionIds
  rw [areKnown, ok_bind, ids, isGreatest, ok_bind, isFirst, ok_bind,
    assignIds_of_known distinct first fun _ there => there, ok_bind]
  change Except.ok (Table.ofEntries _) = _
  rw [Table.ofEntries_of_nodup _ distinct]

end Manifest

end SpecGraph
