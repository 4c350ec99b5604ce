import SpecGraph.Proofs.Graph.Sources
import SpecGraph.Proofs.Manifest.Known

/-!
# Tables by address

The stages and the comparisons look entries up in tables, under their addresses. An entry replaces an earlier one of
its address, so a table has all entries exactly if their addresses are told apart. The tables that are made of the
declarations of a builder list the addresses of its declarations, and those that are made of a written manifest list
the same with their halves joined.
-/

namespace SpecGraph

namespace Table

variable {α : Type}

theorem textual_inj {first second : List (String × α)} (same : textual first = textual second) : first = second := by
  refine List.map_injective_iff.mpr (fun left right alike => ?_) same
  rcases left with ⟨key, value⟩
  rcases right with ⟨other, image⟩
  cases alike
  rfl

end Table

namespace Manifest

/-- The table of the entries of a section has all of them, each under its own address. -/
def IndexesAll (manifest : Data) (section_ : String) (addresses : List String) : Prop :=
  ∃ entries : List (String × Data), manifest.get? section_ = some (.list (entries.map Prod.snd)) ∧
    entries.map Prod.fst = addresses ∧ index manifest section_ = .ok (Table.textual entries)

/-- The table of the ids of a section has one for each entry, under the address of the entry. -/
def KnowsAll (manifest : Data) (section_ : String) (addresses : List String) : Prop :=
  ∃ ids : List (String × Data), ids.map Prod.fst = addresses ∧
    knownIds (some manifest) section_ = .ok (Table.textual ids)

/-- The table of the ids that are given out for some addresses has one for each of them. -/
def GivesAll (previous : Option Data) (section_ : String) (addresses : List String) : Prop :=
  ∀ ids, sectionIds previous section_ addresses = .ok ids →
    ∃ entries : List (String × Data), entries.map Prod.fst = addresses ∧ ids = Table.textual entries

/-- An entry has its address. -/
def IsAddressed (entry : Data) (address : String) : Prop := entry.get? "fqn" = some (.text address)

section Tables

variable {manifest : Data} {section_ : String} {entries : List Data} {addresses : List String}
  (there : manifest.get? section_ = some (.list entries)) (addressed : List.Forall₂ IsAddressed entries addresses)
include there addressed

/-- A section is indexed whole exactly if the addresses of its entries are told apart. -/
theorem indexesAll_iff : IndexesAll manifest section_ addresses ↔ addresses.Nodup := by
  rcases exists_pairs addressed with ⟨pairs, rfl, rfl, each⟩
  have firsts : (pairs.map Prod.swap).map Prod.fst = pairs.map Prod.snd := by
    rw [List.map_map]
    rfl
  have seconds : (pairs.map Prod.swap).map Prod.snd = pairs.map Prod.fst := by
    rw [List.map_map]
    rfl
  have indexed : index manifest section_ = .ok (Table.textual (Table.insertTexts [] (pairs.map Prod.swap))) := by
    unfold index
    rw [Data.memberOr_of_get? there]
    exact Table.keyedBy_map fun pair pairMem => Data.member_of_get? (each pair pairMem)
  constructor
  · rintro ⟨others, _, keys, whole⟩
    rw [indexed] at whole
    rw [← keys, ← Table.textual_inj (Except.ok.inj whole)]
    exact Table.nodup_insertTexts (by exact List.nodup_nil) _
  · intro distinct
    refine ⟨pairs.map Prod.swap, by rw [seconds, there], firsts, ?_⟩
    rw [indexed, Table.insertTexts_of_nodup [] _ (by rwa [List.nil_append, firsts]), List.nil_append]

/-- The ids of a section are all known if its entries have ids and their addresses are told apart. -/
theorem knowsAll (numbered : ∀ entry ∈ entries, ∃ id, entry.get? "id" = some id) (distinct : addresses.Nodup) :
    KnowsAll manifest section_ addresses := by
  rcases exists_pairs addressed with ⟨pairs, rfl, rfl, each⟩
  let idOf (entry : Data) : Data := (entry.get? "id").getD .null
  have isId (pair : Data × String) (pairMem : pair ∈ pairs) : pair.1.get? "id" = some (idOf pair.1) := by
    rcases numbered pair.1 (List.mem_map_of_mem pairMem) with ⟨id, isId⟩
    rw [isId, show idOf pair.1 = id by simp only [idOf, isId, Option.getD_some]]
  have firsts : (pairs.map fun pair => (pair.1, pair.2, idOf pair.1)).map Prod.fst = pairs.map Prod.fst := by
    rw [List.map_map]
    rfl
  have keys : ((pairs.map fun pair => (pair.1, pair.2, idOf pair.1)).map Prod.snd).map Prod.fst =
      pairs.map Prod.snd := by
    rw [List.map_map, List.map_map]
    rfl
  have parts : ∀ entry ∈ pairs.map fun pair => (pair.1, pair.2, idOf pair.1),
      entry.1.get? "fqn" = some (.text entry.2.1) ∧ entry.1.get? "id" = some entry.2.2 := by
    rw [List.forall_mem_map]
    exact fun pair pairMem => ⟨each pair pairMem, isId pair pairMem⟩
  rw [← firsts] at there
  refine ⟨_, keys, ?_⟩
  rw [knownIds_of_entries there parts, Table.insertTexts_of_nodup [] _ (by rwa [List.nil_append, keys]), List.nil_append]

end Tables

/-- Ids are given out for all addresses, in their order. -/
theorem keys_assignIds {known : Table Data} {next : Data} {addresses : List String} {ids : Table Data}
    (assigned : assignIds known next addresses = .ok ids) :
    ∃ entries : List (String × Data), entries.map Prod.fst = addresses ∧ ids = Table.textual entries := by
  induction addresses generalizing next ids with
  | nil =>
      cases assigned
      exact ⟨[], rfl, rfl⟩
  | cons address rest ih =>
      rw [assignIds] at assigned
      split at assigned
      · next id _ =>
          rcases bind_eq_ok.mp assigned with ⟨others, areOthers, areIds⟩
          cases areIds
          rcases ih areOthers with ⟨entries, rfl, rfl⟩
          exact ⟨(address, id) :: entries, rfl, rfl⟩
      · rcases bind_eq_ok.mp assigned with ⟨after, _, assigned⟩
        rcases bind_eq_ok.mp assigned with ⟨others, areOthers, areIds⟩
        cases areIds
        rcases ih areOthers with ⟨entries, rfl, rfl⟩
        exact ⟨(address, next) :: entries, rfl, rfl⟩

/-- None of the ids that are given out replaces another one if the addresses are told apart. -/
theorem givesAll (previous : Option Data) (section_ : String) {addresses : List String} (distinct : addresses.Nodup) :
    GivesAll previous section_ addresses := by
  intro ids areIds
  unfold sectionIds at areIds
  rcases bind_eq_ok.mp areIds with ⟨known, _, areIds⟩
  rcases bind_eq_ok.mp areIds with ⟨greatest, _, areIds⟩
  rcases bind_eq_ok.mp areIds with ⟨first, _, areIds⟩
  rcases bind_eq_ok.mp areIds with ⟨assigned, areAssigned, areIds⟩
  cases areIds
  rcases keys_assignIds areAssigned with ⟨entries, rfl, rfl⟩
  exact ⟨entries, rfl, Table.ofEntries_of_nodup _ distinct⟩

end Manifest

end SpecGraph
