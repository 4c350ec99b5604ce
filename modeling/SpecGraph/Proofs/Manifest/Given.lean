import SpecGraph.Proofs.Manifest.Ids

/-!
# Ids that are counted on

A compile of collections or dispatches gives each full name the id it has in the manifest that is found, and
counts on from the greatest id there for the others, in their order. So what holds of the ids of one manifest
holds of those of the next one: they are positive and different from each other.

A manifest may be read with other full names than it was written for, since the halves of a code point are joined
when it is read. What is known of it is then the later of two entries with one full name. Its ids are still
positive and different, but a full name with two halves is not found there and gets another id.
-/

namespace SpecGraph

namespace Manifest

/-- Ids after others: a full name that was there has the same id, and the ids of the other full names are
counted on from the greatest earlier one, in their order. -/
structure CountedFrom (olds news : List (String × Int)) : Prop where
  /-- A full name that was there has the same id. -/
  kept : ∀ old ∈ olds, ∀ new ∈ news, old.1 = new.1 → new.2 = old.2
  /-- The ids of the other full names follow the greatest earlier one. -/
  counted : ∀ (place : Nat) (new : String × Int),
    (news.filter fun new => new.1 ∉ olds.map Prod.fst)[place]? = some new →
      new.2 = greatestNumber (olds.map Prod.snd) + 1 + place

/-- The ids of a manifest are positive, and no two entries have one id. -/
structure AreIds (numbers : List (String × Int)) : Prop where
  /-- An id is positive. -/
  positive : ∀ number ∈ numbers, 0 < number.2
  /-- No two entries have one id. -/
  apart : (numbers.map Prod.snd).Nodup

theorem AreIds.nil : AreIds [] := ⟨by simp, List.nodup_nil⟩

section Assigned

variable {known : List (String × Int)} {next : Int} {addresses : List String}

/-- An id is known, or it is a new one from a number on. -/
theorem mem_assigned {entry : String × Int} (entryMem : entry ∈ assigned known next addresses) :
    entry ∈ known ∨ (entry.1 ∉ known.map Prod.fst ∧ next ≤ entry.2) := by
  induction addresses generalizing next with
  | nil => cases entryMem
  | cons address rest ih =>
      rw [assigned] at entryMem
      split at entryMem
      · next id found =>
          rcases List.mem_cons.mp entryMem with rfl | entryMem
          · exact Or.inl (Table.mem_of_lookup found)
          · exact ih entryMem
      · next absent =>
          rcases List.mem_cons.mp entryMem with rfl | entryMem
          · exact Or.inr ⟨Table.lookup_eq_none.mp absent, Int.le_refl _⟩
          · refine (ih entryMem).imp_right fun isNew => ⟨isNew.1, ?_⟩
            have beyond := isNew.2
            omega

/-- The new ids are consecutive. -/
theorem counted_assigned (distinct : (known.map Prod.fst).Nodup) {place : Nat} {new : String × Int}
    (isPlaced : ((assigned known next addresses).filter fun new => new.1 ∉ known.map Prod.fst)[place]? = some new) :
    new.2 = next + place := by
  induction addresses generalizing next place with
  | nil => cases isPlaced
  | cons address rest ih =>
      by_cases isKnown : address ∈ known.map Prod.fst
      · rcases List.mem_map.mp isKnown with ⟨old, oldMem, rfl⟩
        rw [assigned_cons_of_mem distinct oldMem, List.filter_cons_of_neg (by simpa using isKnown)] at isPlaced
        exact ih isPlaced
      · rw [assigned_cons_of_not_mem isKnown, List.filter_cons_of_pos (by simpa using isKnown)] at isPlaced
        cases place with
        | zero =>
            cases isPlaced
            exact (Int.add_zero next).symm
        | succ place =>
            rw [List.getElem?_cons_succ] at isPlaced
            have follows := ih isPlaced
            omega

/-- Ids of different addresses are different where the known ones are. -/
theorem nodup_assigned (ids : (known.map Prod.snd).Nodup) (below : ∀ entry ∈ known, entry.2 < next)
    (distinct : addresses.Nodup) : ((assigned known next addresses).map Prod.snd).Nodup := by
  induction addresses generalizing next with
  | nil => exact List.nodup_nil
  | cons address rest ih =>
      rcases List.nodup_cons.mp distinct with ⟨isNew, restDistinct⟩
      rw [assigned]
      split
      · next id found =>
          have there := Table.mem_of_lookup found
          refine List.nodup_cons.mpr ⟨fun idMem => ?_, ih below restDistinct⟩
          rcases List.mem_map.mp idMem with ⟨other, otherMem, same⟩
          rcases mem_assigned otherMem with otherThere | ⟨_, beyond⟩
          -- the other entry is the known one, so its address is given twice
          · cases List.inj_on_of_nodup_map ids otherThere there same
            exact isNew (map_fst_assigned known next rest ▸ List.mem_map_of_mem otherMem)
          · have less := below _ there
            dsimp only at same less
            omega
      · refine List.nodup_cons.mpr ⟨fun idMem => ?_, ih (fun entry entryMem => ?_) restDistinct⟩
        · rcases List.mem_map.mp idMem with ⟨other, otherMem, same⟩
          have same : other.2 = next := same
          rcases mem_assigned otherMem with otherThere | ⟨_, beyond⟩
          · have less := below other otherThere
            omega
          · omega
        · have less := below entry entryMem
          omega

end Assigned

section Given

variable {known : List (String × Int)} {addresses : List String}

theorem AreIds.given (ids : AreIds known) (distinct : addresses.Nodup) : AreIds (givenIds known addresses) := by
  have below (entry : String × Int) (entryMem : entry ∈ known) :
      entry.2 < greatestNumber (known.map Prod.snd) + 1 :=
    Int.lt_add_one_of_le (le_greatestNumber (List.mem_map_of_mem entryMem))
  have first : 0 ≤ greatestNumber (known.map Prod.snd) := by
    cases known with
    | nil => exact Int.le_refl _
    | cons entry rest =>
        have positive := ids.positive entry List.mem_cons_self
        have less := below entry List.mem_cons_self
        omega
  refine ⟨fun entry entryMem => ?_, nodup_assigned ids.apart below distinct⟩
  rcases mem_assigned entryMem with there | ⟨_, beyond⟩
  · exact ids.positive entry there
  · omega

/-- What is known of a manifest are some of its ids. -/
theorem AreIds.insertTexts {olds : List (String × Int)} (ids : AreIds olds) : AreIds (Table.insertTexts [] olds) := by
  have there {entry : String × Int} (entryMem : entry ∈ Table.insertTexts [] olds) : entry ∈ olds :=
    (Table.mem_of_mem_insertTexts entryMem).resolve_left List.not_mem_nil
  have distinct : ((Table.insertTexts [] olds).map Prod.fst).Nodup := Table.nodup_insertTexts (by simp) olds
  refine ⟨fun entry entryMem => ids.positive entry (there entryMem), List.Nodup.map_on ?_ (distinct.of_map _)⟩
  intro first firstMem second secondMem same
  exact List.inj_on_of_nodup_map ids.apart (there firstMem) (there secondMem) same

theorem countedFrom_givenIds (distinct : (known.map Prod.fst).Nodup) (addresses : List String) :
    CountedFrom known (givenIds known addresses) where
  kept old oldMem new newMem same := by
    rcases mem_assigned newMem with there | ⟨isNew, _⟩
    · rw [List.inj_on_of_nodup_map distinct oldMem there same]
    · exact (isNew (same ▸ List.mem_map_of_mem oldMem)).elim
  counted _ _ isPlaced := counted_assigned distinct isPlaced

end Given

/-- The ids that are read where others were found and addresses were written. -/
def readIds (olds : List (String × Int)) (addresses : List String) : List (String × Int) :=
  (givenIds (Table.insertTexts [] olds) addresses).map fun new => (Text.joined new.1, new.2)

section Read

variable {olds : List (String × Int)} {addresses : List String}

theorem map_fst_readIds (olds : List (String × Int)) (addresses : List String) :
    (readIds olds addresses).map Prod.fst = addresses.map Text.joined := by
  have written := map_fst_assigned (Table.insertTexts [] olds)
    (greatestNumber ((Table.insertTexts [] olds).map Prod.snd) + 1) addresses
  conv_rhs => rw [← written]
  rw [readIds, List.map_map, List.map_map]
  rfl

theorem AreIds.read (ids : AreIds olds) (distinct : addresses.Nodup) : AreIds (readIds olds addresses) := by
  have given := ids.insertTexts.given distinct
  constructor
  · exact List.forall_mem_map.mpr given.positive
  · rw [readIds, List.map_map]
    exact given.apart

/-- Where no full name is joined, the ids are counted on from those that were found. -/
theorem countedFrom_readIds (distinct : (olds.map Prod.fst).Nodup)
    (settled : ∀ address ∈ addresses, Text.joined address = address) : CountedFrom olds (readIds olds addresses) := by
  have asGiven : readIds olds addresses = givenIds olds addresses := by
    rw [readIds, Table.insertTexts_of_nodup [] olds distinct, List.nil_append]
    refine (List.map_congr_left fun new newMem => ?_).trans (List.map_id _)
    have address : new.1 ∈ addresses := by
      have there := List.mem_map_of_mem (f := Prod.fst) newMem
      rwa [givenIds, map_fst_assigned] at there
    rw [settled new.1 address]
    rfl
  rw [asGiven]
  exact countedFrom_givenIds distinct addresses

/-- Where nothing was found, the ids are counted from one. -/
theorem countedFrom_readIds_nil (addresses : List String) : CountedFrom [] (readIds [] addresses) where
  kept _ oldMem := (List.not_mem_nil oldMem).elim
  counted place new isPlaced := by
    have all (news : List (String × Int)) :
        (news.filter fun new => new.1 ∉ ([] : List (String × Int)).map Prod.fst) = news := by simp
    rw [all, readIds, List.getElem?_map, Option.map_eq_some_iff] at isPlaced
    rcases isPlaced with ⟨written, isWritten, rfl⟩
    rw [← all (givenIds _ _)] at isWritten
    exact (countedFrom_givenIds (by simp) addresses).counted place written isWritten

end Read

end Manifest

/-- The full names of a request stay as they are when they are read back. -/
def StageRequest.IsSettled (request : StageRequest) : Prop :=
  ∀ address ∈ request.addresses, Text.joined address = address

namespace Compile

open Manifest (addressIn? Recorded Earlier AreIds CountedFrom readIds loaded)

/-- A compile leaves the ids that its full names get after those that it found. -/
theorem exists_readIds (compile : Compile) {roots : Roots} (plain : compile.request.IsPlain roots)
    (notSchema : compile.request.stage ≠ .schema) (distinct : compile.request.addresses.Nodup)
    {previous : Option Data} {olds : List (String × Int)}
    (found : loaded compile.before compile.request.file = .ok previous)
    (earlier : Earlier (NumberedRecord addressIn?) compile.request.member Text.mostShown previous olds)
    (ids : AreIds olds) :
    ∃ manifest, loaded compile.after compile.request.file = .ok (some manifest) ∧
      Recorded (NumberedRecord addressIn?) compile.request.member Text.mostShown manifest
        (readIds olds compile.request.addresses) := by
  have addressed {value : Data} {address : String} (shows : addressIn? value = some address) :
      value.get? "fqn" = some (.text (id address)) := read?_text.mp shows
  have areIds := Manifest.sectionIds_eq addressed earlier distinct
  have sameOlds : olds.map (fun old => (id old.1, old.2)) = olds := List.map_id olds
  rw [sameOlds] at areIds
  refine compile.exists_recorded plain notSchema found earlier areIds (Manifest.map_fst_assigned _ _ _) distinct ?_
  exact fun new newMem => Int.le_of_lt ((ids.insertTexts.given distinct).positive new newMem)

/-- The ids in the manifest that the last of some compiles left, and none where there is no compile. -/
def lastNumbers : List Compile → List (String × Int)
  | [] => []
  | last :: _ => last.numbers?.getD []

/-- A manifest has the full names that were written, and its ids are positive and different from each other. -/
def HasIds (compile : Compile) : Prop :=
  ∃ numbers, compile.numbers? = some numbers ∧
    numbers.map Prod.fst = compile.request.addresses.map Text.joined ∧ AreIds numbers

/-- Where the full names that were written last differ when they are read back, and those that are written now
stay as they are, the ids are counted on from those of the last manifest. -/
def CountsOn (next last : Compile) : Prop :=
  last.request.IsDistinct → next.request.IsSettled →
    ∀ olds news, last.numbers? = some olds → next.numbers? = some news → CountedFrom olds news

end Compile

namespace Series

open Manifest (addressIn? Recorded AreIds CountedFrom readIds loaded)

section

variable {stage : Stage} {path : Path} (notSchema : stage ≠ .schema)
include notSchema

/-- The last manifest of a series has the ids that its full names get after those of the manifest before it. -/
theorem exists_readIds {compile : Compile} {compiles : List Compile}
    (series : Series stage path (compile :: compiles))
    (plain : ∀ compile' ∈ compile :: compiles, ∃ roots, compile'.request.IsPlain roots)
    (distinct : ∀ compile' ∈ compile :: compiles, compile'.request.addresses.Nodup) :
    ∃ manifest, loaded compile.after path = .ok (some manifest) ∧ AreIds (Compile.lastNumbers compiles) ∧
      Recorded (NumberedRecord addressIn?) compile.request.member Text.mostShown manifest
        (readIds (Compile.lastNumbers compiles) compile.request.addresses) := by
  generalize isAll : compile :: compiles = all at series plain distinct
  induction series generalizing compile compiles with
  | first single isStage isPath absent =>
      cases isAll
      rw [List.forall_mem_singleton] at plain distinct
      rcases plain with ⟨roots, plain⟩
      subst isPath
      rcases single.exists_readIds plain (isStage ▸ notSchema) distinct absent (show _ = [] from rfl) AreIds.nil with
        ⟨manifest, isLoaded, recorded⟩
      exact ⟨manifest, isLoaded, AreIds.nil, recorded⟩
  | @next following last rest series isStage isPath same ih =>
      cases isAll
      rw [List.forall_mem_cons] at plain distinct
      rcases ih rfl plain.2 distinct.2 with ⟨previous, isFound, ids, earlier⟩
      rcases plain.1 with ⟨roots, isPlain⟩
      have sameStage : last.request.stage = following.request.stage := isStage ▸ series.isAt.1
      have lastNumbers : Compile.lastNumbers (last :: rest) = _ :=
        Option.getD_eq_iff.mpr (Or.inl (Compile.numbers?_of_recorded (series.isAt.2 ▸ isFound) earlier))
      have lastIds := ids.read (distinct.2 last List.mem_cons_self)
      rw [StageRequest.member_of_stage sameStage] at earlier
      rw [← lastNumbers] at earlier lastIds
      subst isPath
      rcases following.exists_readIds isPlain (isStage ▸ notSchema) distinct.1 (same.trans isFound) earlier lastIds with
        ⟨manifest, isLoaded, recorded⟩
      exact ⟨manifest, isLoaded, lastIds, recorded⟩

/-- The ids of the last manifest of a series are those that are read where the manifest before it was found. -/
theorem numbers?_eq {compile : Compile} {compiles : List Compile} (series : Series stage path (compile :: compiles))
    (plain : ∀ compile' ∈ compile :: compiles, ∃ roots, compile'.request.IsPlain roots)
    (distinct : ∀ compile' ∈ compile :: compiles, compile'.request.addresses.Nodup) :
    AreIds (Compile.lastNumbers compiles) ∧
      compile.numbers? = some (readIds (Compile.lastNumbers compiles) compile.request.addresses) := by
  rcases series.exists_readIds notSchema plain distinct with ⟨manifest, isLoaded, ids, recorded⟩
  exact ⟨ids, Compile.numbers?_of_recorded (series.isAt.2 ▸ isLoaded) recorded⟩

/-- In a series of compiles of collections or dispatches, whatever breaking changes they allow, the ids of each
manifest are positive and different from each other. Those of the first one are counted from one, and those of
another one are counted on from the manifest before it. -/
theorem ids_counted {compiles : List Compile} (series : Series stage path compiles)
    (plain : ∀ compile ∈ compiles, ∃ roots, compile.request.IsPlain roots)
    (distinct : ∀ compile ∈ compiles, compile.request.addresses.Nodup) :
    (∀ compile ∈ compiles, compile.HasIds) ∧
    (∀ first ∈ compiles.getLast?, ∃ numbers, first.numbers? = some numbers ∧ CountedFrom [] numbers) ∧
    compiles.IsChain Compile.CountsOn := by
  have hasIds {compile : Compile} {rest : List Compile} (series : Series stage path (compile :: rest))
      (plain : ∀ compile' ∈ compile :: rest, ∃ roots, compile'.request.IsPlain roots)
      (distinct : ∀ compile' ∈ compile :: rest, compile'.request.addresses.Nodup) : compile.HasIds := by
    rcases series.numbers?_eq notSchema plain distinct with ⟨ids, areNumbers⟩
    exact ⟨_, areNumbers, Manifest.map_fst_readIds _ _, ids.read (distinct compile List.mem_cons_self)⟩
  induction series with
  | first single isStage isPath absent =>
      have series := Series.first single isStage isPath absent
      rw [List.forall_mem_singleton]
      refine ⟨hasIds series plain distinct, ?_, List.isChain_singleton _⟩
      rintro _ ⟨⟩
      exact ⟨_, (series.numbers?_eq notSchema plain distinct).2, Manifest.countedFrom_readIds_nil _⟩
  | @next following last rest series isStage isPath same ih =>
      have longer := Series.next following series isStage isPath same
      have areNumbers := (longer.numbers?_eq notSchema plain distinct).2
      have first := hasIds longer plain distinct
      rw [List.forall_mem_cons] at plain distinct
      rcases ih plain.2 distinct.2 with ⟨all, isFirst, chain⟩
      rw [List.forall_mem_cons, List.getLast?_cons_cons, List.isChain_cons_cons]
      refine ⟨⟨first, all⟩, isFirst, ?_, chain⟩
      intro apart settled olds news areOlds areNews
      rcases all last List.mem_cons_self with ⟨numbers, lastNumbers, addresses, _⟩
      cases areOlds.symm.trans lastNumbers
      cases areNews.symm.trans areNumbers
      have isLast : Compile.lastNumbers (last :: rest) = olds := Option.getD_eq_iff.mpr (Or.inl areOlds)
      rw [isLast]
      exact Manifest.countedFrom_readIds (addresses ▸ apart) settled

end

/-- Two compiles of dispatches one after the other. -/
theorem series_item {first second : Compile} {names others : List String}
    (isFirst : first.request = itemDispatches names) (isSecond : second.request = itemDispatches others)
    (absent : loaded first.before (specRoots.file .dispatch) = .ok none) (between : second.before = first.after) :
    Series .dispatch (specRoots.file .dispatch) [second, first] :=
  .next second (.first first (isAt_item isFirst).1 (isAt_item isFirst).2 absent) (isAt_item isSecond).1
    (isAt_item isSecond).2 (by rw [between])

/-- A dispatch keeps its id, and another one gets the id after the greatest. -/
theorem ids_counted_item :
    ∃ first second : Compile, Series .dispatch (specRoots.file .dispatch) [second, first] ∧
      first.numbers? = some [("@default/a", 1), ("@default/b", 2)] ∧
      second.numbers? = some [("@default/c", 3), ("@default/b", 2)] ∧ second.HasIds ∧
      CountedFrom [] [("@default/a", 1), ("@default/b", 2)] ∧
      CountedFrom [("@default/a", 1), ("@default/b", 2)] [("@default/c", 3), ("@default/b", 2)] := by
  rcases exists_held_item with ⟨files, held, absent⟩
  rcases exists_item_compile held ["a", "b"] [("@default/a", 1), ("@default/b", 2)] (by decide +kernel)
    (by decide +kernel) with ⟨first, isFirst, before, heldFirst, firstNumbers⟩
  rcases exists_item_compile heldFirst ["c", "b"] [("@default/c", 3), ("@default/b", 2)] (by decide +kernel)
    (by decide +kernel) with ⟨second, isSecond, between, _, secondNumbers⟩
  have series := series_item isFirst isSecond (before ▸ absent) between
  have counted := series.ids_counted (by decide) ?_ ?_
  · rcases counted with ⟨all, isCounted, chain⟩
    rcases isCounted first rfl with ⟨numbers, areNumbers, fromOne⟩
    cases firstNumbers.symm.trans areNumbers
    refine ⟨first, second, series, firstNumbers, secondNumbers, all second (by simp), fromOne, ?_⟩
    refine List.isChain_pair.mp chain ?_ ?_ _ _ firstNumbers secondNumbers
    · rw [isFirst, StageRequest.IsDistinct]
      decide +kernel
    · rw [isSecond, StageRequest.IsSettled]
      decide +kernel
  · simp only [List.forall_mem_cons, isFirst, isSecond]
    exact ⟨⟨_, isPlain_itemDispatches _⟩, ⟨_, isPlain_itemDispatches _⟩, by simp⟩
  · simp only [List.forall_mem_cons, isFirst, isSecond]
    exact ⟨by decide +kernel, by decide +kernel, by simp⟩

/-- A dispatch whose name has the two halves of a code point is written twice, and its id changes. -/
theorem id_changes_halved :
    ∃ first second : Compile, Series .dispatch (specRoots.file .dispatch) [second, first] ∧
      (∀ compile ∈ [second, first],
        (∃ roots, compile.request.IsPlain roots) ∧ compile.request.addresses.Nodup) ∧
      first.numbers? = some [("@default/😀", 1)] ∧ second.numbers? = some [("@default/😀", 2)] := by
  let name := String.ofList (Text.ofCodes [0xD83D, 0xDE00])
  rcases exists_held_item with ⟨files, held, absent⟩
  rcases exists_item_compile held [name] [("@default/😀", 1)] (by decide +kernel) (by decide +kernel) with
    ⟨first, isFirst, before, heldFirst, firstNumbers⟩
  rcases exists_item_compile heldFirst [name] [("@default/😀", 2)] (by decide +kernel) (by decide +kernel) with
    ⟨second, isSecond, between, _, secondNumbers⟩
  refine ⟨first, second, series_item isFirst isSecond (before ▸ absent) between, ?_, firstNumbers, secondNumbers⟩
  simp only [List.forall_mem_cons, isFirst, isSecond]
  refine ⟨⟨⟨_, isPlain_itemDispatches _⟩, ?_⟩, ⟨⟨_, isPlain_itemDispatches _⟩, ?_⟩, by simp⟩
  all_goals decide +kernel

end Series

end SpecGraph
