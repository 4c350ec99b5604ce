import Mathlib.Data.List.Chain
import Mathlib.Data.List.Pairwise
import SpecGraph.Proofs.Manifest.Replay
import SpecGraph.Proofs.Manifest.Series

/-!
# Ids in a series of compiles

A collection or dispatch keeps the id of its full name, and a new one gets an id beyond those of the manifest
that is found. That manifest is all that is known of the past. So an id is given to one full name only, as
long as no manifest has a smaller greatest id than the manifest before it. Where the entry with the greatest
id is dropped and nothing is added, its id is given again.
-/

namespace SpecGraph

namespace Manifest

/-- The full name of an entry. -/
def addressIn? (value : Data) : Option String := value.read? "fqn" Data.text?

/-- Full names keep the ids of a manifest that has no full name twice, and new ones get ids beyond them. -/
theorem exists_given_addresses {section_ : String} {bound : Nat} {previous : Option Data}
    {olds : List (String × Int)}
    (earlier : Earlier (NumberedRecord addressIn?) section_ bound previous olds)
    (oldDistinct : (olds.map Prod.fst).Nodup)
    {addresses : List String} (distinct : addresses.Nodup) :
    ∃ news : List (String × Int), sectionIds previous section_ addresses = .ok (idTable news) ∧
      news.map Prod.fst = addresses ∧ ∃ next limit, (∀ old ∈ olds, old.2 < next) ∧ AreGiven next limit olds news := by
  have addressed {value : Data} {address : String} (shows : addressIn? value = some address) :
      value.get? "fqn" = some (.text (id address)) := read?_text.mp shows
  rcases exists_given addressed earlier oldDistinct distinct with ⟨news, areIds, areAddresses, next, beyond, given⟩
  have sameOlds : olds.map (fun old => (id old.1, old.2)) = olds := List.map_id olds
  rw [sameOlds] at given
  exact ⟨news, areIds, areAddresses, next, _, beyond, given⟩

namespace Numbered.Reading

variable {α σ Form : Type} {kind : Numbered α} (reading : kind.Reading σ Form)

/-- An entry with an id is one of its full name. -/
theorem addressRecord {bound : Nat} {value : Data} {form : Form} {id : Int}
    (record : NumberedRecord reading.of? bound value (form, id)) :
    NumberedRecord addressIn? bound value (reading.address form, id) :=
  ⟨read?_text.mpr (reading.addressed record.shows), record.id, record.small⟩

/-- The entries with the ids of a table. -/
theorem withIds_eq {pairs : List (σ × String × Int)}
    (named : ∀ pair ∈ pairs, reading.address (reading.form pair.1) = pair.2.1)
    (distinct : ((pairs.map Prod.snd).map Prod.fst).Nodup) :
    kind.withIds (idTable (pairs.map Prod.snd)) ((pairs.map Prod.fst).map reading.entry) =
      pairs.map fun pair => reading.record pair.1 pair.2.2 := by
  rw [withIds, List.map_map, List.map_map]
  refine List.map_congr_left fun pair pairMem => ?_
  have found := lookup_ids distinct (List.mem_map_of_mem pairMem)
  simp only [Function.comp_apply, reading.addressOf_entry, named pair pairMem, idTable, Table.get?_textual,
    found]
  rfl

/-- A written manifest of declarations with ids has the ids that were given to their full names. -/
theorem exists_compiled_of_ids {allowBreaking : Bool} {schemas : Table Data} {sources : List σ}
    {previous : Option Data} {olds news : List (String × Int)} {version : Int} {items : List Data} {text : String}
    (earlier : Earlier (NumberedRecord addressIn?) kind.section_ Text.mostShown previous olds)
    (areIds : sectionIds previous kind.section_ (sources.map fun source => reading.address (reading.form source)) =
      .ok (idTable news))
    (areAddresses : news.map Prod.fst = sources.map fun source => reading.address (reading.form source))
    (distinct : (news.map Prod.fst).Nodup) (positive : ∀ new ∈ news, 0 ≤ new.2)
    (planned : kind.plan allowBreaking schemas (sources.map reading.entry) previous = .ok (version, items))
    (isText : Json.write layout (compose kind.section_ version items) = .ok text) :
    ∃ manifest, ∃ pairs : List (σ × String × Int), pairs.map Prod.fst = sources ∧ pairs.map Prod.snd = news ∧
      (∀ pair ∈ pairs, reading.address (reading.form pair.1) = pair.2.1) ∧
      IsTextOf (NumberedRecord reading.of?) kind.section_ (text ++ "\n") manifest
        (pairs.map fun pair => (reading.joined (reading.form pair.1), pair.2.2)) := by
  have addresses : (sources.map reading.entry).map kind.addressOf =
      sources.map fun source => reading.address (reading.form source) := by
    rw [List.map_map]
    exact List.map_congr_left fun source _ => reading.addressOf_entry source
  rcases exists_ids planned with ⟨changes, ids, isVersion, areGiven, rfl⟩
  rcases exists_nextVersion earlier changes with ⟨number, isNumber, _⟩
  cases isVersion.symm.trans isNumber
  rw [addresses] at areGiven
  cases areGiven.symm.trans areIds
  have areNamed : List.Forall₂ (fun source (new : String × Int) =>
      reading.address (reading.form source) = new.1) sources news := by
    rw [← List.forall₂_eq_eq_eq, List.forall₂_map_left_iff, List.forall₂_map_right_iff] at areAddresses
    exact areAddresses.flip.imp fun _ _ same => same.symm
  rcases exists_pairs areNamed with ⟨pairs, rfl, rfl, named⟩
  rw [reading.withIds_eq named distinct] at isText
  have hasText := Json.hasText_of_write isText
  have small : ∀ pair ∈ pairs, 0 ≤ pair.2.2 ∧ pair.2.2 ≤ Text.mostShown := by
    intro pair pairMem
    have notNegative := positive pair.2 (List.mem_map_of_mem pairMem)
    have idText : Json.HasText layout (.int pair.2.2) :=
      (hasText_item hasText (List.mem_map_of_mem pairMem)).entry
        (List.mem_append_right _ List.mem_cons_self)
    exact ⟨notNegative, idText.le_mostShown notNegative⟩
  have versionSmall := (hasText_version hasText).le_mostShown (Int.natCast_nonneg number)
  have trees : ∀ item ∈ pairs.map fun pair => reading.record pair.1 pair.2.2, Json.IsTree 3 item := by
    rw [List.forall_mem_map]
    exact fun pair pairMem => reading.isTree Text.mostShown_lt pair.1 (small pair pairMem)
  have records : List.Forall₂
      (fun item new => NumberedRecord reading.of? Text.mostShown (Json.reread layout item) new)
      (pairs.map fun pair => reading.record pair.1 pair.2.2)
      (pairs.map fun pair => (reading.joined (reading.form pair.1), pair.2.2)) := by
    rw [List.forall₂_map_left_iff, List.forall₂_map_right_iff]
    exact List.forall₂_same.mpr fun pair pairMem => reading.reread pair.1 (small pair pairMem)
  exact ⟨_, pairs, rfl, rfl, named, isTextOf_reread reading.keys (by omega) trees records isText⟩

/-- A written manifest of declarations with ids has their ids, where those that were known are kept and new
ones are different from each other and beyond all earlier ones. -/
theorem exists_compiled {allowBreaking : Bool} {schemas : Table Data} {sources : List σ}
    {previous : Option Data} {olds : List (String × Int)} {version : Int} {items : List Data} {text : String}
    (earlier : Earlier (NumberedRecord addressIn?) kind.section_ Text.mostShown previous olds)
    (oldDistinct : (olds.map Prod.fst).Nodup)
    (newDistinct : (sources.map fun source => reading.address (reading.form source)).Nodup)
    (planned : kind.plan allowBreaking schemas (sources.map reading.entry) previous = .ok (version, items))
    (isText : Json.write layout (compose kind.section_ version items) = .ok text) :
    ∃ manifest next limit, ∃ pairs : List (σ × String × Int), pairs.map Prod.fst = sources ∧
      (∀ pair ∈ pairs, reading.address (reading.form pair.1) = pair.2.1) ∧
      IsTextOf (NumberedRecord reading.of?) kind.section_ (text ++ "\n") manifest
        (pairs.map fun pair => (reading.joined (reading.form pair.1), pair.2.2)) ∧
      (∀ old ∈ olds, old.2 < next) ∧ AreGiven next limit olds (pairs.map Prod.snd) := by
  rcases exists_given_addresses earlier oldDistinct newDistinct with
    ⟨news, areIds, areAddresses, next, limit, beyond, given⟩
  rcases reading.exists_compiled_of_ids earlier areIds areAddresses (areAddresses ▸ newDistinct)
    (fun new newMem => (given.small new newMem).1) planned isText with
    ⟨manifest, pairs, areSources, rfl, named, isTextOf⟩
  exact ⟨manifest, next, limit, pairs, areSources, named, isTextOf, beyond, given⟩

/-- What is recorded with ids is recorded with its full names. -/
theorem recorded_addresses {bound : Nat} {manifest : Data} {pairs : List (σ × String × Int)}
    (named : ∀ pair ∈ pairs, reading.address (reading.form pair.1) = pair.2.1)
    (recorded : Recorded (NumberedRecord reading.of?) kind.section_ bound manifest
      (pairs.map fun pair => (reading.joined (reading.form pair.1), pair.2.2))) :
    Recorded (NumberedRecord addressIn?) kind.section_ bound manifest
      ((pairs.map Prod.snd).map fun new => (Text.joined new.1, new.2)) := by
  have addressed : Recorded (NumberedRecord addressIn?) kind.section_ bound manifest
      ((pairs.map fun pair => (reading.joined (reading.form pair.1), pair.2.2)).map fun form =>
        (reading.address form.1, form.2)) := recorded.map reading.addressRecord
  have same (pair : σ × String × Int) (pairMem : pair ∈ pairs) :
      reading.address (reading.joined (reading.form pair.1)) = Text.joined pair.2.1 := by
    rw [reading.address_joined, named pair pairMem]
  rw [List.map_map] at addressed ⊢
  exact List.map_congr_left (fun pair pairMem => congrArg (Prod.mk · pair.2.2) (same pair pairMem)) ▸ addressed

end Numbered.Reading

end Manifest

namespace Compile

open Manifest (addressIn? Recorded Earlier AreGiven loaded)
open Manifest.Numbered (collectionReading dispatchReading)

/-- The full names and the ids in the manifest that a compile leaves. -/
def numbers? (compile : Compile) : Option (List (String × Int)) :=
  match loaded compile.after compile.request.file with
  | .ok (some manifest) => manifest.read? compile.request.member (Data.listOf? (numbered? addressIn?))
  | _ => none

theorem numbers?_of_recorded {compile : Compile} {manifest : Data} {bound : Nat} {numbers : List (String × Int)}
    (isLoaded : loaded compile.after compile.request.file = .ok (some manifest))
    (recorded : Recorded (NumberedRecord addressIn?) compile.request.member bound manifest numbers) :
    compile.numbers? = some numbers := by
  rcases recorded.records with ⟨items, there, records⟩
  unfold numbers?
  rw [isLoaded]
  refine read?_listOf.mpr ⟨items, there, records.imp fun _ _ record => ?_⟩
  exact numbered?_eq_some.mpr ⟨record.shows, record.id⟩

/-- A compile of collections or dispatches leaves a manifest with the ids that were given to them. -/
theorem exists_recorded (compile : Compile) {roots : Roots} (plain : compile.request.IsPlain roots)
    (notSchema : compile.request.stage ≠ .schema) {previous : Option Data} {olds news : List (String × Int)}
    (found : loaded compile.before compile.request.file = .ok previous)
    (earlier : Earlier (NumberedRecord addressIn?) compile.request.member Text.mostShown previous olds)
    (areIds : Manifest.sectionIds previous compile.request.member compile.request.addresses =
      .ok (Manifest.idTable news))
    (areAddresses : news.map Prod.fst = compile.request.addresses) (distinct : compile.request.addresses.Nodup)
    (positive : ∀ new ∈ news, 0 ≤ new.2) :
    ∃ manifest, loaded compile.after compile.request.file = .ok (some manifest) ∧
      Recorded (NumberedRecord addressIn?) compile.request.member Text.mostShown manifest
        (news.map fun new => (Text.joined new.1, new.2)) := by
  rw [← areAddresses] at distinct
  rcases compile with ⟨request, allowBreaking, before, after, succeeds⟩
  rcases request.exists_written succeeds with ⟨version, items, text, opened, planned, isText, isWritten⟩
  cases plain with
  | schema => exact (notSchema rfl).elim
  | @storage groups sources entries =>
      rcases bind_eq_ok.mp planned with ⟨schemas, _, planned⟩
      rcases bind_eq_ok.mp planned with ⟨loadedBefore, isLoaded, planned⟩
      cases isLoaded.symm.trans found
      have addresses : (StageRequest.storage groups roots.schema roots.storage).addresses =
          sources.map fun source => source.form.address := by
        rw [StageRequest.addresses, entries, List.map_map]
        rfl
      rw [addresses] at areIds areAddresses
      rw [entries] at planned
      rcases collectionReading.exists_compiled_of_ids earlier areIds areAddresses distinct positive planned isText with
        ⟨manifest, pairs, rfl, rfl, named, isTextOf⟩
      exact ⟨manifest, isTextOf.loaded_of_write isWritten,
        collectionReading.recorded_addresses named isTextOf.recorded⟩
  | @dispatch groups sources entries =>
      rcases bind_eq_ok.mp planned with ⟨schemas, _, planned⟩
      rcases bind_eq_ok.mp planned with ⟨loadedBefore, isLoaded, planned⟩
      cases isLoaded.symm.trans found
      have addresses : (StageRequest.dispatch groups roots.schema roots.dispatch).addresses =
          sources.map fun source => source.form.address := by
        rw [StageRequest.addresses, entries, List.map_map]
        rfl
      rw [addresses] at areIds areAddresses
      rw [entries] at planned
      rcases dispatchReading.exists_compiled_of_ids earlier areIds areAddresses distinct positive planned isText with
        ⟨manifest, pairs, rfl, rfl, named, isTextOf⟩
      exact ⟨manifest, isTextOf.loaded_of_write isWritten,
        dispatchReading.recorded_addresses named isTextOf.recorded⟩

/-- A compile of collections or dispatches leaves a manifest with their ids. -/
theorem exists_numbers (compile : Compile) {roots : Roots} (plain : compile.request.IsPlain roots)
    (notSchema : compile.request.stage ≠ .schema) (distinct : compile.request.addresses.Nodup)
    {previous : Option Data} {olds : List (String × Int)}
    (found : loaded compile.before compile.request.file = .ok previous)
    (earlier : Earlier (NumberedRecord addressIn?) compile.request.member Text.mostShown previous olds)
    (oldDistinct : (olds.map Prod.fst).Nodup) :
    ∃ manifest news next limit, loaded compile.after compile.request.file = .ok (some manifest) ∧
      Recorded (NumberedRecord addressIn?) compile.request.member Text.mostShown manifest
        (news.map fun new => (Text.joined new.1, new.2)) ∧
      news.map Prod.fst = compile.request.addresses ∧
      (∀ old ∈ olds, old.2 < next) ∧ AreGiven next limit olds news := by
  rcases Manifest.exists_given_addresses earlier oldDistinct distinct with
    ⟨news, areIds, areAddresses, next, limit, beyond, given⟩
  rcases compile.exists_recorded plain notSchema found earlier areIds areAddresses distinct
    (fun new newMem => (given.small new newMem).1) with ⟨manifest, isLoaded, recorded⟩
  exact ⟨manifest, news, next, limit, isLoaded, recorded, areAddresses, beyond, given⟩

/-- Ids after others: an entry was there before or is beyond all of them, and two new entries with one id have
one full name. -/
structure Follow (olds news : List (String × Int)) : Prop where
  /-- An entry was there before, or its id is beyond all earlier ones. -/
  known : ∀ new ∈ news, new ∈ olds ∨ ∀ old ∈ olds, old.2 < new.2
  /-- Entries with one id have one full name, unless one was there before. -/
  apart : ∀ new ∈ news, ∀ other ∈ news, new.2 = other.2 → new ∈ olds ∨ new.1 = other.1

/-- Ids that are given follow the earlier ones also when the full names are joined. -/
theorem follow_of_areGiven {olds news : List (String × Int)} {next limit : Int}
    (settled : ∀ old ∈ olds, Text.joined old.1 = old.1) (beyond : ∀ old ∈ olds, old.2 < next)
    (given : AreGiven next limit olds news) :
    Follow olds (news.map fun new => (Text.joined new.1, new.2)) := by
  have known (new : String × Int) (newMem : new ∈ news) :
      (Text.joined new.1, new.2) ∈ olds ∨ (new.1 ∉ olds.map Prod.fst ∧ next ≤ new.2) := by
    by_cases isKnown : new.1 ∈ olds.map Prod.fst
    · rcases List.mem_map.mp isKnown with ⟨old, oldMem, same⟩
      rw [given.kept new newMem old oldMem same, ← same, settled old oldMem]
      exact Or.inl oldMem
    · exact Or.inr ⟨isKnown, given.fresh new newMem isKnown⟩
  constructor
  · rw [List.forall_mem_map]
    intro new newMem
    refine (known new newMem).imp_right fun ⟨_, isBeyond⟩ old oldMem => ?_
    exact Int.lt_of_lt_of_le (beyond old oldMem) isBeyond
  · rw [List.forall_mem_map]
    intro new newMem
    rw [List.forall_mem_map]
    intro other otherMem same
    have same : new.2 = other.2 := same
    rcases known new newMem with there | ⟨isNew, isBeyond⟩
    · exact Or.inl there
    rcases known other otherMem with there | ⟨isOtherNew, _⟩
    · have less := beyond _ there
      dsimp only at less
      omega
    -- two new entries are one, since different ones have different ids
    have one : new = other := by
      by_contra different
      have symmetric : Std.Symm fun first second : String × Int => first.1 ∉ olds.map Prod.fst →
          second.1 ∉ olds.map Prod.fst → first.2 ≠ second.2 :=
        ⟨fun _ _ apart isSecond isFirst same => apart isFirst isSecond same.symm⟩
      exact given.apart.forall newMem otherMem different isNew isOtherNew same
    exact Or.inr (by rw [one])

/-- A compile leaves ids that follow those that it found. -/
theorem exists_follow (compile : Compile) {roots : Roots} (plain : compile.request.IsPlain roots)
    (notSchema : compile.request.stage ≠ .schema) (distinct : compile.request.IsDistinct)
    {previous : Option Data} {olds : List (String × Int)}
    (found : loaded compile.before compile.request.file = .ok previous)
    (earlier : Earlier (NumberedRecord addressIn?) compile.request.member Text.mostShown previous olds)
    (oldDistinct : (olds.map Prod.fst).Nodup) (settled : ∀ old ∈ olds, Text.joined old.1 = old.1) :
    ∃ manifest news, loaded compile.after compile.request.file = .ok (some manifest) ∧
      Recorded (NumberedRecord addressIn?) compile.request.member Text.mostShown manifest news ∧
      (news.map Prod.fst).Nodup ∧ (∀ new ∈ news, Text.joined new.1 = new.1) ∧ Follow olds news := by
  rcases compile.exists_numbers plain notSchema (List.Nodup.of_map _ distinct) found earlier oldDistinct with
    ⟨manifest, news, next, limit, isLoaded, recorded, addresses, beyond, given⟩
  refine ⟨manifest, _, isLoaded, recorded, ?_, ?_, follow_of_areGiven settled beyond given⟩
  · unfold StageRequest.IsDistinct at distinct
    rw [← addresses, List.map_map] at distinct
    rw [List.map_map]
    exact distinct
  · rw [List.forall_mem_map]
    exact fun new _ => Text.joined_joined new.1

/-- The greatest id does not fall from one manifest to the next. -/
def KeepsGreatest (next last : Compile) : Prop :=
  ∀ olds news, last.numbers? = some olds → next.numbers? = some news → ∀ old ∈ olds, ∃ new ∈ news, old.2 ≤ new.2

/-- An entry is in the manifest that one of some compiles left. -/
def Left (compiles : List Compile) (entry : String × Int) : Prop :=
  ∃ compile ∈ compiles, ∃ numbers, compile.numbers? = some numbers ∧ entry ∈ numbers

theorem left_cons {compile : Compile} {rest : List Compile} {numbers : List (String × Int)}
    (areNumbers : compile.numbers? = some numbers) {entry : String × Int} :
    Left (compile :: rest) entry ↔ entry ∈ numbers ∨ Left rest entry := by
  unfold Left
  rw [List.exists_mem_cons_iff, areNumbers]
  simp

/-- What some compiles left goes together with the ids of the last manifest. -/
structure IdsKept (compiles : List Compile) (numbers : List (String × Int)) : Prop where
  /-- An id has one full name. -/
  unique : ∀ first, Left compiles first → ∀ second, Left compiles second → first.2 = second.2 →
    first.1 = second.1
  /-- The entries of the last manifest are among those that were left. -/
  left : ∀ entry ∈ numbers, Left compiles entry
  /-- No id is beyond the last manifest. -/
  most : ∀ entry, Left compiles entry → ∃ number ∈ numbers, entry.2 ≤ number.2

theorem idsKept_nil : IdsKept [] [] :=
  ⟨fun _ ⟨_, compileMem, _⟩ => (List.not_mem_nil compileMem).elim, by simp,
    fun _ ⟨_, compileMem, _⟩ => (List.not_mem_nil compileMem).elim⟩

/-- A compile whose ids follow those of the last manifest keeps an id to its full name. -/
theorem IdsKept.cons {compile : Compile} {compiles : List Compile} {olds news : List (String × Int)}
    (kept : IdsKept compiles olds) (areNumbers : compile.numbers? = some news) (follow : Follow olds news)
    (keeps : ∀ old ∈ olds, ∃ new ∈ news, old.2 ≤ new.2) : IdsKept (compile :: compiles) news := by
  -- an entry that was left and one of the new manifest
  have across {entry new : String × Int} (isLeft : Left compiles entry) (newMem : new ∈ news)
      (same : entry.2 = new.2) : entry.1 = new.1 := by
    rcases follow.known new newMem with there | isBeyond
    · exact kept.unique entry isLeft new (kept.left new there) same
    · rcases kept.most entry isLeft with ⟨old, oldMem, atMost⟩
      have less := isBeyond old oldMem
      omega
  refine ⟨?_, fun entry entryMem => (left_cons areNumbers).mpr (Or.inl entryMem), ?_⟩
  · intro first isFirst second isSecond same
    rcases (left_cons areNumbers).mp isFirst with firstMem | isFirst
    · rcases (left_cons areNumbers).mp isSecond with secondMem | isSecond
      · rcases follow.apart first firstMem second secondMem same with there | same
        · exact across (kept.left first there) secondMem same
        · exact same
      · exact (across isSecond firstMem same.symm).symm
    · rcases (left_cons areNumbers).mp isSecond with secondMem | isSecond
      · exact across isFirst secondMem same
      · exact kept.unique first isFirst second isSecond same
  · intro entry isLeft
    rcases (left_cons areNumbers).mp isLeft with entryMem | isLeft
    · exact ⟨entry, entryMem, Int.le_refl _⟩
    · rcases kept.most entry isLeft with ⟨old, oldMem, atMost⟩
      rcases keeps old oldMem with ⟨new, newMem, atMostNew⟩
      exact ⟨new, newMem, Int.le_trans atMost atMostNew⟩

end Compile

namespace Series

open Manifest (addressIn? Recorded loaded)
open Compile (KeepsGreatest IdsKept)

variable {stage : Stage} {path : Path} (notSchema : stage ≠ .schema)
include notSchema

/-- The ids of the last manifest of a series go together with what was left before. -/
theorem exists_idsKept {compile : Compile} {compiles : List Compile}
    (series : Series stage path (compile :: compiles))
    (plain : ∀ compile' ∈ compile :: compiles, ∃ roots, compile'.request.IsPlain roots)
    (distinct : ∀ compile' ∈ compile :: compiles, compile'.request.IsDistinct)
    (keeps : (compile :: compiles).IsChain KeepsGreatest) :
    ∃ manifest numbers, loaded compile.after path = .ok (some manifest) ∧
      Recorded (NumberedRecord addressIn?) compile.request.member Text.mostShown manifest numbers ∧
      (numbers.map Prod.fst).Nodup ∧ (∀ number ∈ numbers, Text.joined number.1 = number.1) ∧
      compile.numbers? = some numbers ∧ (∀ other ∈ compiles, ∃ others, other.numbers? = some others) ∧
      IdsKept (compile :: compiles) numbers := by
  generalize isAll : compile :: compiles = all at series plain distinct keeps
  induction series generalizing compile compiles with
  | first single isStage isPath absent =>
      cases isAll
      rw [List.forall_mem_singleton] at plain distinct
      rcases plain with ⟨roots, plain⟩
      subst isPath
      rcases single.exists_follow plain (isStage ▸ notSchema) distinct absent (show _ = [] from rfl)
        List.nodup_nil (by simp) with ⟨manifest, news, isLoaded, recorded, newDistinct, settled, follow⟩
      have areNumbers := Compile.numbers?_of_recorded isLoaded recorded
      exact ⟨manifest, news, isLoaded, recorded, newDistinct, settled, areNumbers, by simp,
        Compile.idsKept_nil.cons areNumbers follow (by simp)⟩
  | @next following last rest series isStage isPath same ih =>
      cases isAll
      rw [List.forall_mem_cons] at plain distinct
      rw [List.isChain_cons_cons] at keeps
      rcases ih rfl plain.2 distinct.2 keeps.2 with
        ⟨previous, olds, isFound, earlier, oldDistinct, oldSettled, areOld, all, kept⟩
      rcases plain.1 with ⟨roots, isPlain⟩
      subst isPath
      have sameStage : last.request.stage = following.request.stage := isStage ▸ series.isAt.1
      rw [StageRequest.member_of_stage sameStage] at earlier
      rcases following.exists_follow isPlain (isStage ▸ notSchema) distinct.1 (same.trans isFound) earlier
        oldDistinct oldSettled with ⟨manifest, news, isLoaded, recorded, newDistinct, settled, follow⟩
      have areNumbers := Compile.numbers?_of_recorded isLoaded recorded
      refine ⟨manifest, news, isLoaded, recorded, newDistinct, settled, areNumbers, ?_,
        kept.cons areNumbers follow (keeps.1 olds news areOld areNumbers)⟩
      rw [List.forall_mem_cons]
      exact ⟨⟨olds, areOld⟩, all⟩

/-- In a series of compiles of collections or dispatches whose greatest id never falls, whatever breaking
changes they allow, an id is given to one full name only. -/
theorem ids_unique {compiles : List Compile} (series : Series stage path compiles)
    (plain : ∀ compile ∈ compiles, ∃ roots, compile.request.IsPlain roots)
    (distinct : ∀ compile ∈ compiles, compile.request.IsDistinct)
    (keeps : compiles.IsChain KeepsGreatest) :
    (∀ compile ∈ compiles, ∃ numbers, compile.numbers? = some numbers) ∧
    ∀ compile ∈ compiles, ∀ other ∈ compiles, ∀ numbers others, compile.numbers? = some numbers →
      other.numbers? = some others → ∀ entry ∈ numbers, ∀ entry' ∈ others, entry.2 = entry'.2 →
        entry.1 = entry'.1 := by
  cases compiles with
  | nil => cases series
  | cons compile rest =>
      rcases series.exists_idsKept notSchema plain distinct keeps with
        ⟨_, numbers, _, _, _, _, areNumbers, all, kept⟩
      refine ⟨List.forall_mem_cons.mpr ⟨⟨numbers, areNumbers⟩, all⟩, ?_⟩
      intro first firstMem second secondMem numbers others isNumbers areOthers entry entryMem entry' entryMem'
      exact kept.unique entry ⟨first, firstMem, numbers, isNumbers, entryMem⟩ entry'
        ⟨second, secondMem, others, areOthers, entryMem'⟩

end Series

/-- The manifests after a stage. -/
def StageRequest.nextOn (allowBreaking : Bool) (request : StageRequest) (manifests : Manifests) : Manifests :=
  ((request.runOn? allowBreaking manifests).getD (false, manifests)).2

/-- A stage that is carried out on plain data is a compile. -/
theorem Manifests.HeldBy.exists_compile {files : Files} {manifests : Manifests} (held : manifests.HeldBy files)
    {request : StageRequest} {allowBreaking : Bool} (isPlain : request.IsPlain specRoots)
    (done : (request.runOn? allowBreaking manifests).map Prod.fst = some true) :
    ∃ compile : Compile, compile.request = request ∧ compile.before = files ∧
      (request.nextOn allowBreaking manifests).HeldBy compile.after := by
  have ran : request.runOn? allowBreaking manifests = some (true, request.nextOn allowBreaking manifests) := by
    unfold StageRequest.nextOn
    rcases Option.map_eq_some_iff.mp done with ⟨⟨_, next⟩, isRun, rfl⟩
    rw [isRun]
    rfl
  have acted := held.action isPlain ran
  have succeeds : ((request.writeManifest allowBreaking).action files).1 = .ok () := acted.2.mpr rfl
  exact ⟨⟨request, allowBreaking, files, _, Prod.ext succeeds rfl⟩, rfl, rfl, acted.1⟩

/-- Two requests of one stage that are carried out one after the other where nothing was written yet are a series. -/
theorem exists_compiles {first second : StageRequest} {allowBreaking : Bool} (plain : first.IsPlain specRoots)
    (plainNext : second.IsPlain specRoots) (sameStage : second.stage = first.stage)
    (done : (first.runOn? allowBreaking .empty).map Prod.fst = some true)
    (doneNext : (second.runOn? allowBreaking (first.nextOn allowBreaking .empty)).map Prod.fst = some true) :
    ∃ last next : Compile, last.request = first ∧ next.request = second ∧
      Series first.stage (specRoots.file first.stage) [next, last] ∧
      (first.nextOn allowBreaking .empty).HeldBy last.after ∧
      (second.nextOn allowBreaking (first.nextOn allowBreaking .empty)).HeldBy next.after := by
  rcases Manifests.heldBy_empty.exists_compile plain done with ⟨last, rfl, before, held⟩
  rcases held.exists_compile plainNext doneNext with ⟨next, rfl, between, heldNext⟩
  have lastPath : last.request.file = specRoots.file last.request.stage := Manifests.file_of_isPlain plain
  have nextPath : next.request.file = specRoots.file last.request.stage := by
    rw [Manifests.file_of_isPlain plainNext, sameStage]
  have absent : Manifest.loaded last.before (specRoots.file last.request.stage) = .ok none := by
    rw [before, Manifests.heldBy_empty.loaded_eq]
    cases last.request.stage <;> rfl
  exact ⟨last, next, rfl, rfl, .next next (.first last rfl lastPath absent) sameStage nextPath (by rw [between]), held,
    heldNext⟩

theorem Compile.numbers?_of_heldBy {compile : Compile} {manifests : Manifests} {numbers : List (String × Int)}
    (held : manifests.HeldBy compile.after) (isPlain : compile.request.IsPlain specRoots)
    (areNumbers : (manifests.ofStage compile.request.stage).bind (fun manifest =>
      manifest.read? compile.request.member (Data.listOf? (numbered? Manifest.addressIn?))) = some numbers) :
    compile.numbers? = some numbers := by
  rcases Option.bind_eq_some_iff.mp areNumbers with ⟨manifest, isManifest, isRead⟩
  unfold numbers?
  rw [Manifests.file_of_isPlain isPlain, held.loaded_eq, isManifest]
  exact isRead

/-- A request to write a schema. -/
def itemRequest : StageRequest :=
  .schema [(.text "default", [⟨.text "item", .bool false, []⟩])] specRoots.schema

/-- A request to write dispatches of the schema. -/
def itemDispatches (names : List String) : StageRequest :=
  .dispatch [(.text "default", names.map fun name => ⟨.text name, .text "@default/item"⟩)] specRoots.schema
    specRoots.dispatch

theorem isPlain_itemRequest : itemRequest.IsPlain specRoots :=
  .schema [⟨"default", "item", false, []⟩] rfl (by simp)

theorem isPlain_itemDispatches (names : List String) : (itemDispatches names).IsPlain specRoots := by
  refine .dispatch (names.map fun name => ⟨"default", name, "@default/item"⟩) ?_
  simp [Grouped.entries, Function.comp_def, DispatchSource.entry]

/-- The manifests after writing the schema and then dispatches in turn. -/
def itemManifests : List (List String) → Manifests
  | [] => itemRequest.nextOn false .empty
  | names :: earlier => (itemDispatches names).nextOn true (itemManifests earlier)

theorem exists_held_item : ∃ files, (itemManifests []).HeldBy files ∧
    Manifest.loaded files (specRoots.file .dispatch) = .ok none := by
  rcases Manifests.heldBy_empty.exists_compile isPlain_itemRequest
    (by decide +kernel : (itemRequest.runOn? false .empty).map Prod.fst = some true) with ⟨compile, _, _, held⟩
  have none : (itemManifests []).dispatch.isNone = true := by decide +kernel
  refine ⟨compile.after, held, ?_⟩
  rw [Manifests.HeldBy.loaded_eq held]
  exact congrArg Except.ok (Option.isNone_iff_eq_none.mp none)

theorem isAt_item {compile : Compile} {names : List String} (isRequest : compile.request = itemDispatches names) :
    compile.request.stage = .dispatch ∧ compile.request.file = specRoots.file .dispatch := by
  rw [isRequest]
  exact ⟨rfl, rfl⟩

theorem exists_item_compile {files : Files} {earlier : List (List String)}
    (held : (itemManifests earlier).HeldBy files) (names : List String) (numbers : List (String × Int))
    (done : ((itemDispatches names).runOn? true (itemManifests earlier)).map Prod.fst = some true)
    (areNumbers : (itemManifests (names :: earlier)).dispatch.bind (fun manifest =>
      manifest.read? "dispatches" (Data.listOf? (numbered? Manifest.addressIn?))) = some numbers) :
    ∃ compile : Compile, compile.request = itemDispatches names ∧ compile.before = files ∧
      (itemManifests (names :: earlier)).HeldBy compile.after ∧ compile.numbers? = some numbers := by
  rcases held.exists_compile (isPlain_itemDispatches names) done with ⟨compile, isRequest, before, heldAfter⟩
  refine ⟨compile, isRequest, before, heldAfter, ?_⟩
  refine Compile.numbers?_of_heldBy heldAfter (isRequest ▸ isPlain_itemDispatches names) ?_
  rw [isRequest]
  exact areNumbers

namespace Series

theorem ids_unique_item :
    ∃ first second : Compile, Series .dispatch (specRoots.file .dispatch) [second, first] ∧
      first.numbers? = some [("@default/a", 1)] ∧
      second.numbers? = some [("@default/a", 1), ("@default/b", 2)] ∧
      ∀ entry ∈ [("@default/a", (1 : Int))], ∀ entry' ∈ [("@default/a", (1 : Int)), ("@default/b", 2)],
        entry.2 = entry'.2 → entry.1 = entry'.1 := by
  rcases exists_held_item with ⟨files, held, absent⟩
  rcases exists_item_compile held ["a"] [("@default/a", 1)] (by decide +kernel) (by decide +kernel) with
    ⟨first, isFirst, before, heldFirst, firstNumbers⟩
  rcases exists_item_compile heldFirst ["a", "b"] [("@default/a", 1), ("@default/b", 2)] (by decide +kernel)
    (by decide +kernel) with ⟨second, isSecond, between, _, secondNumbers⟩
  have series : Series .dispatch (specRoots.file .dispatch) [second, first] := by
    refine .next second (.first first ?_ ?_ (before ▸ absent)) ?_ ?_ (by rw [between])
    · exact (isAt_item isFirst).1
    · exact (isAt_item isFirst).2
    · exact (isAt_item isSecond).1
    · exact (isAt_item isSecond).2
  refine ⟨first, second, series, firstNumbers, secondNumbers, ?_⟩
  refine (series.ids_unique (by decide) ?_ ?_ ?_).2 first (by simp) second (by simp) _ _ firstNumbers
    secondNumbers
  · simp only [List.forall_mem_cons, isFirst, isSecond]
    exact ⟨⟨_, isPlain_itemDispatches _⟩, ⟨_, isPlain_itemDispatches _⟩, by simp⟩
  · simp only [List.forall_mem_cons, isFirst, isSecond, StageRequest.IsDistinct]
    exact ⟨by decide +kernel, by decide +kernel, by simp⟩
  · rw [List.isChain_pair]
    intro olds news areOlds areNews
    cases firstNumbers.symm.trans areOlds
    cases secondNumbers.symm.trans areNews
    decide

/-- An id is given again after the entry that had it was dropped. -/
theorem id_given_again :
    ∃ first second third : Compile, Series .dispatch (specRoots.file .dispatch) [third, second, first] ∧
      (∀ compile ∈ [third, second, first],
        (∃ roots, compile.request.IsPlain roots) ∧ compile.request.IsDistinct) ∧
      first.numbers? = some [("@default/a", 1), ("@default/b", 2)] ∧
      third.numbers? = some [("@default/a", 1), ("@default/c", 2)] := by
  rcases exists_held_item with ⟨files, held, absent⟩
  rcases exists_item_compile held ["a", "b"] [("@default/a", 1), ("@default/b", 2)] (by decide +kernel)
    (by decide +kernel) with ⟨first, isFirst, before, heldFirst, firstNumbers⟩
  rcases exists_item_compile heldFirst ["a"] [("@default/a", 1)] (by decide +kernel) (by decide +kernel) with
    ⟨second, isSecond, between, heldSecond, _⟩
  rcases exists_item_compile heldSecond ["a", "c"] [("@default/a", 1), ("@default/c", 2)] (by decide +kernel)
    (by decide +kernel) with ⟨third, isThird, later, _, thirdNumbers⟩
  refine ⟨first, second, third, ?_, ?_, firstNumbers, thirdNumbers⟩
  · refine .next third (.next second (.first first ?_ ?_ (before ▸ absent)) ?_ ?_ (by rw [between])) ?_ ?_
      (by rw [later])
    · exact (isAt_item isFirst).1
    · exact (isAt_item isFirst).2
    · exact (isAt_item isSecond).1
    · exact (isAt_item isSecond).2
    · exact (isAt_item isThird).1
    · exact (isAt_item isThird).2
  · simp only [List.forall_mem_cons, isFirst, isSecond, isThird, StageRequest.IsDistinct]
    refine ⟨⟨⟨_, isPlain_itemDispatches _⟩, ?_⟩, ⟨⟨_, isPlain_itemDispatches _⟩, ?_⟩,
      ⟨⟨_, isPlain_itemDispatches _⟩, ?_⟩, by simp⟩
    all_goals decide +kernel

end Series

end SpecGraph
