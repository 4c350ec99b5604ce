import SpecGraph.Data.Number
import SpecGraph.Proofs.Data.Same
import SpecGraph.Proofs.Json.RoundTrip
import SpecGraph.Proofs.Json.Values
import SpecGraph.Proofs.Manifest.Record

/-!
# Values that are handed on

A value that was read from a JSON text may be a part of a value that is written again. What was declared can so be
given more members, each a number or a value that was read. The whole is read back as what was declared with these
members, and without them it is what is read back of what was declared alone.
-/

namespace SpecGraph

namespace Json

/-- Every member of a value was read from a JSON text. -/
def HoldsValues (levels : Nat) (value : Data) : Prop :=
  ∀ {name : String} {found : Data}, value.member name = .ok found → IsValue levels found

namespace IsValue

variable {levels : Nat} {value : Data}

theorem get? (isValue : IsValue (levels + 1) value) {name : String} {found : Data}
    (there : value.get? name = some found) : IsValue levels found := by
  cases isValue with
  | object parts =>
      rw [Data.get?_object] at there
      exact parts _ (Table.mem_of_lookup there)
  | null | bool | int | float | text | list => cases there

theorem holdsValues (isValue : IsValue (levels + 1) value) : HoldsValues levels value := by
  intro name found isMember
  apply isValue.get?
  unfold Data.member at isMember
  unfold Data.get?
  split at isMember
  · split at isMember
    · next isFound => rw [isFound, Except.ok.inj isMember]
    · cases isMember
  · cases isMember

theorem memberOr (isValue : IsValue (levels + 1) value) {name : String} {default found : Data}
    (isDefault : IsValue levels default) (isMember : value.memberOr name default = .ok found) :
    IsValue levels found := by
  cases isFound : value.get? name with
  | some other =>
      rw [Data.memberOr_of_get? isFound] at isMember
      cases isMember
      exact isValue.get? isFound
  | none =>
      unfold Data.get? at isFound
      unfold Data.memberOr at isMember
      split at isMember
      · next entries isMap =>
          simp only [isMap] at isFound
          rw [isFound] at isMember
          cases isMember
          exact isDefault
      · cases isMember

/-- The members of the items of a value were read. The items of a text and the keys of a mapping have none. -/
theorem items (isValue : IsValue (levels + 2) value) {items : List Data} (areItems : value.items = .ok items) :
    ∀ item ∈ items, HoldsValues levels item := by
  have ofText (text : String) : HoldsValues levels (.text text) := fun isMember => by cases isMember
  cases isValue with
  | list parts =>
      cases areItems
      exact fun item itemMem => (parts item itemMem).holdsValues
  | @object _ entries =>
      cases areItems
      intro item itemMem
      rcases List.mem_map.mp itemMem with ⟨_, entryMem, rfl⟩
      rcases List.mem_map.mp entryMem with ⟨entry, _, rfl⟩
      exact ofText entry.1
  | text =>
      cases areItems
      intro item itemMem
      rcases List.mem_map.mp itemMem with ⟨code, _, rfl⟩
      exact ofText _
  | null | bool | int | float => cases areItems

end IsValue

/-- A value that was read from a JSON text, or a number. -/
def IsCarried (levels : Nat) (value : Data) : Prop := (∃ number, value = .int number) ∨ IsValue levels value

namespace IsCarried

variable {levels : Nat} {value : Data} (carried : IsCarried levels value)
include carried

theorem isTree {layout : Layout} (hasText : HasText layout value) : IsTree levels value := by
  rcases carried with ⟨number, rfl⟩ | isValue
  · exact .int hasText.isShowable
  · exact isValue.isTree

/-- A value that is handed on has one text, however often it is read back. -/
theorem written_reread (layout : Layout) (depth : Nat) :
    written layout depth (reread layout value) = written layout depth value := by
  rcases carried with ⟨number, rfl⟩ | isValue
  · rfl
  · exact isValue.written_reread layout depth

end IsCarried

/-- The number after a value that was read or a number is one or the other. -/
theorem isCarried_next {levels : Nat} {value next : Data} (isNext : value.next = .ok next) :
    IsCarried levels next := by
  cases value with
  | bool flag =>
      cases isNext
      exact Or.inl ⟨_, rfl⟩
  | int number =>
      cases isNext
      exact Or.inl ⟨_, rfl⟩
  | float number =>
      cases isNext
      refine Or.inr (.float ?_)
      unfold readFloat
      split
      · next noNumber =>
          unfold Binary64.addOne at noNumber ⊢
          split
          · rfl
          · next someNumber =>
              rw [if_neg someNumber] at noNumber
              split at noNumber
              · exact (someNumber noNumber).elim
              · rw [Binary64.isNaN_ofRatio] at noNumber
                cases noNumber
      · rfl
  | _ => cases isNext

end Json

namespace Data

mutual

/-- A value without the members of some names, in all its mappings. -/
def without (names : List String) : Data → Data
  | .list items => .list (withoutItems names items)
  | .map entries => .map (withoutEntries names entries)
  | value => value

/-- Values without the members of some names. -/
def withoutItems (names : List String) : List Data → List Data
  | [] => []
  | item :: rest => without names item :: withoutItems names rest

/-- Entries without those of some names, and without the members of these names in their values. -/
def withoutEntries (names : List String) : List (Data × Data) → List (Data × Data)
  | [] => []
  | (key, value) :: rest =>
      if (key.text?).any names.contains then withoutEntries names rest
      else (key, without names value) :: withoutEntries names rest

end

theorem without_list (names : List String) (items : List Data) :
    (Data.list items).without names = .list (items.map (without names)) := by
  rw [without]
  congr 1
  induction items with
  | nil => rfl
  | cons item rest ih => rw [withoutItems, ih, List.map_cons]

theorem without_object (names : List String) (entries : List (String × Data)) :
    (object entries).without names =
      object ((entries.filter fun entry => !names.contains entry.1).map fun entry =>
        (entry.1, entry.2.without names)) := by
  rw [object, without, object]
  congr 1
  induction entries with
  | nil => rfl
  | cons entry rest ih =>
      rw [List.map_cons, withoutEntries, ih, List.filter_cons]
      by_cases isName : entry.1 ∈ names <;> simp [text?, isName]

end Data

namespace Json

/-- Settled keys that are told apart have different code points. -/
theorem AreKeys.codes_nodup {α : Type} {entries : List (String × α)} (keys : AreKeys (entries.map Prod.fst)) :
    (entries.map keyCodes).Nodup := by
  have distinct := keys.distinct
  rw [← keys.settled, List.map_map] at distinct
  apply List.Nodup.of_map fun codes => String.ofList (Text.ofCodes (Text.joinHalves codes))
  rwa [List.map_map]

theorem AreKeys.perm {names others : List String} (keys : AreKeys names) (same : names.Perm others) :
    AreKeys others := by
  refine ⟨same.nodup_iff.mp keys.distinct, ?_⟩
  have settled := List.map_inj_left.mp (keys.settled.trans (List.map_id _).symm)
  exact (List.map_congr_left fun name nameMem => settled name (same.mem_iff.mpr nameMem)).trans (List.map_id _)

theorem AreKeys.sublist {names others : List String} (keys : AreKeys names) (fewer : others.Sublist names) :
    AreKeys others := by
  refine ⟨keys.distinct.sublist fewer, ?_⟩
  have settled := List.map_inj_left.mp (keys.settled.trans (List.map_id _).symm)
  exact (List.map_congr_left fun name nameMem => settled name (fewer.subset nameMem)).trans (List.map_id _)

/-- A mapping with settled keys is read back with its keys as they are. -/
theorem reread_object_of_keys (layout : Layout) {entries : List (String × Data)}
    (keys : AreKeys (entries.map Prod.fst)) :
    reread layout (Data.object entries) =
      Data.object ((ordered layout entries).map fun entry => (entry.1, reread layout entry.2)) := by
  have settled := List.map_inj_left.mp (keys.settled.trans (List.map_id _).symm)
  have same := ordered_perm layout entries
  rw [reread_object]
  congr 1
  refine List.map_congr_left fun entry entryMem => ?_
  rw [settled entry.1 (List.mem_map_of_mem (same.mem_iff.mp entryMem)), id]

/-- The order of entries with settled keys is told by the entries. -/
theorem ordered_of_perm {α : Type} {layout : Layout} (sorts : layout.sorted = true) {entries others : List (String × α)}
    (keys : AreKeys (entries.map Prod.fst)) (same : entries.Perm others) :
    ordered layout entries = ordered layout others := by
  apply (isSorted_ordered sorts entries).eq_of_perm (isSorted_ordered sorts others)
  · exact ((ordered_perm layout entries).map keyCodes).nodup_iff.mpr keys.codes_nodup
  · exact ((ordered_perm layout entries).trans same).trans (ordered_perm layout others).symm

/-- A value is another one with more members of some names, each a number or a value that was read. The texts, truth
values, lists and mappings of the two are otherwise the same. -/
inductive Carries (names : List String) : (levels : Nat) → Data → Data → Prop
  | text {levels : Nat} {value : String} : Carries names levels (.text value) (.text value)
  | bool {levels : Nat} {value : Bool} : Carries names levels (.bool value) (.bool value)
  | list {levels : Nat} {pairs : List (Data × Data)} (each : ∀ pair ∈ pairs, Carries names levels pair.1 pair.2) :
      Carries names (levels + 1) (.list (pairs.map Prod.fst)) (.list (pairs.map Prod.snd))
  | object {levels : Nat} {entries others : List (String × Data)} (members : List (String × Data × Data))
      (numbers : List (String × Data))
      (whole : entries.Perm (members.map (fun member => (member.1, member.2.1)) ++ numbers))
      (part : others.Perm (members.map fun member => (member.1, member.2.2)))
      (keys : AreKeys (members.map Prod.fst ++ numbers.map Prod.fst))
      (each : ∀ member ∈ members, Carries names levels member.2.1 member.2.2)
      (unnamed : ∀ name ∈ members.map Prod.fst, name ∉ names) (named : ∀ name ∈ numbers.map Prod.fst, name ∈ names)
      (carried : ∀ number ∈ numbers, IsCarried levels number.2) :
      Carries names (levels + 1) (Data.object entries) (Data.object others)

namespace Carries

variable {names : List String} {levels : Nat} {value declared : Data}

/-- The keys of a mapping with more members. -/
theorem keys_whole {entries : List (String × Data)} {members : List (String × Data × Data)}
    {numbers : List (String × Data)}
    (whole : entries.Perm (members.map (fun member => (member.1, member.2.1)) ++ numbers))
    (keys : AreKeys (members.map Prod.fst ++ numbers.map Prod.fst)) : AreKeys (entries.map Prod.fst) := by
  apply keys.perm
  have names := (whole.map Prod.fst).symm
  rwa [List.map_append, List.map_map] at names

/-- If the whole has a text, then JSON has a form for it. -/
theorem isTree {layout : Layout} (carries : Carries names levels value declared) (hasText : HasText layout value) :
    IsTree levels value := by
  induction carries with
  | text => exact .text
  | bool => exact .bool
  | list _ ih =>
      refine .list fun item itemMem => ?_
      rcases List.mem_map.mp itemMem with ⟨pair, pairMem, rfl⟩
      exact ih pair pairMem (hasText.item itemMem)
  | @object levels entries others members numbers whole part keys _ _ _ carried ih =>
      apply isTree_object (keys_whole whole keys)
      intro entry entryMem
      have ofEntry := hasText.entry entryMem
      rcases List.mem_append.mp (whole.mem_iff.mp entryMem) with isMember | isNumber
      · rcases List.mem_map.mp isMember with ⟨member, memberMem, rfl⟩
        exact ih member memberMem ofEntry
      · exact (carried entry isNumber).isTree ofEntry

/-- Without the numbers the whole is read back as what was declared alone. -/
theorem reread_without {layout : Layout} (sorts : layout.sorted = true)
    (carries : Carries names levels value declared) :
    (reread layout value).without names = reread layout declared := by
  induction carries with
  | text => rfl
  | bool => rfl
  | @list levels pairs _ ih =>
      rw [reread_list, reread_list, Data.without_list, List.map_map, List.map_map, List.map_map]
      congr 1
      exact List.map_congr_left fun pair pairMem => ih pair pairMem
  | @object levels entries others members numbers whole part keys _ unnamed named carried ih =>
      have wholeKeys := keys_whole whole keys
      have fewer : AreKeys (members.map Prod.fst) := keys.sublist (List.sublist_append_left _ _)
      have memberKeys (image : Data × Data → Data) :
          (members.map fun member => (member.1, image member.2)).map Prod.fst = members.map Prod.fst := by
        rw [List.map_map]
        rfl
      have left : (entries.filter fun entry => !names.contains entry.1).Perm
          (members.map fun member => (member.1, member.2.1)) := by
        refine (whole.filter _).trans ?_
        have all : (members.map fun member => (member.1, member.2.1)).filter (fun entry => !names.contains entry.1) =
            members.map fun member => (member.1, member.2.1) := by
          rw [List.filter_eq_self, List.forall_mem_map]
          intro member memberMem
          simp [unnamed member.1 (List.mem_map_of_mem memberMem)]
        have none : numbers.filter (fun entry => !names.contains entry.1) = [] := by
          rw [List.filter_eq_nil_iff]
          intro number numberMem
          simp [named number.1 (List.mem_map_of_mem numberMem)]
        rw [List.filter_append, all, none, List.append_nil]
      -- What is left of the members in order are the declared ones in order.
      have inOrder : (ordered layout entries).filter (fun entry => !names.contains entry.1) =
          (ordered layout members).map fun member => (member.1, member.2.1) := by
        rw [ordered_filter sorts wholeKeys.codes_nodup,
          ordered_of_perm sorts (wholeKeys.sublist (List.filter_sublist.map Prod.fst)) left,
          ordered_map layout Prod.fst]
      have otherKeys : AreKeys (others.map Prod.fst) := fewer.perm (memberKeys Prod.snd ▸ (part.map Prod.fst).symm)
      have declared : ordered layout others = (ordered layout members).map fun member => (member.1, member.2.2) := by
        rw [ordered_of_perm sorts otherKeys part, ordered_map layout Prod.snd]
      have filtered : ((ordered layout entries).map fun entry => (entry.1, reread layout entry.2)).filter
          (fun entry => !names.contains entry.1) =
          ((ordered layout entries).filter fun entry => !names.contains entry.1).map
            fun entry => (entry.1, reread layout entry.2) := List.filter_map ..
      rw [reread_object_of_keys layout wholeKeys, reread_object_of_keys layout otherKeys, Data.without_object, filtered,
        inOrder, declared, List.map_map, List.map_map, List.map_map]
      congr 1
      refine List.map_congr_left fun member memberMem => ?_
      rw [Function.comp_apply, Function.comp_apply, Function.comp_apply,
        ih member ((ordered_perm layout members).mem_iff.mp memberMem)]

/-- What was declared without halves of a code point is read back as a value that is the same. -/
theorem same_reread {layout : Layout} (carries : Carries names levels value declared)
    (settled : declared.allTexts Text.isSettled = true) :
    (reread layout declared).same declared = true := by
  induction carries with
  | text => simpa [Text.isSettled] using settled
  | bool => simp [Data.same, Data.expanded, Data.sameTrees, Data.unmarked, Data.compareNumbers,
      Data.integer?, Binary64.signOf]
  | @list levels pairs _ ih =>
      rw [Data.allTexts_list] at settled
      rw [reread_list, List.map_map]
      apply Data.same_list_of_forall₂
      rw [List.forall₂_map_left_iff, List.forall₂_map_right_iff, List.forall₂_same]
      exact fun pair pairMem => ih pair pairMem (settled pair.2 (List.mem_map_of_mem pairMem))
  | @object levels entries others members numbers whole part keys each unnamed named carried ih =>
      rw [Data.allTexts_object] at settled
      have order := ordered_perm layout others
      rw [reread_object]
      apply Data.same_object
      · rw [List.length_map, order.length_eq]
      · rw [List.forall_mem_map]
        intro other otherMem
        have isOther := order.mem_iff.mp otherMem
        refine ⟨other, isOther, ?_, ?_⟩
        · exact (beq_iff_eq.mp (settled other isOther).1).symm
        · rcases List.mem_map.mp (part.mem_iff.mp isOther) with ⟨member, memberMem, rfl⟩
          exact ih member memberMem (settled _ isOther).2

end Carries

end Json

end SpecGraph
