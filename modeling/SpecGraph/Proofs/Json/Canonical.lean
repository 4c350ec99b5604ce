import SpecGraph.Digest
import SpecGraph.Proofs.Graph.Told
import SpecGraph.Proofs.Manifest.Again

/-!
# Canonical texts

A tree of JSON has a canonical text if its integers can be shown, and the text tells the tree: it is that of another
tree exactly if the two are equal up to the order of their keys at every depth. One direction is that what is written
is read back, whatever the levels of the tree; the other is that entries are written in the order of their keys. Texts
that halves of code points leave open are the only other thing that is not told, so this is said of trees without them.
-/

namespace SpecGraph

namespace Text

theorem joinHalves_of_whole {points : List Nat} (whole : ∀ code ∈ points, isHalf code = false) :
    joinHalves points = points := by
  induction points with
  | nil => rfl
  | cons code rest ih =>
      rw [List.forall_mem_cons] at whole
      have noHigh : isHighHalf code = false := by
        have noHalf := whole.1
        rw [← Bool.not_eq_true, isHalf_iff] at noHalf
        rw [← Bool.not_eq_true, isHighHalf_iff]
        omega
      rw [joinHalves_cons_of_apart fun _ _ => by simp [noHigh], ih whole.2]

/-- A text in which every character stands for itself does not change when it is joined. -/
theorem joined_of_isPlain {text : String} (plain : IsPlain text.toList) : joined text = text := by
  rcases plain with ⟨characters, shape⟩
  have asCodes : text.toList = ofCodes (characters.map Char.toNat) := by
    rw [shape, ofCodes, List.flatMap_map]
  have small : ∀ code ∈ characters.map Char.toNat, code < 0x110000 :=
    List.forall_mem_map.mpr fun character _ => toNat_lt character
  have whole : ∀ code ∈ characters.map Char.toNat, isHalf code = false :=
    List.forall_mem_map.mpr fun character _ => isHalf_toNat character
  rw [joined, joinedCharacters, asCodes, codes_ofCodes small, joinHalves_of_whole whole, ← asCodes,
    String.ofList_toList]

end Text

namespace Json

/-- A tree of nulls, truth values, lists and mappings, with integers and texts of some kinds. -/
inductive IsJson (ints : Int → Prop) (texts : String → Prop) : Data → Prop
  | null : IsJson ints texts .null
  | bool {value : Bool} : IsJson ints texts (.bool value)
  | int {value : Int} (isSuch : ints value) : IsJson ints texts (.int value)
  | text {value : String} (isSuch : texts value) : IsJson ints texts (.text value)
  | list {items : List Data} (parts : ∀ item ∈ items, IsJson ints texts item) : IsJson ints texts (.list items)
  | object {entries : List (String × Data)} (parts : ∀ entry ∈ entries, IsJson ints texts entry.2)
      (areSuch : ∀ entry ∈ entries, texts entry.1) (apart : (entries.map Prod.fst).Nodup) :
      IsJson ints texts (Data.object entries)

/-- Two values are equal as values of JSON, up to the order of their keys at every depth. -/
inductive Alike : Data → Data → Prop
  | null : Alike .null .null
  | bool {value : Bool} : Alike (.bool value) (.bool value)
  | int {value : Int} : Alike (.int value) (.int value)
  | text {value : String} : Alike (.text value) (.text value)
  | list {pairs : List (Data × Data)} (each : ∀ pair ∈ pairs, Alike pair.1 pair.2) :
      Alike (.list (pairs.map Prod.fst)) (.list (pairs.map Prod.snd))
  | object {entries others : List (String × Data)} (members : List (String × Data × Data))
      (first : entries.Perm (members.map fun member => (member.1, member.2.1)))
      (second : others.Perm (members.map fun member => (member.1, member.2.2)))
      (each : ∀ member ∈ members, Alike member.2.1 member.2.2) :
      Alike (Data.object entries) (Data.object others)

section Kinds

variable {ints : Int → Prop} {texts : String → Prop}

theorem IsJson.imp {otherInts : Int → Prop} {otherTexts : String → Prop} (ofInts : ∀ value, ints value → otherInts value)
    (ofTexts : ∀ value, texts value → otherTexts value) {value : Data} (json : IsJson ints texts value) :
    IsJson otherInts otherTexts value := by
  induction json with
  | null => exact .null
  | bool => exact .bool
  | int isSuch => exact .int (ofInts _ isSuch)
  | text isSuch => exact .text (ofTexts _ isSuch)
  | list _ ih => exact .list ih
  | object _ areSuch apart ih => exact .object ih (fun entry entryMem => ofTexts _ (areSuch entry entryMem)) apart

/-- A tree has texts of a kind if all its texts are found to be so. -/
theorem IsJson.of_allTexts {such : String → Bool} {value : Data} (json : IsJson ints texts value)
    (all : value.allTexts such = true) : IsJson ints (such · = true) value := by
  induction json with
  | null => exact .null
  | bool => exact .bool
  | int isSuch => exact .int isSuch
  | text => exact .text all
  | list _ ih =>
      rw [Data.allTexts_list] at all
      exact .list fun item itemMem => ih item itemMem (all item itemMem)
  | object _ _ apart ih =>
      rw [Data.allTexts_object] at all
      exact .object (fun entry entryMem => ih entry entryMem (all entry entryMem).2)
        (fun entry entryMem => (all entry entryMem).1) apart

theorem IsJson.items {items : List Data} (json : IsJson ints texts (.list items)) :
    ∀ item ∈ items, IsJson ints texts item := by
  generalize isList : Data.list items = value at json
  cases json with
  | list parts =>
      cases isList
      exact parts
  | _ => cases isList

theorem IsJson.entries {entries : List (String × Data)} (json : IsJson ints texts (Data.object entries)) :
    (∀ entry ∈ entries, IsJson ints texts entry.2) ∧ (∀ entry ∈ entries, texts entry.1) ∧
      (entries.map Prod.fst).Nodup := by
  generalize isObject : Data.object entries = value at json
  cases json with
  | object parts areSuch apart =>
      cases Data.object_inj isObject
      exact ⟨parts, areSuch, apart⟩
  | _ => cases isObject

end Kinds

/-- A tree with a text that is read back as it is: its integers can be shown, and its texts are settled. -/
abbrev IsSettled : Data → Prop := IsJson (Text.isShowable · = true) fun text => Text.joined text = text

/-- A text is read in one way. -/
theorem reread_eq_of_written {layout : Layout} (regular : layout.IsRegular) {levels depth : Nat} {value other : Data}
    (tree : IsTree levels value) (otherTree : IsTree levels other)
    (same : written layout depth value = written layout depth other) : reread layout value = reread layout other := by
  rcases exists_written regular tree depth with ⟨characters, isText, reads⟩
  rcases exists_written regular otherTree depth with ⟨others, isOther, otherReads⟩
  cases (isText.symm.trans same).trans isOther
  have atEnd : Stops [] := nofun
  have first := reads.reads levels _ (Nat.le_refl _) (Nat.le_refl _) atEnd
  have second := otherReads.reads levels _ (Nat.le_refl _) (Nat.le_refl _) atEnd
  exact congrArg Prod.fst (Except.ok.inj (first.symm.trans second))

theorem isRegular_compact : Layout.compact.IsRegular :=
  ⟨⟨[], rfl, nofun⟩, ⟨[], rfl, nofun⟩, nofun⟩

/-- What holds of each element from some level on holds of all from some level on. -/
theorem exists_level {α : Type} {holds : Nat → α → Prop} {elements : List α}
    (each : ∀ element ∈ elements, ∃ levels, ∀ more, levels ≤ more → holds more element) :
    ∃ levels, ∀ more, levels ≤ more → ∀ element ∈ elements, holds more element := by
  induction elements with
  | nil => exact ⟨0, fun _ _ => nofun⟩
  | cons element rest ih =>
      rw [List.forall_mem_cons] at each
      rcases each with ⟨⟨levels, first⟩, others⟩
      rcases ih others with ⟨otherLevels, all⟩
      refine ⟨max levels otherLevels, fun more isMore => List.forall_mem_cons.mpr ⟨first more ?_, all more ?_⟩⟩
      · exact (Nat.le_max_left _ _).trans isMore
      · exact (Nat.le_max_right _ _).trans isMore

theorem IsSettled.areKeys {entries : List (String × Data)} (settled : ∀ entry ∈ entries, Text.joined entry.1 = entry.1)
    (apart : (entries.map Prod.fst).Nodup) : AreKeys (entries.map Prod.fst) := by
  refine ⟨apart, ?_⟩
  rw [List.map_map]
  exact List.map_congr_left settled

/-- A tree has some number of levels. -/
theorem IsSettled.exists_isTree {value : Data} (json : IsSettled value) :
    ∃ levels, ∀ more, levels ≤ more → IsTree more value := by
  induction json with
  | null => exact ⟨0, fun _ _ => .null⟩
  | bool => exact ⟨0, fun _ _ => .bool⟩
  | int isSuch => exact ⟨0, fun _ _ => .int isSuch⟩
  | text => exact ⟨0, fun _ _ => .text⟩
  | list _ ih =>
      rcases exists_level ih with ⟨levels, all⟩
      refine ⟨levels + 1, fun more isMore => ?_⟩
      rcases Nat.exists_eq_add_of_le isMore with ⟨further, rfl⟩
      rw [Nat.add_right_comm]
      exact .list (all _ (Nat.le_add_right _ _))
  | object _ settled apart ih =>
      rcases exists_level ih with ⟨levels, all⟩
      refine ⟨levels + 1, fun more isMore => ?_⟩
      rcases Nat.exists_eq_add_of_le isMore with ⟨further, rfl⟩
      rw [Nat.add_right_comm]
      refine .object (all _ (Nat.le_add_right _ _)) ?_
      rwa [List.map_congr_left settled]

theorem exists_pairs_of_map_eq {α β γ : Type} {first : α → γ} {second : β → γ} {lefts : List α} {rights : List β}
    (same : lefts.map first = rights.map second) :
    ∃ pairs : List (α × β), pairs.map Prod.fst = lefts ∧ pairs.map Prod.snd = rights ∧
      ∀ pair ∈ pairs, first pair.1 = second pair.2 := by
  have related : List.Forall₂ (fun left right => first left = second right) lefts rights := by
    rw [← List.forall₂_map_right_iff, ← List.forall₂_map_left_iff, same]
    exact List.forall₂_same.mpr fun _ _ => rfl
  exact exists_pairs related

section Layouts

variable {layout : Layout}

/-- What is read back alike was alike. -/
theorem IsSettled.alike_of_reread {value other : Data} (json : IsSettled value) (otherJson : IsSettled other)
    (same : reread layout value = reread layout other) : Alike value other := by
  induction json generalizing other with
  | null => cases otherJson <;> first | exact .null | cases same
  | bool =>
      cases otherJson <;> cases same
      exact .bool
  | int =>
      cases otherJson <;> cases same
      exact .int
  | text isSettled =>
      cases otherJson with
      | text isOther =>
          rw [reread_text, reread_text, isSettled, isOther] at same
          cases same
          exact .text
      | _ => cases same
  | @list items _ ih =>
      cases otherJson with
      | list otherParts =>
          rw [reread_list, reread_list, Data.list.injEq] at same
          rcases exists_pairs_of_map_eq same with ⟨pairs, rfl, rfl, samePairs⟩
          rw [List.forall_mem_map] at ih otherParts
          exact .list fun pair pairMem => ih pair pairMem (otherParts pair pairMem) (samePairs pair pairMem)
      | _ => cases same
  | object parts settled apart ih =>
      cases otherJson with
      | object otherParts otherSettled otherApart =>
          rw [reread_object_of_keys layout (areKeys settled apart),
            reread_object_of_keys layout (areKeys otherSettled otherApart)] at same
          rcases exists_pairs_of_map_eq (Data.object_inj same) with ⟨pairs, areFirst, areSecond, samePairs⟩
          have first := areFirst ▸ ordered_perm layout _
          have second := areSecond ▸ ordered_perm layout _
          refine .object (pairs.map fun pair => (pair.1.1, pair.1.2, pair.2.2)) ?_ ?_ ?_
          · rw [List.map_map]
            exact first.symm
          · rw [List.map_map]
            refine second.symm.trans (.of_eq ?_)
            exact List.map_congr_left fun pair pairMem =>
              Prod.ext (Prod.ext_iff.mp (samePairs pair pairMem)).1.symm rfl
          · rw [List.forall_mem_map]
            intro pair pairMem
            have firstMem := first.mem_iff.mp (List.mem_map_of_mem pairMem)
            have secondMem := second.mem_iff.mp (List.mem_map_of_mem pairMem)
            exact ih pair.1 firstMem (otherParts pair.2 secondMem) (Prod.ext_iff.mp (samePairs pair pairMem)).2
      | _ => cases same

/-- Where keys are sorted, what is alike has the same text. -/
theorem Alike.sameText (sorts : layout.sorted = true) {value other : Data} (alike : Alike value other)
    (json : IsSettled value) (otherJson : IsSettled other) : SameText layout value other := by
  induction alike with
  | null | bool | int | text => exact .refl _
  | @list pairs _ ih =>
      have parts := List.forall_mem_map.mp json.items
      have otherParts := List.forall_mem_map.mp otherJson.items
      refine sameText_list (List.forall₂_map_left_iff.mpr (List.forall₂_map_right_iff.mpr ?_))
      exact List.forall₂_same.mpr fun pair pairMem => ih pair pairMem (parts pair pairMem) (otherParts pair pairMem)
  | @object entries others members first second _ ih =>
      rcases json.entries with ⟨parts, settled, apart⟩
      rcases otherJson.entries with ⟨otherParts, otherSettled, otherApart⟩
      have each : ∀ member ∈ members, SameText layout member.2.1 member.2.2 := fun member memberMem =>
        ih member memberMem (parts _ (first.mem_iff.mpr (List.mem_map_of_mem memberMem)))
          (otherParts _ (second.mem_iff.mpr (List.mem_map_of_mem memberMem)))
      intro depth
      rw [written_object, ordered_of_perm sorts (IsSettled.areKeys settled apart) first, ← written_object,
        sameText_object members each depth, written_object, written_object,
        ordered_of_perm sorts (IsSettled.areKeys otherSettled otherApart) second]

end Layouts

namespace IsSettled

variable {value other : Data} (json : IsSettled value) (otherJson : IsSettled other)
include json

theorem exists_canonical : ∃ text, value.canonical = .ok text := by
  rcases json.exists_isTree with ⟨levels, tree⟩
  rcases exists_written isRegular_compact (tree _ (Nat.le_refl _)) 0 with ⟨text, isText, _⟩
  exact ⟨text, isText⟩

include otherJson

/-- Trees with one canonical text are read back as one. -/
theorem reread_eq_of_canonical (same : value.canonical = other.canonical) :
    reread .compact value = reread .compact other := by
  rcases json.exists_isTree with ⟨levels, tree⟩
  rcases otherJson.exists_isTree with ⟨otherLevels, otherTree⟩
  exact reread_eq_of_written isRegular_compact (tree _ (Nat.le_max_left levels otherLevels))
    (otherTree _ (Nat.le_max_right levels otherLevels)) same

/-- Two trees have one canonical text exactly if they are alike. -/
theorem canonical_eq_iff :
    ∃ text others, value.canonical = .ok text ∧ other.canonical = .ok others ∧
      (text = others ↔ Alike value other) := by
  rcases json.exists_canonical with ⟨text, isText⟩
  rcases otherJson.exists_canonical with ⟨others, isOther⟩
  refine ⟨text, others, isText, isOther, fun same => ?_, fun alike => ?_⟩
  · apply json.alike_of_reread otherJson
    apply json.reread_eq_of_canonical otherJson
    rw [isText, isOther, same]
  · exact Except.ok.inj ((isText.symm.trans (alike.sameText rfl json otherJson 0)).trans isOther)

end IsSettled

section Ascii

/-- The characters are ASCII. -/
def IsAscii (characters : List Char) : Prop := ∀ character ∈ characters, character.toNat < 128

theorem IsAscii.append {characters others : List Char} (first : IsAscii characters) (second : IsAscii others) :
    IsAscii (characters ++ others) :=
  List.forall_mem_append.mpr ⟨first, second⟩

theorem isAscii_of_all {characters : List Char} (all : characters.all (·.toNat < 128) = true) : IsAscii characters :=
  fun character inside => of_decide_eq_true (List.all_eq_true.mp all character inside)

theorem isAscii_unitEscape (unit : Nat) : IsAscii (unitEscape unit) := by
  have digit (value : Nat) : (Text.lowerHexDigit (value % 16)).toNat < 128 := by
    have each : ∀ small < 16, (Text.lowerHexDigit small).toNat < 128 := by decide
    exact each _ (Nat.mod_lt _ (by decide))
  simp only [IsAscii, unitEscape, Text.hexadecimal, List.nil_append, List.cons_append, List.forall_mem_cons, digit,
    true_and]
  exact ⟨by decide, by decide, List.forall_mem_nil _⟩

theorem isAscii_escapedCode (code : Nat) : IsAscii (escapedCode code) := by
  have pair (letter : Char) (small : letter.toNat < 128) : IsAscii ['\\', letter] :=
    List.forall_mem_cons.mpr ⟨by decide, List.forall_mem_singleton.mpr small⟩
  unfold escapedCode
  repeat' split
  all_goals first
    | exact pair _ (by decide)
    | exact isAscii_unitEscape _
    | exact (isAscii_unitEscape _).append (isAscii_unitEscape _)
    | skip
  next visible =>
    refine List.forall_mem_singleton.mpr ?_
    rw [Text.toNat_ofNat_of_lt (by omega)]
    omega

theorem isAscii_writtenText (characters : List Char) : IsAscii (writtenText characters) := by
  have quote : IsAscii ['"'] := List.forall_mem_singleton.mpr (by decide)
  have inside : IsAscii ((Text.codes characters).flatMap escapedCode) :=
    List.forall_mem_flatMap.mpr fun code _ => isAscii_escapedCode code
  exact List.forall_mem_cons.mpr ⟨by decide, inside.append quote⟩

theorem isAscii_signedDecimal (value : Int) : IsAscii (Text.signedDecimal value) := by
  have digits (value : Nat) : IsAscii (Text.decimal value) := by
    intro digit digitMem
    have isDigit := Text.isDigit_of_mem_decimal value digit digitMem
    unfold Text.isDigit Text.digitValue? at isDigit
    split at isDigit
    · next bounds => exact Nat.lt_of_le_of_lt bounds.2 (by decide)
    · cases isDigit
  cases value with
  | ofNat value => exact digits value
  | negSucc value => exact List.forall_mem_cons.mpr ⟨by decide, digits _⟩

theorem isAscii_enclose (depth : Nat) {opening closing : Char} (brackets : IsAscii [opening, closing])
    {parts : List (List Char)} (each : ∀ part ∈ parts, IsAscii part) :
    IsAscii (Layout.compact.enclose depth opening closing parts) := by
  have first : opening.toNat < 128 := brackets _ List.mem_cons_self
  have last : IsAscii [closing] := fun character inLast => brackets character (List.mem_cons_of_mem _ inLast)
  unfold Layout.enclose
  split
  · exact brackets
  · refine IsAscii.append (IsAscii.append (List.forall_mem_cons.mpr ⟨first, ?_⟩) nofun) last
    intro character inside
    rcases mem_intercalate inside with comma | ⟨part, partMem, inPart⟩
    · obtain rfl := List.mem_singleton.mp comma
      decide
    · exact each part partMem character inPart

/-- The canonical text of a tree is ASCII. -/
theorem IsJson.isAscii_written {ints : Int → Prop} {texts : String → Prop} {value : Data}
    (json : IsJson ints texts value) {depth : Nat} {characters : List Char}
    (isText : written .compact depth value = .ok characters) : IsAscii characters := by
  induction json generalizing depth characters with
  | null =>
      cases isText
      exact isAscii_of_all rfl
  | @bool value =>
      cases isText
      cases value <;> exact isAscii_of_all rfl
  | @int value =>
      change writtenInt value = _ at isText
      unfold writtenInt at isText
      split at isText
      · cases isText
        exact isAscii_signedDecimal value
      · cases isText
  | @text value =>
      cases isText
      exact isAscii_writtenText value.toList
  | @list items _ ih =>
      rw [written_list] at isText
      rcases bind_eq_ok.mp isText with ⟨parts, areParts, isText⟩
      cases isText
      refine isAscii_enclose depth (isAscii_of_all rfl) fun part partMem => ?_
      rcases forall₂_exists_of_mem (forall₂_of_mapM_ok areParts).flip partMem with ⟨item, itemMem, isPart⟩
      exact ih item itemMem isPart
  | @object entries _ _ _ ih =>
      rw [written_object] at isText
      rcases bind_eq_ok.mp isText with ⟨parts, areParts, isText⟩
      cases isText
      refine isAscii_enclose depth (isAscii_of_all rfl) fun part partMem => ?_
      rcases forall₂_exists_of_mem (forall₂_of_mapM_ok areParts).flip partMem with ⟨entry, entryMem, isPart⟩
      rcases bind_eq_ok.mp isPart with ⟨name, isName, isPart⟩
      rcases bind_eq_ok.mp isPart with ⟨text, isValue, isPart⟩
      cases isPart
      have ofValue := ih entry ((ordered_perm _ _).mem_iff.mp entryMem) isValue
      exact ((isAscii_writtenText name).append (List.forall_mem_singleton.mpr (by decide))).append ofValue

end Ascii

end Json

namespace Sha256

theorem hexadecimal_inj {width first second : Nat} (firstSmall : first < 16 ^ width) (secondSmall : second < 16 ^ width)
    (same : Text.hexadecimal Text.lowerHexDigit width first = Text.hexadecimal Text.lowerHexDigit width second) :
    first = second := by
  induction width generalizing first second with
  | zero => omega
  | succ width ih =>
      rw [Text.hexadecimal, Text.hexadecimal, ← List.concat_eq_append, ← List.concat_eq_append] at same
      rcases List.concat_inj.mp same with ⟨front, last⟩
      have value (number : Nat) : Text.hexValue? (Text.lowerHexDigit (number % 16)) = some (number % 16) :=
        Text.hexValue?_lowerHexDigit (Nat.mod_lt _ (by decide))
      have lastDigit : first % 16 = second % 16 := by
        have values := (value first).symm.trans ((congrArg _ last).trans (value second))
        exact Option.some.inj values
      have others := ih (by omega) (by omega) front
      omega

theorem eq_of_flatMap_eq {α β : Type} {image : α → List β} {width : Nat}
    (wide : ∀ element, (image element).length = width) (inj : Function.Injective image) {lefts rights : List α}
    (sameLength : lefts.length = rights.length) (same : lefts.flatMap image = rights.flatMap image) : lefts = rights := by
  induction lefts generalizing rights with
  | nil => exact (List.length_eq_zero_iff.mp sameLength.symm).symm
  | cons left rest ih =>
      cases rights with
      | nil => cases sameLength
      | cons right others =>
          rw [List.flatMap_cons, List.flatMap_cons] at same
          rcases List.append_inj same ((wide left).trans (wide right).symm) with ⟨first, later⟩
          rw [inj first, ih (Nat.succ.inj sameLength) later]

theorem length_hexadecimal (digit : Nat → Char) (width value : Nat) :
    (Text.hexadecimal digit width value).length = width := by
  induction width generalizing value with
  | zero => rfl
  | succ width ih => rw [Text.hexadecimal, List.length_append, ih, List.length_singleton]

/-- The digits tell the digest. -/
theorem digest_eq_of_hexDigest {first second : List UInt8} (same : hexDigest first = hexDigest second) :
    digest first = digest second := by
  have inj : Function.Injective fun word : UInt32 => Text.hexadecimal Text.lowerHexDigit 8 word.toNat :=
    fun left right sameDigits => UInt32.toNat.inj (hexadecimal_inj left.toNat_lt right.toNat_lt sameDigits)
  have wordsOf {left right : State} (sameDigits : [left.a, left.b, left.c, left.d, left.e, left.f, left.g, left.h].flatMap
        (fun word => Text.hexadecimal Text.lowerHexDigit 8 word.toNat) =
      [right.a, right.b, right.c, right.d, right.e, right.f, right.g, right.h].flatMap
        fun word => Text.hexadecimal Text.lowerHexDigit 8 word.toNat) : left = right := by
    have words : [left.a, left.b, left.c, left.d, left.e, left.f, left.g, left.h] =
        [right.a, right.b, right.c, right.d, right.e, right.f, right.g, right.h] :=
      eq_of_flatMap_eq (fun _ => length_hexadecimal _ _ _) inj rfl sameDigits
    cases left
    cases right
    simpa using words
  exact wordsOf (String.ofList_injective same)

end Sha256

namespace Data

open Json (IsAscii IsSettled)

/-- The bytes whose digest is the fingerprint of a value. -/
def message (value : Data) : Except Fault (List UInt8) :=
  value.canonical.map fun text => text.map fun character => UInt8.ofNat character.toNat

/-- An integer with too many digits has no canonical text. -/
theorem canonical_ne_of_unshown {value : Int} (unshown : Text.isShowable value = false) (text : List Char) :
    (Data.int value).canonical ≠ .ok text := by
  intro isText
  change Json.writtenInt value = .ok text at isText
  rw [Json.writtenInt, unshown] at isText
  cases isText

theorem fingerprint_of_canonical {value : Data} {text : List Char} (isText : value.canonical = .ok text) :
    value.fingerprint =
      .ok ("sha256:" ++ Sha256.hexDigest (text.map fun character => UInt8.ofNat character.toNat)) := by
  rw [fingerprint, isText]
  rfl

/-- Texts of ASCII are told by their bytes. -/
theorem eq_of_bytes {text other : List Char} (ascii : IsAscii text) (otherAscii : IsAscii other)
    (same : text.map (fun character => UInt8.ofNat character.toNat) =
      other.map fun character => UInt8.ofNat character.toNat) : text = other := by
  have back {characters : List Char} (isAscii : IsAscii characters) :
      (characters.map fun character => UInt8.ofNat character.toNat).map (fun byte => Char.ofNat byte.toNat) =
        characters := by
    rw [List.map_map]
    refine (List.map_congr_left fun character inside => ?_).trans (List.map_id _)
    have small := isAscii character inside
    have whole : character.toNat % 256 = character.toNat := Nat.mod_eq_of_lt (by omega)
    simp [whole]
  rw [← back ascii, same, back otherAscii]

/-- If two canonical texts have different digests, then trees with one fingerprint have one canonical text. -/
theorem canonical_eq_of_fingerprint {value other : Data} (json : IsSettled value) (otherJson : IsSettled other)
    (apart : ∀ message otherMessage, value.message = .ok message → other.message = .ok otherMessage →
      Sha256.digest message = Sha256.digest otherMessage → message = otherMessage)
    (same : value.fingerprint = other.fingerprint) : value.canonical = other.canonical := by
  rcases json.exists_canonical with ⟨text, isText⟩
  rcases otherJson.exists_canonical with ⟨others, isOther⟩
  rw [fingerprint_of_canonical isText, fingerprint_of_canonical isOther] at same
  have sameDigits := (String.append_right_inj _).mp (Except.ok.inj same)
  have sameBytes := apart _ _ (congrArg (Except.map _) isText) (congrArg (Except.map _) isOther)
    (Sha256.digest_eq_of_hexDigest sameDigits)
  rw [isText, isOther, eq_of_bytes (json.isAscii_written isText) (otherJson.isAscii_written isOther) sameBytes]

end Data

end SpecGraph
