import Mathlib.Data.List.TakeWhile
import SpecGraph.Proofs.Effect
import SpecGraph.Proofs.Json.RoundTrip
import SpecGraph.Proofs.Text.Plain

/-!
# The values of JSON texts

What is read from the text of a file is a value that JSON has a form for: no two members of a mapping have one name,
a text has no first half of a pair directly before a second half, an integer can be shown, and nothing is not a number
but the canonical such value. It is nested no deeper than there was room for.
-/

namespace SpecGraph

namespace Json

open Text (IsPlain)

/-- A value that is read from a JSON text, with no more levels of collections than some number. -/
inductive IsValue : (levels : Nat) → Data → Prop
  | null {levels : Nat} : IsValue levels .null
  | bool {levels : Nat} {value : Bool} : IsValue levels (.bool value)
  | int {levels : Nat} {value : Int} (showable : Text.isShowable value = true) : IsValue levels (.int value)
  | float {levels : Nat} {value : Binary64} (canonical : readFloat value = value) : IsValue levels (.float value)
  | text {levels : Nat} {value : String} (settled : Text.joined value = value) : IsValue levels (.text value)
  | list {levels : Nat} {items : List Data} (parts : ∀ item ∈ items, IsValue levels item) :
      IsValue (levels + 1) (.list items)
  | object {levels : Nat} {entries : List (String × Data)} (parts : ∀ entry ∈ entries, IsValue levels entry.2)
      (settled : ∀ entry ∈ entries, Text.joined entry.1 = entry.1) (apart : (entries.map Prod.fst).Nodup) :
      IsValue (levels + 1) (Data.object entries)

/-- A value that is read from a JSON text has one. -/
theorem IsValue.isTree {levels : Nat} {value : Data} (isValue : IsValue levels value) : IsTree levels value := by
  induction isValue with
  | null => exact .null
  | bool => exact .bool
  | int showable => exact .int showable
  | float canonical => exact .float canonical
  | text => exact .text
  | list _ ih => exact .list ih
  | object _ settled apart ih =>
      apply IsTree.object ih
      rwa [List.map_congr_left fun entry entryMem => settled entry entryMem]

/-- The first text goes on as the second after characters that are no marks. -/
def GoesOn (text rest : List Char) : Prop :=
  ∃ front, text = front ++ rest ∧ ∀ character ∈ front, character ≠ Text.selfMark

namespace GoesOn

theorem refl (text : List Char) : GoesOn text text := ⟨[], rfl, by simp⟩

theorem trans {text middle rest : List Char} (first : GoesOn text middle) (second : GoesOn middle rest) :
    GoesOn text rest := by
  rcases first with ⟨front, rfl, frontUnmarked⟩
  rcases second with ⟨back, rfl, backUnmarked⟩
  refine ⟨front ++ back, (List.append_assoc ..).symm, ?_⟩
  intro character characterMem
  exact (List.mem_append.mp characterMem).elim (frontUnmarked character) (backUnmarked character)

theorem cons {character : Char} (unmarked : character ≠ Text.selfMark) {text rest : List Char}
    (goesOn : GoesOn text rest) : GoesOn (character :: text) rest := by
  rcases goesOn with ⟨front, rfl, frontUnmarked⟩
  exact ⟨character :: front, rfl, List.forall_mem_cons.mpr ⟨unmarked, frontUnmarked⟩⟩

theorem isPlain {text rest : List Char} (goesOn : GoesOn text rest) (plain : IsPlain text) : IsPlain rest := by
  rcases goesOn with ⟨front, rfl, unmarked⟩
  exact Text.isPlain_of_append plain unmarked

end GoesOn

theorem goesOn_dropWhile {test : Char → Bool} (unmarked : test Text.selfMark = false) (text : List Char) :
    GoesOn text (text.dropWhile test) := by
  refine ⟨text.takeWhile test, List.takeWhile_append_dropWhile.symm, ?_⟩
  rintro _ markMem rfl
  have tested := List.mem_takeWhile_imp markMem
  rw [unmarked] at tested
  cases tested

theorem goesOn_skipBlanks (text : List Char) : GoesOn text (skipBlanks text) := goesOn_dropWhile rfl text

theorem hexValue?_spec {character : Char} {value : Nat} (isDigit : Text.hexValue? character = some value) :
    value < 16 ∧ character ≠ Text.selfMark := by
  have unmarked : character ≠ Text.selfMark := by
    rintro rfl
    cases isDigit
  refine ⟨?_, unmarked⟩
  have least (first last : Char) (inside : first ≤ character ∧ character ≤ last) :
      first.toNat ≤ character.toNat ∧ character.toNat ≤ last.toNat := inside
  unfold Text.hexValue? at isDigit
  split at isDigit
  · next inside =>
      have bounds := least '0' '9' inside
      have nine : ('9').toNat = 57 := rfl
      have isValue := Option.some.inj isDigit
      omega
  · split at isDigit
    · next inside =>
        have bounds := least 'a' 'f' inside
        have fifteen : ('f').toNat = 102 := rfl
        have isValue := Option.some.inj isDigit
        omega
    · split at isDigit
      · next inside =>
          have bounds := least 'A' 'F' inside
          have fifteen : ('F').toNat = 70 := rfl
          have isValue := Option.some.inj isDigit
          omega
      · cases isDigit

theorem readUnit?_spec {text rest : List Char} {unit : Nat} (read : readUnit? text = some (unit, rest)) :
    unit < 0x10000 ∧ GoesOn text rest := by
  match text with
  | first :: second :: third :: fourth :: others =>
      unfold readUnit? at read
      simp only [Option.bind_eq_bind, Option.bind_eq_some_iff] at read
      rcases read with ⟨one, isOne, two, isTwo, three, isThree, four, isFour, isUnit⟩
      cases isUnit
      have ofFirst := hexValue?_spec isOne
      have ofSecond := hexValue?_spec isTwo
      have ofThird := hexValue?_spec isThree
      have ofFourth := hexValue?_spec isFour
      exact ⟨by omega, .cons ofFirst.2 (.cons ofSecond.2 (.cons ofThird.2 (.cons ofFourth.2 (.refl _))))⟩
  | [] | [_] | [_, _] | [_, _, _] => cases read

/-- What an escape stands for, and what it leaves of a text. -/
structure Escapes (text rest : List Char) (code : Nat) : Prop where
  small : code < 0x110000
  goesOn : GoesOn text rest
  /-- A first half is not followed by the escape of a second half. -/
  apart : Text.isHighHalf code = true → StartsApart rest
  /-- A second half has an escape of its own. -/
  starts : Text.isLowHalf code = true → ∃ more after, text = 'u' :: more ∧ readUnit? more = some (code, after)

theorem escapes_pairedCode {text rest after : List Char} {unit code : Nat}
    (isUnit : readUnit? text = some (unit, rest)) (paired : pairedCode unit rest = (code, after)) :
    Escapes ('u' :: text) after code := by
  rcases readUnit?_spec isUnit with ⟨small, goesOn⟩
  have alone (apart : Text.isHighHalf unit = true → StartsApart rest) : Escapes ('u' :: text) rest unit :=
    ⟨by omega, .cons (by decide) goesOn, apart, fun _ => ⟨text, rest, rfl, isUnit⟩⟩
  unfold pairedCode at paired
  split at paired
  · next first =>
      split at paired
      · next more =>
          split at paired
          · next low others isLow =>
              rcases readUnit?_spec isLow with ⟨_, moreGoesOn⟩
              split at paired
              · next second =>
                  obtain ⟨rfl, rfl⟩ := Prod.mk.inj paired
                  have bounds := Text.pairCode_bounds first second
                  unfold Text.pairCode at bounds
                  refine ⟨bounds.2, .cons (by decide) (goesOn.trans (.cons (by decide) (.cons (by decide) moreGoesOn))),
                    fun high => ?_, fun isSecond => ?_⟩
                  · have := Text.isHighHalf_iff.mp high
                    omega
                  · have := Text.isLowHalf_iff.mp isSecond
                    omega
              · next noSecond =>
                  cases paired
                  apply alone
                  rintro _ _ other left shape read
                  cases shape
                  rw [isLow] at read
                  cases read
                  exact noSecond
          · next noUnit =>
              cases paired
              apply alone
              rintro _ _ other left shape read
              cases shape
              rw [noUnit] at read
              cases read
      · next noEscape =>
          cases paired
          apply alone
          rintro _ more other left shape _
          exact (noEscape more shape).elim
  · next noHigh =>
      cases paired
      exact alone fun high => (noHigh high).elim

theorem escapes_of_letter {letter : Char} {rest : List Char} {code : Nat} (unmarked : letter ≠ Text.selfMark)
    (ascii : code < 128) : Escapes (letter :: rest) rest code := by
  refine ⟨by omega, .cons unmarked (.refl _), fun high => ?_, fun low => ?_⟩
  · have := Text.isHighHalf_iff.mp high
    omega
  · have := Text.isLowHalf_iff.mp low
    omega

theorem escapes_of_readEscape? {text rest : List Char} {code : Nat} (read : readEscape? text = some (code, rest)) :
    Escapes text rest code := by
  unfold readEscape? at read
  split at read
  · next more =>
      rcases Option.bind_eq_some_iff.mp read with ⟨⟨unit, others⟩, isUnit, paired⟩
      exact escapes_pairedCode isUnit (Option.some.inj paired)
  all_goals cases read
  all_goals exact escapes_of_letter (by decide) (by decide)

/-- The characters that are read of a text, and what is left of it. -/
structure Denotes (text characters rest : List Char) (points : List Nat) : Prop where
  codes : characters = Text.ofCodes points
  small : ∀ code ∈ points, code < 0x110000
  settled : Text.joinHalves points = points
  /-- A text starts with a second half only if it has an escape. -/
  starts : ∀ code ∈ points.head?, Text.isLowHalf code = true →
    ∃ more after, text = '\\' :: 'u' :: more ∧ readUnit? more = some (code, after)
  plain : IsPlain rest

/-- One more code point before others, which is no first half before a second half. -/
theorem Denotes.cons {text others characters rest : List Char} {points : List Nat} {code : Nat}
    (denotes : Denotes others characters rest points) (small : code < 0x110000)
    (apart : Text.isHighHalf code = true → StartsApart others)
    (starts : Text.isLowHalf code = true →
      ∃ more after, text = '\\' :: 'u' :: more ∧ readUnit? more = some (code, after)) :
    Denotes text (Text.ofCode code ++ characters) rest (code :: points) := by
  refine ⟨by rw [denotes.codes]; rfl, List.forall_mem_cons.mpr ⟨small, denotes.small⟩, ?_, ?_, denotes.plain⟩
  · rw [Text.joinHalves_cons_of_apart, denotes.settled]
    intro next isNext both
    rw [Bool.and_eq_true] at both
    rcases denotes.starts next isNext both.2 with ⟨more, after, shape, read⟩
    exact apart both.1 more next after shape read both.2
  · intro other isFirst low
    cases isFirst
    exact starts low

/-- A character that stands for itself is no half. -/
theorem Denotes.cons_character {text others characters rest : List Char} {points : List Nat}
    (denotes : Denotes others characters rest points) (character : Char) :
    Denotes text (Text.ofCode character.toNat ++ characters) rest (character.toNat :: points) := by
  have noHalf := Text.isHalf_iff.not.mp (Bool.eq_false_iff.mp (Text.isHalf_toNat character))
  apply denotes.cons (Text.toNat_lt character)
  · intro high
    have := Text.isHighHalf_iff.mp high
    omega
  · intro low
    have := Text.isLowHalf_iff.mp low
    omega

theorem exists_denotes {fuel : Nat} {text characters rest : List Char} (plain : IsPlain text)
    (read : readText? fuel text = some (characters, rest)) : ∃ points, Denotes text characters rest points := by
  induction fuel using Nat.strong_induction_on generalizing text characters with
  | _ fuel ih =>
    match fuel, text with
    | 0, _ => cases read
    | _ + 1, [] => cases read
    | fuel + 1, character :: others =>
        rw [readText?] at read
        split at read
        · next quote =>
            cases read
            exact ⟨[], rfl, by simp, rfl, by simp, (Text.isPlain_of_cons plain (by subst quote; decide)).2⟩
        · next noQuote =>
            split at read
            · next backslash =>
                subst backslash
                simp only [Option.bind_eq_bind, Option.bind_eq_some_iff] at read
                rcases read with ⟨⟨code, after⟩, isEscape, ⟨more, left⟩, isMore, isText⟩
                cases isText
                have escapes := escapes_of_readEscape? isEscape
                have othersPlain := (Text.isPlain_of_cons plain (by decide)).2
                rcases ih fuel (by omega) (escapes.goesOn.isPlain othersPlain) isMore with ⟨points, denotes⟩
                refine ⟨code :: points, denotes.cons escapes.small escapes.apart fun low => ?_⟩
                rcases escapes.starts low with ⟨next, last, rfl, isUnit⟩
                exact ⟨next, last, rfl, isUnit⟩
            · next noBackslash =>
                split at read
                · cases read
                · simp only [Option.bind_eq_bind, Option.bind_eq_some_iff] at read
                  rcases read with ⟨⟨more, left⟩, isMore, isText⟩
                  cases isText
                  by_cases mark : character = Text.selfMark
                  · -- The mark and the character after it stand for one code point.
                    subst mark
                    rcases Text.exists_marked plain with ⟨marked, last, rfl, taken, lastPlain⟩
                    have bounds := Text.isTaken_iff.mp taken
                    have ne_of_small {other : Char} (small : other.toNat < 128) : marked ≠ other := by
                      rintro rfl
                      omega
                    cases fuel with
                    | zero => cases isMore
                    | succ fuel =>
                        rw [readText?, if_neg (ne_of_small (by decide)), if_neg (ne_of_small (by decide)),
                          if_neg (by omega)] at isMore
                        simp only [Option.bind_eq_bind, Option.bind_eq_some_iff] at isMore
                        rcases isMore with ⟨⟨tail, after⟩, isTail, isMore⟩
                        cases isMore
                        rcases ih fuel (by omega) lastPlain isTail with ⟨points, denotes⟩
                        have next : Denotes (Text.selfMark :: marked :: last) _ _ _ := denotes.cons_character marked
                        rw [Text.ofCode_toNat, if_pos taken] at next
                        exact ⟨_, next⟩
                  · rcases Text.isPlain_of_cons plain mark with ⟨free, othersPlain⟩
                    rcases ih fuel (by omega) othersPlain isMore with ⟨points, denotes⟩
                    have next : Denotes (character :: others) _ _ _ := denotes.cons_character character
                    rw [Text.ofCode_toNat, if_neg free] at next
                    exact ⟨_, next⟩

/-- A text that is read has its halves joined. -/
theorem joined_of_readText {text characters rest : List Char} (plain : IsPlain text)
    (read : readText text = .ok (characters, rest)) :
    Text.joined (String.ofList characters) = String.ofList characters ∧ IsPlain rest := by
  unfold readText at read
  split at read
  · next found isFound =>
      cases read
      rcases exists_denotes plain isFound with ⟨points, denotes⟩
      refine ⟨?_, denotes.plain⟩
      rw [Text.joined, String.toList_ofList, Text.joinedCharacters, denotes.codes, Text.codes_ofCodes denotes.small,
        denotes.settled]
  · cases read

theorem goesOn_spanDigits (text : List Char) : GoesOn text (spanDigits text).2 :=
  @goesOn_dropWhile Text.isDigit rfl text

theorem goesOn_readWhole? {text whole rest : List Char} (read : readWhole? text = some (whole, rest)) :
    GoesOn text rest := by
  unfold readWhole? at read
  split at read
  · cases read
    exact .cons (by decide) (.refl _)
  · dsimp only at read
    split at read
    · cases read
    · cases read
      exact goesOn_spanDigits text

theorem goesOn_readFraction (text : List Char) : GoesOn text (readFraction text).2 := by
  unfold readFraction
  split
  · next rest =>
      dsimp only
      split
      · exact .refl _
      · exact .cons (by decide) (goesOn_spanDigits rest)
  · exact .refl _

theorem goesOn_readExponent (text : List Char) : GoesOn text (readExponent text).2 := by
  unfold readExponent
  split
  · next mark rest =>
      split
      · next isMark =>
          have unmarked : mark ≠ Text.selfMark := by
            rintro rfl
            revert isMark
            decide
          split
          next negative unsigned isSigned =>
          have signed : GoesOn rest unsigned := by
            split at isSigned <;> cases isSigned
            · exact .cons (by decide) (.refl _)
            · exact .cons (by decide) (.refl _)
            · exact .refl _
          dsimp only
          split
          · exact .refl _
          · exact .cons unmarked (signed.trans (goesOn_spanDigits unsigned))
      · exact .refl _
  · exact .refl _

variable {levels : Nat}

theorem isValue_readUnsigned {negative : Bool} {text rest : List Char} {value : Data}
    (read : readUnsigned negative text = .ok (value, rest)) : IsValue levels value ∧ GoesOn text rest := by
  unfold readUnsigned at read
  split at read
  · cases read
  · next whole others isWhole =>
      have goesOn := (goesOn_readWhole? isWhole).trans
        ((goesOn_readFraction others).trans (goesOn_readExponent (readFraction others).2))
      dsimp only at read
      split at read
      · split at read
        · cases read
        · next short =>
            cases read
            exact ⟨.int (Text.isShowable_readDecimal (Nat.not_lt.mp short) negative), goesOn⟩
      · cases read
        refine ⟨.float ?_, goesOn⟩
        rw [readFloat, Binary64.isNaN_ofDecimal, if_neg Bool.false_ne_true]

theorem isValue_readScalar {text rest : List Char} {value : Data} (read : readScalar text = .ok (value, rest)) :
    IsValue levels value ∧ GoesOn text rest := by
  unfold readScalar at read
  split at read
  · next found isFound =>
      cases read
      unfold readWord? at isFound
      rcases List.exists_of_findSome?_eq_some isFound with ⟨⟨word, value⟩, wordMem, isWord⟩
      rcases Option.map_eq_some_iff.mp isWord with ⟨after, isAfter, isFound⟩
      cases isFound
      unfold afterWord? at isAfter
      split at isAfter
      case isFalse => cases isAfter
      next isPrefix =>
      cases isAfter
      have shape := List.prefix_iff_eq_append.mp (List.isPrefixOf_iff_prefix.mp isPrefix)
      have words : (word, value) ∈ [("null", Data.null), ("true", .bool true), ("false", .bool false),
          ("NaN", .float Binary64.nan), ("Infinity", .float (Binary64.infinity false)),
          ("-Infinity", .float (Binary64.infinity true))] := wordMem
      have each : IsValue levels value ∧ word.toList.all (· ≠ Text.selfMark) = true := by
        simp only [List.mem_cons, Prod.mk.injEq, List.not_mem_nil, or_false] at words
        rcases words with ⟨rfl, rfl⟩ | ⟨rfl, rfl⟩ | ⟨rfl, rfl⟩ | ⟨rfl, rfl⟩ | ⟨rfl, rfl⟩ | ⟨rfl, rfl⟩
        · exact ⟨.null, rfl⟩
        · exact ⟨.bool, rfl⟩
        · exact ⟨.bool, rfl⟩
        · exact ⟨.float rfl, rfl⟩
        · exact ⟨.float rfl, rfl⟩
        · exact ⟨.float rfl, rfl⟩
      refine ⟨each.1, word.toList, shape.symm, fun character characterMem => ?_⟩
      exact of_decide_eq_true (List.all_eq_true.mp each.2 character characterMem)
  · split at read
    · rcases isValue_readUnsigned read with ⟨isValue, goesOn⟩
      exact ⟨isValue, .cons (by decide) goesOn⟩
    · exact isValue_readUnsigned read

/-- What reading leaves of the text of a file, with values of which it is told. -/
structure Leaves (room fuel : Nat) : Prop where
  value : ∀ {text rest : List Char} {value : Data}, IsPlain text → readValue room fuel text = .ok (value, rest) →
    IsValue room value ∧ IsPlain rest
  items : ∀ {text rest : List Char} {items : List Data}, IsPlain text →
    readItems room fuel text = .ok (items, rest) → (∀ item ∈ items, IsValue room item) ∧ IsPlain rest
  entries : ∀ {text rest : List Char} {entries : List (Data × Data)}, IsPlain text →
    readEntries room fuel text = .ok (entries, rest) →
    (∃ members : List (String × Data), entries = Table.textual members ∧
      ∀ member ∈ members, Text.joined member.1 = member.1 ∧ IsValue room member.2) ∧ IsPlain rest

theorem isPlain_skipBlanks {text : List Char} (plain : IsPlain text) : IsPlain (skipBlanks text) :=
  (goesOn_skipBlanks text).isPlain plain

theorem isPlain_rest {character : Char} {rest : List Char} (plain : IsPlain (character :: rest))
    (ascii : character.toNat < 128) : IsPlain rest := by
  apply (Text.isPlain_of_cons plain _).2
  rintro rfl
  revert ascii
  decide

/-- Members of which later ones replace earlier ones are a mapping with different names. -/
theorem isValue_ofEntries {room : Nat} {members : List (String × Data)}
    (each : ∀ member ∈ members, Text.joined member.1 = member.1 ∧ IsValue room member.2) :
    IsValue (room + 1) (.map (Table.ofEntries (Table.textual members))) := by
  rw [Table.ofEntries_textual]
  have inside (entry : String × Data) (entryMem : entry ∈ Table.insertTexts [] members) : entry ∈ members :=
    (Table.mem_of_mem_insertTexts entryMem).resolve_left List.not_mem_nil
  apply IsValue.object
  · intro entry entryMem
    exact (each entry (inside entry entryMem)).2
  · intro entry entryMem
    exact (each entry (inside entry entryMem)).1
  · have bare : (List.map Prod.fst ([] : List (String × Data))).Nodup := List.nodup_nil
    exact Table.nodup_insertTexts bare members

theorem isValue_of_readValue {room fuel : Nat} (leaves : ∀ room, Leaves room fuel) {text rest : List Char} {value : Data}
    (plain : IsPlain text) (read : readValue room (fuel + 1) text = .ok (value, rest)) :
    IsValue room value ∧ IsPlain rest := by
  cases text with
  | nil => cases read
  | cons character others =>
      rw [readValue] at read
      split at read
      · next quote =>
          rcases bind_eq_ok.mp read with ⟨⟨characters, after⟩, isText, read⟩
          cases read
          rcases joined_of_readText (isPlain_rest plain (by subst quote; decide)) isText with ⟨settled, afterPlain⟩
          exact ⟨.text settled, afterPlain⟩
      · split at read
        · next bracket =>
            have othersPlain := isPlain_skipBlanks (isPlain_rest plain (by subst bracket; decide))
            cases room with
            | zero =>
                rw [if_pos rfl] at read
                cases read
            | succ room =>
                rw [if_neg (Nat.succ_ne_zero room)] at read
                dsimp only at read
                split at read
                · next after shape =>
                    cases read
                    rw [shape] at othersPlain
                    exact ⟨.list (by simp), isPlain_rest othersPlain (by decide)⟩
                · rcases bind_eq_ok.mp read with ⟨⟨items, after⟩, areItems, read⟩
                  cases read
                  rcases (leaves room).items othersPlain areItems with ⟨areValues, afterPlain⟩
                  exact ⟨.list areValues, afterPlain⟩
        · split at read
          · next brace =>
              have othersPlain := isPlain_skipBlanks (isPlain_rest plain (by rw [brace]; decide))
              cases room with
              | zero =>
                  rw [if_pos rfl] at read
                  cases read
              | succ room =>
                  rw [if_neg (Nat.succ_ne_zero room)] at read
                  dsimp only at read
                  split at read
                  · next closing more shape =>
                      rw [shape] at othersPlain
                      split at read
                      · next closes =>
                          cases read
                          have empty : IsValue (room + 1) (Data.object []) := .object (by simp) (by simp) (by simp)
                          exact ⟨empty, isPlain_rest othersPlain (by rw [closes]; decide)⟩
                      · rcases bind_eq_ok.mp read with ⟨⟨entries, after⟩, areEntries, read⟩
                        cases read
                        rcases (leaves room).entries othersPlain areEntries with ⟨⟨members, rfl, each⟩, afterPlain⟩
                        exact ⟨isValue_ofEntries each, afterPlain⟩
                  · cases read
          · rcases isValue_readScalar read with ⟨isValue, goesOn⟩
            exact ⟨isValue, goesOn.isPlain plain⟩

theorem leaves (room fuel : Nat) : Leaves room fuel := by
  induction fuel generalizing room with
  | zero =>
      refine ⟨?_, ?_, ?_⟩
      · intro _ _ _ _ read
        cases read
      · intro _ _ _ _ read
        cases read
      · intro _ _ _ _ read
        cases read
  | succ fuel ih =>
      refine ⟨isValue_of_readValue ih, ?_, ?_⟩
      · intro text rest items plain read
        rw [readItems] at read
        rcases bind_eq_ok.mp read with ⟨⟨item, after⟩, isItem, read⟩
        rcases (ih room).value plain isItem with ⟨isValue, afterPlain⟩
        have left := isPlain_skipBlanks afterPlain
        dsimp only at read
        split at read
        · next more shape =>
            rw [shape] at left
            rcases bind_eq_ok.mp read with ⟨⟨others, last⟩, areOthers, read⟩
            cases read
            rcases (ih room).items (isPlain_skipBlanks (isPlain_rest left (by decide))) areOthers with
              ⟨areValues, lastPlain⟩
            exact ⟨List.forall_mem_cons.mpr ⟨isValue, areValues⟩, lastPlain⟩
        · next more shape =>
            rw [shape] at left
            cases read
            exact ⟨List.forall_mem_singleton.mpr isValue, isPlain_rest left (by decide)⟩
        · cases read
      · intro text rest entries plain read
        unfold readEntries at read
        split at read
        · next named =>
            rcases bind_eq_ok.mp read with ⟨⟨name, after⟩, isName, read⟩
            rcases joined_of_readText (isPlain_rest plain (by decide)) isName with ⟨settled, afterPlain⟩
            have colon := isPlain_skipBlanks afterPlain
            dsimp only at read
            split at read
            · next afterColon shape =>
                rw [shape] at colon
                rcases bind_eq_ok.mp read with ⟨⟨value, afterValue⟩, isRead, read⟩
                rcases (ih room).value (isPlain_skipBlanks (isPlain_rest colon (by decide))) isRead with
                  ⟨isValue, valuePlain⟩
                have left := isPlain_skipBlanks valuePlain
                dsimp only at read
                split at read
                · next closing more shape =>
                    rw [shape] at left
                    split at read
                    · next comma =>
                        rcases bind_eq_ok.mp read with ⟨⟨others, last⟩, areOthers, read⟩
                        cases read
                        have morePlain := isPlain_skipBlanks (isPlain_rest left (by rw [comma]; decide))
                        rcases (ih room).entries morePlain areOthers with ⟨⟨members, rfl, each⟩, lastPlain⟩
                        exact ⟨⟨(String.ofList name, value) :: members, rfl,
                          List.forall_mem_cons.mpr ⟨⟨settled, isValue⟩, each⟩⟩, lastPlain⟩
                    · split at read
                      · next closes =>
                          cases read
                          exact ⟨⟨[(String.ofList name, value)], rfl,
                            List.forall_mem_singleton.mpr ⟨settled, isValue⟩⟩,
                            isPlain_rest left (by rw [closes]; decide)⟩
                      · cases read
                · cases read
            · cases read
        · cases read

/-- What is read of the text of a file has no more levels than there was room for. -/
theorem isValue_read {room : Nat} {text : String} (plain : IsPlain text.toList) {value : Data}
    (isRead : readWithin room text = .ok value) : IsValue room value := by
  unfold readWithin readCharacters at isRead
  rcases bind_eq_ok.mp isRead with ⟨⟨found, rest⟩, isFound, isRead⟩
  dsimp only at isRead
  split at isRead
  · cases isRead
    exact ((leaves _ _).value (isPlain_skipBlanks plain) isFound).1
  · cases isRead

/-- A value that was read has one text, however often it is written and read. -/
theorem IsValue.written_reread (layout : Layout) {value : Data} (isValue : IsValue levels value) (depth : Nat) :
    written layout depth (reread layout value) = written layout depth value := by
  induction isValue generalizing depth with
  | null => rfl
  | bool => rfl
  | int => rfl
  | float => rfl
  | text settled => rw [reread_text, settled]
  | @list levels items _ ih =>
      rw [reread_list, written_list, written_list, List.mapM_map]
      congr 1
      exact mapM_congr_left fun item itemMem => ih item itemMem (depth + 1)
  | @object levels entries _ settled _ ih =>
      have same := ordered_perm layout entries
      have keys : ((ordered layout entries).map fun entry => (Text.joined entry.1, reread layout entry.2)) =
          (ordered layout entries).map fun entry => (entry.1, reread layout entry.2) :=
        List.map_congr_left fun entry entryMem => by rw [settled entry (same.mem_iff.mp entryMem)]
      rw [reread_object, keys, written_object, written_object, ordered_map, ordered_ordered, List.mapM_map]
      congr 1
      apply mapM_congr_left
      intro entry entryMem
      rw [Function.comp_apply, ih entry (same.mem_iff.mp entryMem)]

/-- What JSON has a form for is read back as a value that was read. -/
theorem IsTree.isValue_reread (layout : Layout) {value : Data} (isTree : IsTree levels value) :
    IsValue levels (reread layout value) := by
  induction isTree with
  | null => exact .null
  | bool => exact .bool
  | int showable => exact .int showable
  | float canonical => exact .float canonical
  | text =>
      rw [reread_text]
      exact .text (Text.joined_joined _)
  | list _ ih =>
      rw [reread_list]
      exact .list (List.forall_mem_map.mpr ih)
  | @object levels entries _ apart ih =>
      have same := ordered_perm layout entries
      rw [reread_object]
      apply IsValue.object
      · exact List.forall_mem_map.mpr fun entry entryMem => ih entry (same.mem_iff.mp entryMem)
      · exact List.forall_mem_map.mpr fun entry _ => Text.joined_joined entry.1
      · have names : ((ordered layout entries).map fun entry => Text.joined entry.1).Perm
            (entries.map fun entry => Text.joined entry.1) := same.map _
        rw [List.map_map]
        exact names.nodup_iff.mpr apart

end Json

end SpecGraph
