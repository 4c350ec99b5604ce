import SpecGraph.Files
import SpecGraph.Proofs.Text.CodePoints

/-!
# Texts of files

A file holds characters, each of which stands for itself in the text of the file: it is there as it is, or with a
mark before it if it is one that a half could be taken for. So a text of a file can be cut behind every character
that is no mark, and it is still a text of a file when its line ends are made line feeds.
-/

namespace SpecGraph

namespace Text

/-- The characters are those of a text in which every character stands for itself. -/
def IsPlain (characters : List Char) : Prop :=
  ∃ plain : List Char, characters = plain.flatMap fun character => ofCode character.toNat

theorem isHalf_toNat (character : Char) : isHalf character.toNat = false := by
  have valid := character.valid
  simp only [UInt32.isValidChar, Nat.isValidChar] at valid
  rw [← Bool.not_eq_true, isHalf_iff]
  change ¬(0xD800 ≤ character.val.toNat ∧ character.val.toNat < 0xE000)
  omega

theorem ofCode_toNat (character : Char) :
    ofCode character.toNat = if isTaken character.toNat then [selfMark, character] else [character] := by
  rw [ofCode, isHalf_toNat, if_neg Bool.false_ne_true, Char.ofNat_toNat]

theorem isTaken_selfMark : isTaken selfMark.toNat = true := rfl

/-- A character that is no mark stands alone. -/
theorem isPlain_of_cons {character : Char} {rest : List Char} (plain : IsPlain (character :: rest))
    (unmarked : character ≠ selfMark) : ¬isTaken character.toNat = true ∧ IsPlain rest := by
  rcases plain with ⟨_ | ⟨first, others⟩, shape⟩
  · cases shape
  · rw [List.flatMap_cons, ofCode_toNat] at shape
    split at shape
    · exact (unmarked (List.cons.inj shape).1).elim
    · next free =>
        rcases List.cons.inj shape with ⟨rfl, isRest⟩
        exact ⟨free, others, isRest⟩

/-- After a mark stands a character that needs one. -/
theorem exists_marked {rest : List Char} (plain : IsPlain (selfMark :: rest)) :
    ∃ marked others, rest = marked :: others ∧ isTaken marked.toNat = true ∧ IsPlain others := by
  rcases plain with ⟨_ | ⟨first, others⟩, shape⟩
  · cases shape
  · rw [List.flatMap_cons, ofCode_toNat] at shape
    split at shape
    · next taken =>
        rw [List.cons_append, List.singleton_append] at shape
        exact ⟨first, _, (List.cons.inj shape).2, taken, others, rfl⟩
    · next free =>
        rcases List.cons.inj shape with ⟨rfl, _⟩
        exact (free isTaken_selfMark).elim

/-- What comes after characters that are no marks. -/
theorem isPlain_of_append {front rest : List Char} (plain : IsPlain (front ++ rest))
    (unmarked : ∀ character ∈ front, character ≠ selfMark) : IsPlain rest := by
  induction front with
  | nil => exact plain
  | cons character others ih =>
      rw [List.forall_mem_cons] at unmarked
      exact ih (isPlain_of_cons plain unmarked.1).2 unmarked.2

theorem withLineFeeds_cons {character : Char} (noReturn : character ≠ '\r') (rest : List Char) :
    Files.withLineFeeds (character :: rest) = character :: Files.withLineFeeds rest := by
  apply Files.withLineFeeds.eq_4
  · rintro _ rfl
    exact (noReturn rfl).elim
  · rintro rfl
    exact noReturn rfl

/-- A character is written with or without a mark, which is no line end. -/
theorem withLineFeeds_ofCode_append {character : Char} (noReturn : character ≠ '\r') (rest : List Char) :
    Files.withLineFeeds (ofCode character.toNat ++ rest) = ofCode character.toNat ++ Files.withLineFeeds rest := by
  rw [ofCode_toNat]
  split
  · simp only [List.cons_append, List.nil_append]
    rw [withLineFeeds_cons (by decide), withLineFeeds_cons noReturn]
  · exact withLineFeeds_cons noReturn rest

theorem withLineFeeds_flatMap (plain : List Char) :
    Files.withLineFeeds (plain.flatMap fun character => ofCode character.toNat) =
      (Files.withLineFeeds plain).flatMap fun character => ofCode character.toNat := by
  have ofReturn : ofCode ('\r').toNat = ['\r'] := rfl
  induction plain using Files.withLineFeeds.induct with
  | case1 => rfl
  | case2 rest ih =>
      change '\n' :: Files.withLineFeeds (rest.flatMap _) = '\n' :: (Files.withLineFeeds rest).flatMap _
      rw [ih]
  | case3 rest apart ih =>
      have noFeed : ∀ others, (rest.flatMap fun character => ofCode character.toNat) ≠ '\n' :: others := by
        intro others shape
        cases rest with
        | nil => cases shape
        | cons first more =>
            rw [List.flatMap_cons, ofCode_toNat] at shape
            split at shape
            · cases shape
            · exact apart more (congrArg (· :: more) (List.cons.inj shape).1)
      rw [List.flatMap_cons, ofReturn, List.singleton_append, Files.withLineFeeds.eq_3 _ noFeed, ih,
        Files.withLineFeeds.eq_3 _ apart]
      rfl
  | case4 character rest notBoth notReturn ih =>
      have noReturn : character ≠ '\r' := notReturn
      rw [List.flatMap_cons, withLineFeeds_ofCode_append noReturn, ih, withLineFeeds_cons noReturn,
        List.flatMap_cons]

/-- A text of a file is read as one. -/
theorem isPlain_readText {text : String} (plain : IsPlain text.toList) : IsPlain (Files.readText text).toList := by
  rcases plain with ⟨characters, shape⟩
  rw [Files.readText, String.toList_ofList, shape, withLineFeeds_flatMap]
  exact ⟨_, rfl⟩

end Text

end SpecGraph
