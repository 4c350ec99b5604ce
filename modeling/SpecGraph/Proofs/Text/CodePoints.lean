import Mathlib.Data.Char
import Mathlib.Data.List.Basic
import SpecGraph.Text.CodePoints

/-!
# Joining the halves of pairs

A text stands for a sequence of code points, in which the first half of a UTF-16 pair may stand directly
before a second half. Written unit by unit, the two look like the one character that they encode, so a
text that is read back has that character in their place. `joined` is the text that is read back. Joining
twice is joining once, and a text without such a pair stays as it is.
-/

namespace SpecGraph

namespace Text

/-- The code point that a first half and a second half encode together. -/
def pairCode (high low : Nat) : Nat := 0x10000 + (high - 0xD800) * 0x400 + (low - 0xDC00)

/-- Code points with the one they encode in the place of a first half and the second half after it. -/
def joinHalves : List Nat → List Nat
  | high :: low :: rest =>
      if isHighHalf high && isLowHalf low then pairCode high low :: joinHalves rest
      else high :: joinHalves (low :: rest)
  | short => short

/-- The characters of some code points. -/
def ofCodes (points : List Nat) : List Char := points.flatMap ofCode

/-- The characters of a text in which each first half and the second half after it are joined. -/
def joinedCharacters (characters : List Char) : List Char := ofCodes (joinHalves (codes characters))

/-- A text in which each first half and the second half after it are joined. -/
def joined (text : String) : String := String.ofList (joinedCharacters text.toList)

/-- A text has no two halves of a code point that are joined. -/
def isSettled (text : String) : Bool := joined text == text

theorem isHighHalf_iff {code : Nat} : isHighHalf code = true ↔ 0xD800 ≤ code ∧ code < 0xDC00 := by
  simp [isHighHalf]

theorem isLowHalf_iff {code : Nat} : isLowHalf code = true ↔ 0xDC00 ≤ code ∧ code < 0xE000 := by
  simp [isLowHalf]

theorem isHalf_iff {code : Nat} : isHalf code = true ↔ 0xD800 ≤ code ∧ code < 0xE000 := by
  simp [isHalf]

theorem isTaken_iff {code : Nat} : isTaken code = true ↔ 0xDD800 ≤ code ∧ code ≤ 0xDE000 := by
  simp [isTaken]

theorem toNat_ofNat_of_lt {code : Nat} (beforeHalves : code < 0xD800) :
    (Char.ofNat code).toNat = code := by
  rw [Char.ofNat, dif_pos (Or.inl beforeHalves)]
  rfl

theorem toNat_ofNat_of_gt {code : Nat} (afterHalves : 0xDFFF < code) (small : code < 0x110000) :
    (Char.ofNat code).toNat = code := by
  rw [Char.ofNat, dif_pos (Or.inr ⟨afterHalves, small⟩)]
  rfl

theorem toNat_lt (character : Char) : character.toNat < 0x110000 := by
  have valid := character.valid
  simp only [UInt32.isValidChar, Nat.isValidChar] at valid
  change character.val.toNat < _
  omega

theorem codes_selfMark (marked : Char) (rest : List Char) :
    codes (selfMark :: marked :: rest) = marked.toNat :: codes rest := by
  rw [codes.eq_def]
  exact if_pos rfl

theorem codes_taken {character : Char} (unmarked : character ≠ selfMark)
    (taken : isTaken character.toNat) (rest : List Char) :
    codes (character :: rest) = (character.toNat - halfShift) :: codes rest := by
  rw [codes.eq_def]
  exact (if_neg unmarked).trans (if_pos taken)

theorem codes_plain {character : Char} (unmarked : character ≠ selfMark)
    (free : ¬isTaken character.toNat) (rest : List Char) :
    codes (character :: rest) = character.toNat :: codes rest := by
  rw [codes.eq_def]
  exact (if_neg unmarked).trans (if_neg free)

theorem ne_selfMark_of_toNat {character : Char} (other : character.toNat ≠ 0xDE000) :
    character ≠ selfMark := by
  rintro rfl
  exact other (toNat_ofNat_of_gt (by omega) (by omega))

/-- The code points of the characters of a code point are that code point. -/
theorem codes_ofCode_append {code : Nat} (small : code < 0x110000) (rest : List Char) :
    codes (ofCode code ++ rest) = code :: codes rest := by
  by_cases half : isHalf code = true
  · have bounds := isHalf_iff.mp half
    have shifted : (Char.ofNat (code + halfShift)).toNat = code + halfShift := by
      apply toNat_ofNat_of_gt <;> simp only [halfShift] <;> omega
    have taken : isTaken (Char.ofNat (code + halfShift)).toNat := by
      rw [shifted, isTaken_iff, halfShift]
      omega
    have unmarked : Char.ofNat (code + halfShift) ≠ selfMark := by
      apply ne_selfMark_of_toNat
      rw [shifted, halfShift]
      omega
    rw [ofCode, if_pos half, List.singleton_append, codes_taken unmarked taken, shifted,
      Nat.add_sub_cancel]
  · by_cases taken : isTaken code = true
    · have bounds := isTaken_iff.mp taken
      have itself := toNat_ofNat_of_gt (by omega) small
      rw [ofCode, if_neg half, if_pos taken, List.cons_append, List.singleton_append,
        codes_selfMark, itself]
    · have outside : code < 0xD800 ∨ 0xDFFF < code := by
        rw [isHalf_iff] at half
        omega
      have itself : (Char.ofNat code).toNat = code := by
        rcases outside with before | after
        · exact toNat_ofNat_of_lt before
        · exact toNat_ofNat_of_gt after small
      have unmarked : Char.ofNat code ≠ selfMark := by
        apply ne_selfMark_of_toNat
        rw [itself]
        rintro rfl
        exact taken rfl
      rw [ofCode, if_neg half, if_neg taken, List.singleton_append,
        codes_plain unmarked (by rwa [itself]), itself]

/-- The code points of the characters of code points are those code points. -/
theorem codes_ofCodes {points : List Nat} (small : ∀ code ∈ points, code < 0x110000) :
    codes (ofCodes points) = points := by
  induction points with
  | nil => rfl
  | cons code rest ih =>
      have tail : codes (ofCodes rest) = rest :=
        ih fun other other_mem => small other (List.mem_cons_of_mem _ other_mem)
      rw [ofCodes, List.flatMap_cons, codes_ofCode_append (small code List.mem_cons_self)]
      exact congrArg (code :: ·) tail

/-- Every code point of a text is one that can be encoded. -/
theorem codes_lt (characters : List Char) : ∀ code ∈ codes characters, code < 0x110000 := by
  induction characters using codes.induct with
  | case1 =>
      intro code code_mem
      cases code_mem
  | case2 marked rest ih =>
      rw [codes_selfMark]
      intro code code_mem
      rcases List.mem_cons.mp code_mem with rfl | rest_mem
      · exact toNat_lt marked
      · exact ih code rest_mem
  | case3 =>
      intro code code_mem
      rcases List.mem_cons.mp code_mem with rfl | rest_mem
      · exact toNat_lt selfMark
      · cases rest_mem
  | case4 character rest unmarked taken ih =>
      rw [codes_taken unmarked taken]
      intro code code_mem
      rcases List.mem_cons.mp code_mem with head | rest_mem
      · have small := toNat_lt character
        omega
      · exact ih code rest_mem
  | case5 character rest unmarked free ih =>
      rw [codes_plain unmarked free]
      intro code code_mem
      rcases List.mem_cons.mp code_mem with rfl | rest_mem
      · exact toNat_lt character
      · exact ih code rest_mem

theorem pairCode_bounds {high low : Nat} (first : isHighHalf high) (second : isLowHalf low) :
    0xFFFF < pairCode high low ∧ pairCode high low < 0x110000 := by
  have firstBounds := isHighHalf_iff.mp first
  have secondBounds := isLowHalf_iff.mp second
  unfold pairCode
  omega

theorem joinHalves_lt {points : List Nat} (small : ∀ code ∈ points, code < 0x110000) :
    ∀ code ∈ joinHalves points, code < 0x110000 := by
  induction points using joinHalves.induct with
  | case1 high low rest pair ih =>
      have halves := (Bool.and_eq_true _ _).mp pair
      rw [joinHalves, if_pos pair]
      intro code code_mem
      rcases List.mem_cons.mp code_mem with head | rest_mem
      · exact head ▸ (pairCode_bounds halves.1 halves.2).2
      · exact ih (fun other other_mem => small other (by simp [other_mem])) code rest_mem
  | case2 high low rest apart ih =>
      rw [joinHalves, if_neg apart]
      intro code code_mem
      rcases List.mem_cons.mp code_mem with head | rest_mem
      · exact head ▸ small high List.mem_cons_self
      · exact ih (fun other other_mem => small other (List.mem_cons_of_mem _ other_mem)) code rest_mem
  | case3 short notLong =>
      rwa [joinHalves]
      exact notLong

/-- The first code point after joining is no second half unless it was there before. -/
theorem head_joinHalves {points : List Nat} {code : Nat} (second : isLowHalf code)
    (head : (joinHalves points).head? = some code) : points.head? = some code := by
  induction points using joinHalves.induct with
  | case1 high low rest pair _ =>
      have halves := (Bool.and_eq_true _ _).mp pair
      have large := (pairCode_bounds halves.1 halves.2).1
      have small := (isLowHalf_iff.mp second).2
      rw [joinHalves, if_pos pair] at head
      have same := Option.some.inj head
      omega
  | case2 high low rest apart _ =>
      rw [joinHalves, if_neg apart] at head
      exact head
  | case3 short notLong =>
      rw [joinHalves] at head
      · exact head
      · exact notLong

theorem joinHalves_cons_of_apart {code : Nat} {rest : List Nat}
    (apart : ∀ next ∈ rest.head?, ¬(isHighHalf code && isLowHalf next) = true) :
    joinHalves (code :: rest) = code :: joinHalves rest := by
  cases rest with
  | nil => rfl
  | cons next others => rw [joinHalves, if_neg (apart next rfl)]

/-- Joining twice is joining once. -/
theorem joinHalves_joinHalves (points : List Nat) :
    joinHalves (joinHalves points) = joinHalves points := by
  induction points using joinHalves.induct with
  | case1 high low rest pair ih =>
      have halves := (Bool.and_eq_true _ _).mp pair
      have large := (pairCode_bounds halves.1 halves.2).1
      rw [joinHalves, if_pos pair, joinHalves_cons_of_apart, ih]
      intro next _ both
      have small := (isHighHalf_iff.mp ((Bool.and_eq_true _ _).mp both).1).2
      omega
  | case2 high low rest apart ih =>
      rw [joinHalves, if_neg apart, joinHalves_cons_of_apart, ih]
      intro next next_mem both
      have second := ((Bool.and_eq_true _ _).mp both).2
      have head : (low :: rest).head? = some next := head_joinHalves second next_mem
      have same := Option.some.inj head
      exact apart (same ▸ both)
  | case3 short notLong =>
      have stays : joinHalves short = short := joinHalves.eq_2 short notLong
      rw [stays, stays]

theorem codes_joinedCharacters (characters : List Char) :
    codes (joinedCharacters characters) = joinHalves (codes characters) :=
  codes_ofCodes (joinHalves_lt (codes_lt characters))

/-- A text that was read back is read back as it is. -/
@[simp]
theorem joined_joined (text : String) : joined (joined text) = joined text := by
  simp only [joined, String.toList_ofList]
  rw [joinedCharacters, codes_joinedCharacters, joinHalves_joinHalves, ← joinedCharacters]

end Text

end SpecGraph
