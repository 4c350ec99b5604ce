import Mathlib.Data.List.Basic
import SpecGraph.Json.Reader
import SpecGraph.Json.Writer
import SpecGraph.Proofs.Text.CodePoints
import SpecGraph.Proofs.Text.Numeral

/-!
# Reading written texts

A written text is read back code point by code point: what stands for a code point is read as the code
point. The one exception is the first half of a pair directly before a second half. What stands for the
two is what stands for the code point that they encode, and it is read as that code point. So a text is
read back with its halves joined.
-/

namespace SpecGraph

namespace Json

/-- The code points of a text inside the quotes of a JSON text. -/
def escaped (points : List Nat) : List Char := points.flatMap escapedCode

theorem escaped_cons (code : Nat) (rest : List Nat) :
    escaped (code :: rest) = escapedCode code ++ escaped rest := rfl

theorem writtenText_eq (characters : List Char) :
    writtenText characters = '"' :: (escaped (Text.codes characters) ++ ['"']) := rfl

/-- The digits of a unit are read as the unit. -/
theorem readUnit?_hexadecimal {unit : Nat} (small : unit < 0x10000) (rest : List Char) :
    readUnit? (Text.hexadecimal Text.lowerHexDigit 4 unit ++ rest) = some (unit, rest) := by
  have digit (value : Nat) : Text.hexValue? (Text.lowerHexDigit (value % 16)) = some (value % 16) :=
    Text.hexValue?_lowerHexDigit (Nat.mod_lt _ (by omega))
  have whole : ((unit / 16 / 16 / 16 % 16 * 16 + unit / 16 / 16 % 16) * 16 + unit / 16 % 16) * 16 +
      unit % 16 = unit := by
    omega
  simp only [Text.hexadecimal, List.nil_append, List.cons_append, readUnit?, digit,
    Option.bind_eq_bind, Option.bind_some, whole]
  rfl

/-- A unit that is no first half is read alone. -/
theorem readEscape?_unit {unit : Nat} (small : unit < 0x10000) (single : ¬Text.isHighHalf unit = true)
    (rest : List Char) :
    readEscape? ('u' :: Text.hexadecimal Text.lowerHexDigit 4 unit ++ rest) = some (unit, rest) := by
  rw [List.cons_append]
  simp [readEscape?, readUnit?_hexadecimal small, pairedCode, single]

/-- A first half before a second half is read together with it. -/
theorem readEscape?_pair {high low : Nat} (first : Text.isHighHalf high = true)
    (second : Text.isLowHalf low = true) (rest : List Char) :
    readEscape? ('u' :: Text.hexadecimal Text.lowerHexDigit 4 high ++ (unitEscape low ++ rest)) =
      some (Text.pairCode high low, rest) := by
  have firstBounds := Text.isHighHalf_iff.mp first
  have secondBounds := Text.isLowHalf_iff.mp second
  have highSmall : high < 0x10000 := by omega
  have lowSmall : low < 0x10000 := by omega
  rw [List.cons_append]
  simp only [readEscape?, readUnit?_hexadecimal highSmall, Option.bind_eq_bind, Option.bind_some]
  simp only [pairedCode, if_pos first, unitEscape, List.cons_append, readUnit?_hexadecimal lowSmall,
    if_pos second]
  rfl

/-- The text starts with no escape of a second half. -/
def StartsApart (text : List Char) : Prop :=
  ∀ more unit after, text = '\\' :: 'u' :: more → readUnit? more = some (unit, after) →
    ¬Text.isLowHalf unit = true

/-- A first half is read alone where no second half comes after it. -/
theorem readEscape?_half {high : Nat} (first : Text.isHighHalf high = true) {rest : List Char}
    (apart : StartsApart rest) :
    readEscape? ('u' :: Text.hexadecimal Text.lowerHexDigit 4 high ++ rest) = some (high, rest) := by
  have bounds := Text.isHighHalf_iff.mp first
  have small : high < 0x10000 := by omega
  rw [List.cons_append]
  simp only [readEscape?, readUnit?_hexadecimal small, Option.bind_eq_bind, Option.bind_some]
  unfold pairedCode
  rw [if_pos first]
  split
  · next more =>
      split
      · next low after found =>
          rw [if_neg (apart more low after rfl found)]
          rfl
      · rfl
  · rfl

/-- What stands for a code point beyond the first plane is two units. -/
theorem escapedCode_large {code : Nat} (large : 0x10000 ≤ code) :
    escapedCode code = unitEscape (0xD800 + (code - 0x10000) / 0x400) ++
      unitEscape (0xDC00 + (code - 0x10000) % 0x400) := by
  have quote : ('"').toNat = 34 := rfl
  have backslash : ('\\').toNat = 92 := rfl
  have feed : ('\n').toNat = 10 := rfl
  have back : ('\r').toNat = 13 := rfl
  have tab : ('\t').toNat = 9 := rfl
  rw [escapedCode, quote, backslash, feed, back, tab]
  rw [if_neg (by omega), if_neg (by omega), if_neg (by omega), if_neg (by omega), if_neg (by omega),
    if_neg (by omega), if_neg (by omega), if_neg (by omega), if_neg (by omega)]

/-- What stands for a code point of the first plane beyond ASCII is one unit. -/
theorem escapedCode_unit {code : Nat} (beyond : 127 ≤ code) (small : code < 0x10000) :
    escapedCode code = unitEscape code := by
  have quote : ('"').toNat = 34 := rfl
  have backslash : ('\\').toNat = 92 := rfl
  have feed : ('\n').toNat = 10 := rfl
  have back : ('\r').toNat = 13 := rfl
  have tab : ('\t').toNat = 9 := rfl
  rw [escapedCode, quote, backslash, feed, back, tab]
  rw [if_neg (by omega), if_neg (by omega), if_neg (by omega), if_neg (by omega), if_neg (by omega),
    if_neg (by omega), if_neg (by omega), if_neg (by omega), if_pos small]

/-- An escape stands for its code point. -/
theorem readText?_escape {text rest : List Char} {code : Nat}
    (read : readEscape? text = some (code, rest)) (fuel : Nat) :
    readText? (fuel + 1) ('\\' :: text) =
      (readText? fuel rest).map fun found => (Text.ofCode code ++ found.1, found.2) := by
  have quote : ('\\' : Char) ≠ '"' := by decide
  rw [readText?, if_neg quote, if_pos rfl, read]
  simp only [Option.bind_eq_bind, Option.bind_some]
  cases readText? fuel rest <;> rfl

/-- What stands for an ASCII code point: an escape of its own, a unit, or the character. -/
theorem escapedCode_ascii {code : Nat} (small : code < 127) :
    (∃ letter, escapedCode code = ['\\', letter] ∧
      ∀ rest, readEscape? (letter :: rest) = some (code, rest)) ∨
    (code < 32 ∧ escapedCode code = unitEscape code) ∨
    (32 ≤ code ∧ code ≠ '"'.toNat ∧ code ≠ '\\'.toNat ∧ escapedCode code = [Char.ofNat code]) := by
  by_cases quote : code = '"'.toNat
  · exact Or.inl ⟨'"', by rw [quote]; rfl, fun rest => by rw [quote]; rfl⟩
  by_cases backslash : code = '\\'.toNat
  · exact Or.inl ⟨'\\', by rw [backslash]; rfl, fun rest => by rw [backslash]; rfl⟩
  by_cases feed : code = '\n'.toNat
  · exact Or.inl ⟨'n', by rw [feed]; rfl, fun rest => by rw [feed]; rfl⟩
  by_cases back : code = '\r'.toNat
  · exact Or.inl ⟨'r', by rw [back]; rfl, fun rest => by rw [back]; rfl⟩
  by_cases tab : code = '\t'.toNat
  · exact Or.inl ⟨'t', by rw [tab]; rfl, fun rest => by rw [tab]; rfl⟩
  by_cases page : code = 12
  · exact Or.inl ⟨'f', by rw [page]; rfl, fun rest => by rw [page]; rfl⟩
  by_cases erase : code = 8
  · exact Or.inl ⟨'b', by rw [erase]; rfl, fun rest => by rw [erase]; rfl⟩
  right
  rw [escapedCode, if_neg quote, if_neg backslash, if_neg feed, if_neg back, if_neg tab, if_neg page,
    if_neg erase]
  by_cases visible : 32 ≤ code
  · exact Or.inr ⟨visible, quote, backslash, if_pos ⟨visible, small⟩⟩
  · refine Or.inl ⟨by omega, ?_⟩
    rw [if_neg fun both => visible both.1, if_pos (by omega)]

/-- What stands for an ASCII code point is read as the code point. -/
theorem readText?_ascii {code : Nat} (small : code < 127) (fuel : Nat) (rest : List Char) :
    readText? (fuel + 1) (escapedCode code ++ rest) =
      (readText? fuel rest).map fun found => (Text.ofCode code ++ found.1, found.2) := by
  rcases escapedCode_ascii small with
    ⟨letter, escape, read⟩ | ⟨control, escape⟩ | ⟨visible, quote, backslash, plain⟩
  · rw [escape]
    exact readText?_escape (read rest) fuel
  · have single : ¬Text.isHighHalf code = true := by
      rw [Text.isHighHalf_iff]
      omega
    rw [escape]
    exact readText?_escape (readEscape?_unit (by omega) single rest) fuel
  · have itself : (Char.ofNat code).toNat = code := Text.toNat_ofNat_of_lt (by omega)
    have noQuote : Char.ofNat code ≠ '"' := fun same => quote (by rw [← same, itself])
    have noBackslash : Char.ofNat code ≠ '\\' := fun same => backslash (by rw [← same, itself])
    have alone : Text.ofCode code = [Char.ofNat code] := by
      have noHalf : ¬Text.isHalf code = true := by
        rw [Text.isHalf_iff]
        omega
      have free : ¬Text.isTaken code = true := by
        rw [Text.isTaken_iff]
        omega
      rw [Text.ofCode, if_neg noHalf, if_neg free]
    rw [plain, List.singleton_append, readText?, if_neg noQuote, if_neg noBackslash,
      if_neg (by rw [itself]; omega), alone]
    cases readText? fuel rest <;> rfl

/-- A text that starts with a unit starts with no second half if the unit is none. -/
theorem startsApart_unitEscape {unit : Nat} (small : unit < 0x10000)
    (single : ¬Text.isLowHalf unit = true) (rest : List Char) :
    StartsApart (unitEscape unit ++ rest) := by
  intro more found after shape read
  rw [unitEscape, List.cons_append, List.cons_append] at shape
  injection shape with _ shape
  injection shape with _ shape
  rw [← shape, readUnit?_hexadecimal small] at read
  injection read with read
  injection read with same
  rwa [← same]

/-- No code point but a second half has an escape that reads as one. -/
theorem startsApart_escapedCode {code : Nat} (small : code < 0x110000)
    (single : ¬Text.isLowHalf code = true) (rest : List Char) :
    StartsApart (escapedCode code ++ rest) := by
  by_cases ascii : code < 127
  · rcases escapedCode_ascii ascii with
      ⟨letter, escape, readLetter⟩ | ⟨control, escape⟩ | ⟨visible, _, backslash, plain⟩
    · intro more unit after shape read
      rw [escape, List.cons_append, List.singleton_append] at shape
      injection shape with _ shape
      injection shape with isUnit shape
      have none := readLetter []
      rw [isUnit] at none
      cases none
    · rw [escape]
      exact startsApart_unitEscape (by omega) single rest
    · intro more unit after shape read
      rw [plain, List.singleton_append] at shape
      injection shape with same
      refine absurd ?_ backslash
      rw [← same]
      exact (Text.toNat_ofNat_of_lt (by omega)).symm
  · by_cases plane : code < 0x10000
    · rw [escapedCode_unit (by omega) plane]
      exact startsApart_unitEscape plane single rest
    · rw [escapedCode_large (by omega), List.append_assoc]
      refine startsApart_unitEscape (by omega) ?_ _
      rw [Text.isLowHalf_iff]
      omega

/-- What stands for a code point is read as the code point, unless it is half a pair with the other half
after it. -/
theorem readText?_escapedCode {code : Nat} (small : code < 0x110000) {rest : List Char}
    (apart : Text.isHighHalf code = true → StartsApart rest) (fuel : Nat) :
    readText? (fuel + 1) (escapedCode code ++ rest) =
      (readText? fuel rest).map fun found => (Text.ofCode code ++ found.1, found.2) := by
  by_cases ascii : code < 127
  · exact readText?_ascii ascii fuel rest
  by_cases plane : code < 0x10000
  · rw [escapedCode_unit (by omega) plane]
    by_cases first : Text.isHighHalf code = true
    · exact readText?_escape (readEscape?_half first (apart first)) fuel
    · exact readText?_escape (readEscape?_unit plane first rest) fuel
  · have first : Text.isHighHalf (0xD800 + (code - 0x10000) / 0x400) = true := by
      rw [Text.isHighHalf_iff]
      omega
    have second : Text.isLowHalf (0xDC00 + (code - 0x10000) % 0x400) = true := by
      rw [Text.isLowHalf_iff]
      omega
    have whole : Text.pairCode (0xD800 + (code - 0x10000) / 0x400)
        (0xDC00 + (code - 0x10000) % 0x400) = code := by
      unfold Text.pairCode
      omega
    have read := readEscape?_pair first second rest
    rw [whole] at read
    rw [escapedCode_large (by omega), List.append_assoc]
    exact readText?_escape read fuel

/-- Halves of a pair are read as the code point that they encode. -/
theorem readText?_pair {high low : Nat} (first : Text.isHighHalf high = true)
    (second : Text.isLowHalf low = true) (fuel : Nat) (rest : List Char) :
    readText? (fuel + 1) (escapedCode high ++ (escapedCode low ++ rest)) =
      (readText? fuel rest).map fun found =>
        (Text.ofCode (Text.pairCode high low) ++ found.1, found.2) := by
  have firstBounds := Text.isHighHalf_iff.mp first
  have secondBounds := Text.isLowHalf_iff.mp second
  rw [escapedCode_unit (by omega) (by omega), escapedCode_unit (by omega) (by omega)]
  exact readText?_escape (readEscape?_pair first second rest) fuel

/-- An escaped text is read back up to the closing quote, with its halves joined. -/
theorem readText?_escaped {points : List Nat} (small : ∀ code ∈ points, code < 0x110000)
    (fuel : Nat) (enough : points.length < fuel) (rest : List Char) :
    readText? fuel (escaped points ++ '"' :: rest) =
      some (Text.ofCodes (Text.joinHalves points), rest) := by
  induction points using Text.joinHalves.induct generalizing fuel with
  | case1 high low others pair ih =>
      have halves := (Bool.and_eq_true _ _).mp pair
      obtain ⟨fuel, rfl⟩ : ∃ less, fuel = less + 1 := ⟨fuel - 1, by omega⟩
      have tail := ih (fun code code_mem => small code (by simp [code_mem])) fuel
        (by simp only [List.length_cons] at enough; omega)
      rw [escaped_cons, escaped_cons, List.append_assoc, List.append_assoc,
        readText?_pair halves.1 halves.2, tail, Text.joinHalves, if_pos pair]
      rfl
  | case2 high low others apart ih =>
      obtain ⟨fuel, rfl⟩ : ∃ less, fuel = less + 1 := ⟨fuel - 1, by omega⟩
      have tail := ih (fun code code_mem => small code (List.mem_cons_of_mem _ code_mem))
        fuel (by simp only [List.length_cons] at enough ⊢; omega)
      have starts : Text.isHighHalf high = true →
          StartsApart (escaped (low :: others) ++ '"' :: rest) := by
        intro first
        rw [escaped_cons, List.append_assoc]
        refine startsApart_escapedCode (small low (by simp)) (fun second => apart ?_) _
        rw [first, second]
        rfl
      rw [escaped_cons, List.append_assoc, readText?_escapedCode (small high (by simp)) starts, tail,
        Text.joinHalves, if_neg apart]
      rfl
  | case3 short notLong =>
      obtain ⟨fuel, rfl⟩ : ∃ less, fuel = less + 1 := ⟨fuel - 1, by omega⟩
      rcases short with _ | ⟨code, _ | ⟨next, others⟩⟩
      · rfl
      · obtain ⟨fuel, rfl⟩ : ∃ less, fuel = less + 1 :=
          ⟨fuel - 1, by simp only [List.length_singleton] at enough; omega⟩
        have starts : StartsApart ('"' :: rest) := by
          intro more unit after shape
          cases shape
        rw [escaped_cons, List.append_assoc]
        exact readText?_escapedCode (small code (by simp)) (fun _ => starts) (fuel + 1)
      · exact (notLong code next others rfl).elim

/-- What stands for a code point has at least one character. -/
theorem length_escapedCode_pos (code : Nat) : 0 < (escapedCode code).length := by
  unfold escapedCode unitEscape
  repeat' split
  all_goals simp

theorem length_le_length_escaped (points : List Nat) : points.length ≤ (escaped points).length := by
  induction points with
  | nil => exact Nat.le_refl _
  | cons code rest ih =>
      have positive := length_escapedCode_pos code
      rw [escaped_cons, List.length_append, List.length_cons]
      omega

/-- A written text is read back with its halves joined. -/
theorem readText_escaped (characters rest : List Char) :
    readText (escaped (Text.codes characters) ++ '"' :: rest) =
      .ok (Text.joinedCharacters characters, rest) := by
  have enough : (Text.codes characters).length <
      (escaped (Text.codes characters) ++ '"' :: rest).length + 1 := by
    have short := length_le_length_escaped (Text.codes characters)
    rw [List.length_append]
    omega
  rw [readText, readText?_escaped (Text.codes_lt characters) _ enough]
  rfl

end Json

end SpecGraph
