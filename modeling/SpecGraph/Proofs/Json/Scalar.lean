import SpecGraph.Proofs.Json.Numeral
import SpecGraph.Proofs.Json.Text

/-!
# Reading written scalars

Null, a truth value, an integer that is shown, a floating-point number and a text have a JSON text of their own,
which is read back whatever comes after it, as long as that is something that ends a value. A text is read back with
its halves joined, and a value that is not a number as the one such value that has a name.
-/

namespace SpecGraph

namespace Json

/-- The characters are read as the value, with room for some levels of collections. -/
structure Reads (levels : Nat) (characters : List Char) (value : Data) : Prop where
  /-- The characters start with one that starts a value. -/
  starts : ∃ first others, characters = first :: others ∧ isBlank first = false ∧ first ≠ ']'
  /-- The characters have no carriage return, and so are one text with all ends of lines. -/
  unbroken : '\r' ∉ characters
  /-- The value is read, and what comes after it is left. -/
  reads : ∀ (room fuel : Nat) {rest : List Char}, levels ≤ room → 2 * characters.length ≤ fuel →
    Stops rest → readValue room fuel (characters ++ rest) = .ok (value, rest)

/-- A scalar is read where it is neither a text nor a collection. -/
theorem reads_scalar {characters : List Char} {value : Data} {first : Char} {others : List Char}
    (shape : characters = first :: others)
    (dark : isBlank first = false) (scalar : first ≠ '"' ∧ first ≠ '[' ∧ first ≠ ']' ∧ first.toNat ≠ 123)
    (unbroken : '\r' ∉ characters)
    (read : ∀ rest, Stops rest → readScalar (characters ++ rest) = .ok (value, rest)) (levels : Nat) :
    Reads levels characters value := by
  refine ⟨⟨first, others, shape, dark, scalar.2.2.1⟩, unbroken, ?_⟩
  intro room fuel rest _ enough stops
  obtain ⟨fuel, rfl⟩ : ∃ less, fuel = less + 1 :=
    ⟨fuel - 1, by rw [shape, List.length_cons] at enough; omega⟩
  have found := read rest stops
  rw [shape, List.cons_append] at found ⊢
  rw [readValue, if_neg scalar.1, if_neg scalar.2.1, if_neg scalar.2.2.2]
  exact found

theorem reads_null (levels : Nat) : Reads levels "null".toList .null :=
  reads_scalar rfl rfl (by decide) (by decide) (fun _ _ => rfl) levels

theorem reads_bool (value : Bool) (levels : Nat) : Reads levels (writtenBool value) (.bool value) := by
  cases value with
  | false => exact reads_scalar rfl rfl (by decide) (by decide) (fun _ _ => rfl) levels
  | true => exact reads_scalar rfl rfl (by decide) (by decide) (fun _ _ => rfl) levels

/-- A text that starts with none of the words is no word. -/
theorem readWord?_eq_none {text : List Char}
    (noWord : ∀ word ∈ ["null", "true", "false", "NaN", "Infinity", "-Infinity"],
      afterWord? word.toList text = none) : readWord? text = none := by
  unfold readWord?
  rw [List.findSome?_eq_none_iff]
  rintro ⟨word, value⟩ word_mem
  have listed : word ∈ ["null", "true", "false", "NaN", "Infinity", "-Infinity"] :=
    List.mem_map_of_mem (f := Prod.fst) word_mem
  exact congrArg (Option.map fun rest => (value, rest)) (noWord word listed)

theorem afterWord?_of_ne {first character : Char} (word : List Char) (other : first ≠ character)
    (rest : List Char) : afterWord? (first :: word) (character :: rest) = none := by
  simp [afterWord?, other]

/-- No word starts with a digit. -/
theorem readWord?_digit {digit : Char} (isDigit : Text.isDigit digit = true) (rest : List Char) :
    readWord? (digit :: rest) = none := by
  have apart {letter : Char} (noDigit : Text.isDigit letter = false) (word : List Char) :=
    afterWord?_of_ne word (Ne.symm (ne_of_isDigit isDigit noDigit)) rest
  apply readWord?_eq_none
  simp only [List.forall_mem_cons]
  exact ⟨apart rfl _, apart rfl _, apart rfl _, apart rfl _, apart rfl _, apart rfl _, by simp⟩

/-- No word starts with a minus sign and a digit. -/
theorem readWord?_minus_digit {digit : Char} (isDigit : Text.isDigit digit = true)
    (rest : List Char) : readWord? ('-' :: digit :: rest) = none := by
  have other : 'I' ≠ digit := Ne.symm (ne_of_isDigit isDigit rfl)
  have last : afterWord? ('-' :: 'I' :: "nfinity".toList) ('-' :: digit :: rest) = none := by
    simp [afterWord?, other]
  apply readWord?_eq_none
  simp only [List.forall_mem_cons]
  exact ⟨rfl, rfl, rfl, rfl, rfl, last, by simp⟩

/-- What starts with a digit and is read as a number is read as a scalar, also after a minus sign. -/
theorem reads_signed (negative : Bool) {characters : List Char} {value : Data} (starts : StartsDigit characters)
    (read : ∀ rest, Stops rest → readUnsigned negative (characters ++ rest) = .ok (value, rest)) (levels : Nat) :
    Reads levels (if negative then '-' :: characters else characters) value := by
  obtain ⟨⟨digit, others, shape, isDigit⟩, unbroken⟩ := starts
  have noMinus : digit ≠ '-' := ne_of_isDigit isDigit rfl
  have noBrace : digit.toNat ≠ 123 := by
    intro same
    exact ne_of_isDigit isDigit (show Text.isDigit (Char.ofNat 123) = false from rfl) (Char.toNat_inj.mp same)
  subst shape
  cases negative with
  | false =>
      apply reads_scalar rfl (isBlank_of_isDigit isDigit)
        ⟨ne_of_isDigit isDigit rfl, ne_of_isDigit isDigit rfl, ne_of_isDigit isDigit rfl, noBrace⟩ unbroken
      intro rest stops
      have found := read rest stops
      rw [List.cons_append] at found ⊢
      unfold readScalar
      rw [readWord?_digit isDigit]
      dsimp only
      split
      · next minus => exact (noMinus (List.cons.inj minus).1).elim
      · exact found
  | true =>
      have dashed : '\r' ∉ '-' :: digit :: others := by
        intro return_mem
        rcases List.mem_cons.mp return_mem with dash | inside
        · cases dash
        · exact unbroken inside
      apply reads_scalar rfl (by decide) (by decide) dashed
      intro rest stops
      change readScalar ('-' :: digit :: (others ++ rest)) = _
      unfold readScalar
      rw [readWord?_minus_digit isDigit]
      exact read rest stops

theorem reads_int {value : Int} (showable : Text.isShowable value = true) (levels : Nat) :
    Reads levels (Text.signedDecimal value) (.int value) := by
  have short := Text.length_decimal_of_isShowable showable
  cases value with
  | ofNat size =>
      exact reads_signed false (startsDigit_decimal size)
        (fun rest stops => readUnsigned_decimal short false stops) levels
  | negSucc size =>
      exact reads_signed true (startsDigit_decimal (size + 1))
        (fun rest stops => readUnsigned_decimal short true stops) levels

/-- The value that is read from the text of a floating-point number. -/
def readFloat (value : Binary64) : Binary64 := if value.isNaN then Binary64.nan else value

theorem reads_float (value : Binary64) (levels : Nat) :
    Reads levels (writtenFloat value) (.float (readFloat value)) := by
  unfold writtenFloat readFloat
  split
  · exact reads_scalar rfl rfl (by decide) (by decide) (fun _ _ => rfl) levels
  · next noNaN =>
      split
      · next infinite =>
          have isNamed := Binary64.infinity_eq infinite
          generalize value.isNegative = negative at *
          subst isNamed
          cases negative with
          | false => exact reads_scalar rfl rfl (by decide) (by decide) (fun _ _ => rfl) levels
          | true => exact reads_scalar rfl rfl (by decide) (by decide) (fun _ _ => rfl) levels
      · next noInfinity =>
          have finite := Binary64.isFinite_of_not noNaN noInfinity
          unfold Binary64.characters
          rw [if_neg noNaN]
          dsimp only
          rw [if_neg noInfinity]
          exact reads_signed value.isNegative (startsDigit_unsigned value)
            (fun rest stops => readUnsigned_unsigned finite stops) levels

/-- What stands for a code point has no carriage return. -/
theorem return_notMem_escapedCode {code : Nat} (small : code < 0x110000) :
    '\r' ∉ escapedCode code := by
  have unit {unit : Nat} : '\r' ∉ unitEscape unit := by
    have digit (value : Nat) : Text.lowerHexDigit (value % 16) ≠ '\r' := by
      intro same
      have found := Text.hexValue?_lowerHexDigit (Nat.mod_lt value (by omega : 0 < 16))
      rw [same] at found
      cases found
    simp [unitEscape, Text.hexadecimal, Ne.symm (digit _)]
  by_cases ascii : code < 127
  · rcases escapedCode_ascii ascii with ⟨letter, escape, read⟩ | ⟨_, escape⟩ | ⟨visible, _, _, plain⟩
    · rw [escape]
      intro return_mem
      have isLetter : letter = '\r' := by simpa [eq_comm] using return_mem
      have none := read []
      rw [isLetter] at none
      cases none
    · rw [escape]
      exact unit
    · rw [plain, List.mem_singleton]
      intro same
      have value := Text.toNat_ofNat_of_lt (show code < 0xD800 by omega)
      rw [← same] at value
      have thirteen : ('\r').toNat = 13 := rfl
      omega
  · by_cases plane : code < 0x10000
    · rw [escapedCode_unit (by omega) plane]
      exact unit
    · rw [escapedCode_large (by omega)]
      exact fun return_mem => (List.mem_append.mp return_mem).elim unit unit

theorem return_notMem_writtenText (characters : List Char) : '\r' ∉ writtenText characters := by
  intro return_mem
  rw [writtenText_eq] at return_mem
  simp only [List.mem_cons, List.mem_append, List.not_mem_nil, or_false] at return_mem
  rcases return_mem with quote | inside | quote
  · exact absurd quote (by decide)
  · obtain ⟨code, code_mem, inCode⟩ := List.mem_flatMap.mp inside
    exact return_notMem_escapedCode (Text.codes_lt characters code code_mem) inCode
  · exact absurd quote (by decide)

theorem reads_text (value : String) (levels : Nat) :
    Reads levels (writtenText value.toList) (.text (Text.joined value)) := by
  refine ⟨⟨'"', _, writtenText_eq _, rfl, by decide⟩, return_notMem_writtenText _, ?_⟩
  intro room fuel rest _ enough _
  obtain ⟨fuel, rfl⟩ : ∃ less, fuel = less + 1 :=
    ⟨fuel - 1, by rw [writtenText_eq, List.length_cons] at enough; omega⟩
  rw [writtenText_eq, List.cons_append, List.append_assoc, List.singleton_append, readValue, if_pos rfl,
    readText_escaped]
  rfl

end Json

end SpecGraph
