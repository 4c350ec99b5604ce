import SpecGraph.Json.Reader
import SpecGraph.Json.Writer
import SpecGraph.Proofs.Number.Shortest

/-!
# Reading written numerals

The numeral of an integer is read as the integer, and the shortest decimal of a floating-point number as the number.
A numeral has a whole part without a leading zero, and a fraction or an exponent or both if it is no integer. What
comes after it must not go on with it.
-/

namespace SpecGraph

namespace Json

/-- A character that ends a numeral before it: a blank, a comma or a closing bracket. -/
def isStop (character : Char) : Bool :=
  isBlank character || character == ',' || character == ']' || character.toNat == 125

/-- What comes after a value: nothing, or a character that ends it. -/
def Stops (rest : List Char) : Prop := ∀ first ∈ rest.head?, isStop first = true

theorem isStop_cases {character : Char} (stop : isStop character = true) :
    character ∈ [' ', '\t', '\n', '\r', ',', ']', Char.ofNat 125] := by
  simp only [isStop, isBlank, Bool.or_eq_true, beq_iff_eq] at stop
  rcases stop with (((((same | same) | same) | same) | same) | same) | closing
  on_goal 7 => have same : character = Char.ofNat 125 := Char.toNat_inj.mp closing
  all_goals
    subst same
    decide

/-- A character that ends a numeral is none that goes on with it. -/
theorem isStop_apart {character : Char} (stop : isStop character = true) :
    Text.isDigit character = false ∧ character ≠ '.' ∧ character ≠ 'e' ∧ character ≠ 'E' := by
  have one := isStop_cases stop
  simp only [List.mem_cons, List.not_mem_nil, or_false] at one
  rcases one with rfl | rfl | rfl | rfl | rfl | rfl | rfl
  all_goals decide

/-- The text goes on with something that is no digit. -/
def EndsDigits (rest : List Char) : Prop := ∀ first ∈ rest.head?, Text.isDigit first = false

theorem Stops.endsDigits {rest : List Char} (stops : Stops rest) : EndsDigits rest := by
  intro first isFirst
  exact (isStop_apart (stops first isFirst)).1

theorem spanDigits_append {digits rest : List Char}
    (allDigits : ∀ digit ∈ digits, Text.isDigit digit = true) (ends : EndsDigits rest) :
    spanDigits (digits ++ rest) = (digits, rest) := by
  have none : rest.takeWhile Text.isDigit = [] ∧ rest.dropWhile Text.isDigit = rest := by
    cases rest with
    | nil => exact ⟨rfl, rfl⟩
    | cons first others =>
        have noDigit := ends first rfl
        simp [noDigit]
  rw [spanDigits, List.takeWhile_append_of_pos allDigits, List.dropWhile_append_of_pos allDigits,
    none.1, none.2, List.append_nil]

theorem readWhole?_append {digits rest : List Char} (allDigits : ∀ digit ∈ digits, Text.isDigit digit = true)
    (some_digit : digits ≠ []) (noZero : digits.head? ≠ some '0') (ends : EndsDigits rest) :
    readWhole? (digits ++ rest) = some (digits, rest) := by
  unfold readWhole?
  split
  · next others shape =>
      rw [← List.head?_append_of_ne_nil _ some_digit, shape] at noZero
      exact (noZero rfl).elim
  · simp [spanDigits_append allDigits ends, some_digit]

theorem readWhole?_decimal (value : Nat) {rest : List Char} (ends : EndsDigits rest) :
    readWhole? (Text.decimal value ++ rest) = some (Text.decimal value, rest) := by
  rcases Nat.eq_zero_or_pos value with rfl | positive
  · have zero : Text.decimal 0 = ['0'] := by
      rw [Text.decimal]
      rfl
    rw [zero]
    rfl
  · exact readWhole?_append (Text.isDigit_of_mem_decimal value) (Text.decimal_ne_nil value)
      (Text.head_decimal_ne_zero positive) ends

theorem readFraction_of_stops {rest : List Char} (stops : Stops rest) :
    readFraction rest = ([], rest) := by
  unfold readFraction
  split
  · next others =>
      exact ((isStop_apart (stops '.' rfl)).2.1 rfl).elim
  · rfl

theorem readExponent_of_stops {rest : List Char} (stops : Stops rest) :
    readExponent rest = (none, rest) := by
  cases rest with
  | nil => rfl
  | cons first others =>
      have apart := (isStop_apart (stops first rfl)).2.2
      unfold readExponent
      exact if_neg (not_or.mpr apart)

/-- A decimal numeral is read as its number. -/
theorem readUnsigned_decimal {value : Nat} (short : (Text.decimal value).length ≤ Text.mostDigits)
    (negative : Bool) {rest : List Char} (stops : Stops rest) :
    readUnsigned negative (Text.decimal value ++ rest) =
      .ok (.int (if negative then -Int.ofNat value else Int.ofNat value), rest) := by
  rw [readUnsigned, readWhole?_decimal value stops.endsDigits]
  simp only [readFraction_of_stops stops, readExponent_of_stops stops, Text.readDecimal_decimal,
    if_neg (Nat.not_lt.mpr short)]
  rfl

theorem ne_of_isDigit {digit other : Char} (isDigit : Text.isDigit digit = true)
    (noDigit : Text.isDigit other = false) : digit ≠ other := by
  rintro rfl
  rw [isDigit] at noDigit
  cases noDigit

theorem isBlank_of_isDigit {digit : Char} (isDigit : Text.isDigit digit = true) :
    isBlank digit = false := by
  cases blank : isBlank digit with
  | false => rfl
  | true =>
      have noDigit := (isStop_apart (show isStop digit = true by simp [isStop, blank])).1
      rw [isDigit] at noDigit
      cases noDigit

/-- A whole part with a fraction or an exponent is read as a floating-point number. -/
theorem readUnsigned_float {text afterWhole afterFraction rest whole fraction : List Char} {exponent : Option Int}
    (isWhole : readWhole? text = some (whole, afterWhole))
    (isFraction : readFraction afterWhole = (fraction, afterFraction))
    (isExponent : readExponent afterFraction = (exponent, rest))
    (more : fraction ≠ [] ∨ exponent ≠ none) (negative : Bool) :
    readUnsigned negative text = .ok (.float (Binary64.ofDecimal negative (Text.readDecimal (whole ++ fraction))
      (exponent.getD 0 - Int.ofNat fraction.length)), rest) := by
  have noInteger : (fraction.isEmpty && exponent.isNone) = false := by
    cases fraction <;> cases exponent <;> simp_all
  rw [readUnsigned, isWhole]
  dsimp only
  rw [isFraction]
  dsimp only
  rw [isExponent]
  dsimp only
  rw [noInteger]
  rfl

theorem readFraction_point {fraction rest : List Char} (allDigits : ∀ digit ∈ fraction, Text.isDigit digit = true)
    (some_digit : fraction ≠ []) (ends : EndsDigits rest) :
    readFraction ('.' :: (fraction ++ rest)) = (fraction, rest) := by
  unfold readFraction
  simp [spanDigits_append allDigits ends, some_digit]

theorem readFraction_mark (rest : List Char) : readFraction ('e' :: rest) = ([], 'e' :: rest) := rfl

theorem endsDigits_cons {first : Char} (noDigit : Text.isDigit first = false) (rest : List Char) :
    EndsDigits (first :: rest) := by
  intro other isFirst
  cases isFirst
  exact noDigit

theorem readExponent_signed {digits rest : List Char} (allDigits : ∀ digit ∈ digits, Text.isDigit digit = true)
    (some_digit : digits ≠ []) (stops : Stops rest) (negative : Bool) :
    readExponent ('e' :: (if negative then '-' else '+') :: (digits ++ rest)) =
      (some (if negative then -Int.ofNat (Text.readDecimal digits) else Int.ofNat (Text.readDecimal digits)),
        rest) := by
  unfold readExponent
  cases negative <;> simp [spanDigits_append allDigits stops.endsDigits, some_digit]

/-- The digits of a positive number. -/
structure IsNumeral (digits : List Char) : Prop where
  /-- All are digits. -/
  allDigits : ∀ digit ∈ digits, Text.isDigit digit = true
  /-- There is one. -/
  some_digit : digits ≠ []
  /-- The first is no zero. -/
  noZero : digits.head? ≠ some '0'

theorem isNumeral_decimal {value : Nat} (positive : 0 < value) : IsNumeral (Text.decimal value) :=
  ⟨Text.isDigit_of_mem_decimal value, Text.decimal_ne_nil value, Text.head_decimal_ne_zero positive⟩

theorem isDigit_of_mem_zeros {width : Nat} : ∀ digit ∈ List.replicate width '0', Text.isDigit digit = true := by
  intro digit digit_mem
  rw [List.eq_of_mem_replicate digit_mem]
  rfl

theorem return_notMem_digits {digits : List Char} (allDigits : ∀ digit ∈ digits, Text.isDigit digit = true) :
    '\r' ∉ digits := by
  intro return_mem
  cases allDigits '\r' return_mem

/-- A text that starts with a digit and has no carriage return. -/
structure StartsDigit (text : List Char) : Prop where
  digit : ∃ digit others, text = digit :: others ∧ Text.isDigit digit = true
  unbroken : '\r' ∉ text

theorem startsDigit_append {digits : List Char} (allDigits : ∀ digit ∈ digits, Text.isDigit digit = true)
    (some_digit : digits ≠ []) {more : List Char} (unbroken : '\r' ∉ more) : StartsDigit (digits ++ more) := by
  cases digits with
  | nil => exact (some_digit rfl).elim
  | cons digit others =>
      refine ⟨⟨digit, others ++ more, rfl, allDigits digit List.mem_cons_self⟩, ?_⟩
      intro return_mem
      rcases List.mem_append.mp return_mem with ofDigits | ofMore
      · exact return_notMem_digits allDigits ofDigits
      · exact unbroken ofMore

theorem startsDigit_decimal (value : Nat) : StartsDigit (Text.decimal value) := by
  have starts : StartsDigit (Text.decimal value ++ []) :=
    startsDigit_append (Text.isDigit_of_mem_decimal value) (Text.decimal_ne_nil value) (by simp)
  rwa [List.append_nil] at starts

theorem startsDigit_positional {shown : List Char} (numeral : IsNumeral shown) (point : Int) :
    StartsDigit (Binary64.positional shown point) := by
  have noReturn := return_notMem_digits numeral.allDigits
  have zeros (width : Nat) := return_notMem_digits (@isDigit_of_mem_zeros width)
  unfold Binary64.positional
  split
  · next whole =>
      split
      · exact @startsDigit_append ['0'] (List.forall_mem_singleton.mpr rfl) (by decide) _ (by simp [noReturn])
      · split
        · rw [List.append_assoc]
          exact startsDigit_append numeral.allDigits numeral.some_digit (by simp [zeros])
        · next positive _ =>
            apply startsDigit_append (fun digit digit_mem => numeral.allDigits digit (List.mem_of_mem_take digit_mem))
            · simp [positive, numeral.some_digit]
            · intro return_mem
              rcases List.mem_cons.mp return_mem with point | after
              · cases point
              · exact noReturn (List.mem_of_mem_drop after)
  · exact @startsDigit_append ['0'] (List.forall_mem_singleton.mpr rfl) (by decide) _ (by simp [noReturn, zeros])

theorem startsDigit_scientific {shown : List Char} (numeral : IsNumeral shown) (point : Int) :
    StartsDigit (Binary64.scientific shown point) := by
  have noReturn := return_notMem_digits numeral.allDigits
  have exponent := return_notMem_digits (Text.isDigit_of_mem_paddedDecimal 2 (point - 1).natAbs)
  have signs (negative : Prop) [Decidable negative] : '\r' ≠ if negative then '-' else '+' := by
    split <;> decide
  unfold Binary64.scientific
  cases shown with
  | nil => exact (numeral.some_digit rfl).elim
  | cons digit others =>
      have first : ∀ other ∈ [digit], Text.isDigit other = true := by
        simpa using numeral.allDigits digit List.mem_cons_self
      cases others with
      | nil => exact startsDigit_append first (by simp) (by simp [exponent, signs])
      | cons second others =>
          simp only [List.mem_cons, not_or] at noReturn
          exact @startsDigit_append [digit] first (by simp) _ (by simp [noReturn, exponent, signs])

section Floats

variable {rest : List Char} (stops : Stops rest) {shown : List Char} (numeral : IsNumeral shown) (negative : Bool)
include stops numeral

theorem readUnsigned_small (zeros : Nat) :
    readUnsigned negative ('0' :: '.' :: (List.replicate zeros '0' ++ shown ++ rest)) =
      .ok (.float (Binary64.ofDecimal negative (Text.readDecimal shown) (-(zeros + shown.length : Nat))), rest) := by
  have fractionDigits : ∀ digit ∈ List.replicate zeros '0' ++ shown, Text.isDigit digit = true := by
    intro digit digit_mem
    rcases List.mem_append.mp digit_mem with zero | ofDigits
    · exact isDigit_of_mem_zeros digit zero
    · exact numeral.allDigits digit ofDigits
  have some_digit : List.replicate zeros '0' ++ shown ≠ [] := by simp [numeral.some_digit]
  have isWhole : readWhole? ('0' :: '.' :: (List.replicate zeros '0' ++ shown ++ rest)) = some (['0'], _) := rfl
  have read := readUnsigned_float isWhole
    (readFraction_point fractionDigits some_digit stops.endsDigits) (readExponent_of_stops stops)
    (.inl some_digit) negative
  rw [List.singleton_append, Text.readDecimal_zero_cons, Text.readDecimal_zeros_append] at read
  simpa using read

theorem readUnsigned_between {whole : Nat} (positive : whole ≠ 0) (less : whole < shown.length) :
    readUnsigned negative (shown.take whole ++ '.' :: shown.drop whole ++ rest) =
      .ok (.float (Binary64.ofDecimal negative (Text.readDecimal shown) (-(shown.length - whole : Nat))), rest) := by
  have some_before : shown.take whole ≠ [] := by
    intro none
    have length := congrArg List.length none
    simp only [List.length_take, List.length_nil] at length
    omega
  have some_after : shown.drop whole ≠ [] := by
    intro none
    have length := congrArg List.length none
    simp only [List.length_drop, List.length_nil] at length
    omega
  have read := readUnsigned_float
    (readWhole?_append (fun digit digit_mem => numeral.allDigits digit (List.mem_of_mem_take digit_mem)) some_before
      (by rw [List.head?_take, if_neg positive]; exact numeral.noZero) (endsDigits_cons (by decide) _))
    (readFraction_point (fun digit digit_mem => numeral.allDigits digit (List.mem_of_mem_drop digit_mem)) some_after
      stops.endsDigits)
    (readExponent_of_stops stops) (.inl some_after) negative
  rw [List.take_append_drop] at read
  simpa using read

theorem readUnsigned_large (zeros : Nat) :
    readUnsigned negative (shown ++ List.replicate zeros '0' ++ ['.', '0'] ++ rest) =
      .ok (.float (Binary64.ofDecimal negative (Text.readDecimal shown * 10 ^ zeros * 10) (-1)), rest) := by
  have wholeDigits : ∀ digit ∈ shown ++ List.replicate zeros '0', Text.isDigit digit = true := by
    intro digit digit_mem
    rcases List.mem_append.mp digit_mem with ofDigits | zero
    · exact numeral.allDigits digit ofDigits
    · exact isDigit_of_mem_zeros digit zero
  have read := readUnsigned_float
    (readWhole?_append wholeDigits (by simp [numeral.some_digit])
      (by rw [List.head?_append_of_ne_nil _ numeral.some_digit]; exact numeral.noZero)
      (endsDigits_cons (by decide) (['0'] ++ rest)))
    (readFraction_point (List.forall_mem_singleton.mpr rfl) (by decide) stops.endsDigits)
    (readExponent_of_stops stops) (.inl (by decide)) negative
  rw [Text.readDecimal_append_digit, Text.readDecimal_append, Text.readDecimal_zeros] at read
  simpa [Text.digitValue?] using read

theorem readUnsigned_scientific (point : Int) :
    readUnsigned negative (Binary64.scientific shown point ++ rest) =
      .ok (.float (Binary64.ofDecimal negative (Text.readDecimal shown) (point - Int.ofNat shown.length)),
        rest) := by
  have readsExponent := readExponent_signed (Text.isDigit_of_mem_paddedDecimal 2 (point - 1).natAbs)
    (Text.paddedDecimal_ne_nil 2 _) stops (decide (point - 1 < 0))
  rw [Text.readDecimal_paddedDecimal] at readsExponent
  have signed : (if decide (point - 1 < 0) = true then -Int.ofNat (point - 1).natAbs
      else Int.ofNat (point - 1).natAbs) = point - 1 := by
    split <;> simp_all only [Int.ofNat_eq_natCast, decide_eq_true_eq] <;> omega
  rw [signed] at readsExponent
  unfold Binary64.scientific
  cases shown with
  | nil => exact (numeral.some_digit rfl).elim
  | cons digit others =>
      have first : ∀ other ∈ [digit], Text.isDigit other = true := by
        simpa using numeral.allDigits digit List.mem_cons_self
      have noZero : [digit].head? ≠ some '0' := numeral.noZero
      cases others with
      | nil =>
          have read := readUnsigned_float (readWhole?_append first (by simp) noZero (endsDigits_cons (by decide) _))
            (readFraction_mark _) readsExponent (.inr (by simp)) negative
          simpa using read
      | cons second others =>
          have read := readUnsigned_float (readWhole?_append first (by simp) noZero (endsDigits_cons (by decide) _))
            (@readFraction_point (second :: others) _
              (fun other other_mem => numeral.allDigits other (List.mem_cons_of_mem _ other_mem)) (by simp)
              (endsDigits_cons (by decide) _))
            readsExponent (.inr (by simp)) negative
          have scale : point - 1 - Int.ofNat (second :: others).length =
              point - Int.ofNat (digit :: second :: others).length := by
            simp only [List.length_cons, Int.ofNat_eq_natCast]
            omega
          rw [Option.getD_some, scale] at read
          simpa using read

/-- Digits with a point are read as the number that they denote. -/
theorem exists_readUnsigned_positional (point : Int) :
    ∃ many : Nat, ∃ exponent : Int,
      (many : ℚ) * (10 : ℚ) ^ exponent = Text.readDecimal shown * (10 : ℚ) ^ (point - Int.ofNat shown.length) ∧
      readUnsigned negative (Binary64.positional shown point ++ rest) =
        .ok (.float (Binary64.ofDecimal negative many exponent), rest) := by
  have same (exponent : Int) (isExponent : exponent = point - Int.ofNat shown.length) :
      (Text.readDecimal shown : ℚ) * (10 : ℚ) ^ exponent =
        Text.readDecimal shown * (10 : ℚ) ^ (point - Int.ofNat shown.length) := by
    rw [isExponent]
  simp only [Int.ofNat_eq_natCast] at same ⊢
  cases point with
  | negSucc zeros =>
      refine ⟨_, _, same _ ?_, readUnsigned_small stops numeral negative (zeros + 1)⟩
      omega
  | ofNat whole =>
      unfold Binary64.positional
      dsimp only
      split
      · refine ⟨_, _, same _ ?_, readUnsigned_small stops numeral negative 0⟩
        simp only [Int.ofNat_eq_natCast]
        omega
      · split
        · refine ⟨_, _, ?_, readUnsigned_large stops numeral negative (whole - shown.length)⟩
          have shift : Int.ofNat whole - shown.length = (whole - shown.length : Nat) := by
            simp only [Int.ofNat_eq_natCast]
            omega
          rw [shift, zpow_natCast, zpow_neg_one]
          push_cast
          ring
        · next positive short =>
            have less : whole < shown.length := by omega
            refine ⟨_, _, same _ ?_, readUnsigned_between stops numeral negative positive less⟩
            simp only [Int.ofNat_eq_natCast]
            omega

end Floats

/-- The text of the magnitude of a finite number is read as the magnitude. -/
theorem readUnsigned_unsigned {number : Binary64} (finite : number.IsFinite) {rest : List Char} (stops : Stops rest) :
    readUnsigned number.isNegative (number.unsigned ++ rest) = .ok (.float number, rest) := by
  unfold Binary64.unsigned
  split
  · next isZero =>
      have isWhole : readWhole? (['0', '.', '0'] ++ rest) = some (['0'], _) := rfl
      have read := readUnsigned_float isWhole (@readFraction_point ['0'] _ (List.forall_mem_singleton.mpr rfl) (by decide) stops.endsDigits)
        (readExponent_of_stops stops) (.inl (by decide)) number.isNegative
      have zero : Binary64.ofDecimal number.isNegative 0 (-1) = number := Binary64.ofRatio_zero isZero
      rwa [show Text.readDecimal (['0'] ++ ['0']) = 0 from rfl,
        show (none : Option Int).getD 0 - Int.ofNat ['0'].length = -1 from rfl, zero] at read
  · next nonzero =>
      have positive : 0 < number.significand := Nat.pos_of_ne_zero nonzero
      obtain ⟨digits, grid, some_digit, areDigits, holds⟩ := Binary64.exists_shortestDigits positive
      have numeral := isNumeral_decimal some_digit
      have back : grid + Int.ofNat (Text.decimal digits).length - Int.ofNat (Text.decimal digits).length = grid := by
        omega
      rw [areDigits]
      dsimp only
      split
      · obtain ⟨many, exponent, value, read⟩ := exists_readUnsigned_positional stops numeral number.isNegative
          (grid + Int.ofNat (Text.decimal digits).length)
        rw [back, Text.readDecimal_decimal] at value
        rw [← value] at holds
        rw [read, Binary64.ofDecimal_eq finite positive holds]
      · rw [readUnsigned_scientific stops numeral, back, Text.readDecimal_decimal,
          Binary64.ofDecimal_eq finite positive holds]

theorem startsDigit_unsigned (number : Binary64) : StartsDigit number.unsigned := by
  unfold Binary64.unsigned
  split
  · exact @startsDigit_append ['0'] (List.forall_mem_singleton.mpr rfl) (by decide) _ (by decide)
  · next nonzero =>
      obtain ⟨digits, grid, some_digit, areDigits, _⟩ := Binary64.exists_shortestDigits (Nat.pos_of_ne_zero nonzero)
      rw [areDigits]
      dsimp only
      split
      · exact startsDigit_positional (isNumeral_decimal some_digit) _
      · exact startsDigit_scientific (isNumeral_decimal some_digit) _

end Json

end SpecGraph
