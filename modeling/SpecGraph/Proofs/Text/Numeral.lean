import Mathlib.Data.List.Basic
import Mathlib.Data.List.Induction
import Mathlib.Tactic.Ring
import SpecGraph.Text.Numeral

/-!
# Reading numerals back

The decimal numeral of a number has digits only, starts with a zero only if it is the numeral of zero,
and denotes the number. A number below a power of ten has no more digits than the exponent, so that the
integers that are shown are those with a numeral that may be read. A hexadecimal digit denotes its value.
-/

namespace SpecGraph

namespace Text

theorem digitValue?_decimalDigit {value : Nat} (small : value < 10) :
    digitValue? (decimalDigit value) = some value := by
  revert value
  decide

theorem decimalDigit_ne_zero {value : Nat} (positive : 0 < value) (small : value < 10) :
    decimalDigit value ≠ '0' := by
  intro same
  have zero : some value = some 0 := by
    rw [← digitValue?_decimalDigit small, same]
    rfl
  injection zero with zero
  omega

theorem isDigit_of_mem_decimal (value : Nat) : ∀ digit ∈ decimal value, isDigit digit = true := by
  induction value using decimal.induct with
  | case1 value small =>
      intro digit digit_mem
      rw [decimal, if_pos small, List.mem_singleton] at digit_mem
      rw [digit_mem, isDigit, digitValue?_decimalDigit small]
      rfl
  | case2 value large ih =>
      intro digit digit_mem
      rw [decimal, if_neg large, List.mem_append, List.mem_singleton] at digit_mem
      rcases digit_mem with earlier | last
      · exact ih digit earlier
      · rw [last, isDigit, digitValue?_decimalDigit (Nat.mod_lt _ (by omega))]
        rfl

theorem decimal_ne_nil (value : Nat) : decimal value ≠ [] := by
  rw [decimal]
  split <;> simp

theorem readDecimal_append_digit (digits : List Char) (digit : Char) :
    readDecimal (digits ++ [digit]) = readDecimal digits * 10 + (digitValue? digit).getD 0 := by
  simp [readDecimal, readDigits]

theorem readDecimal_append (digits more : List Char) :
    readDecimal (digits ++ more) = readDecimal digits * 10 ^ more.length + readDecimal more := by
  induction more using List.reverseRecOn with
  | nil => simp [readDecimal, readDigits]
  | append_singleton more digit ih =>
      rw [← List.append_assoc, readDecimal_append_digit, readDecimal_append_digit, ih, List.length_append,
        List.length_singleton, Nat.pow_succ]
      ring

@[simp]
theorem readDecimal_zeros (width : Nat) : readDecimal (List.replicate width '0') = 0 := by
  induction width with
  | zero => rfl
  | succ width ih =>
      rw [List.replicate_succ', readDecimal_append_digit, ih]
      rfl

theorem readDecimal_zeros_append (width : Nat) (digits : List Char) :
    readDecimal (List.replicate width '0' ++ digits) = readDecimal digits := by
  rw [readDecimal_append, readDecimal_zeros, Nat.zero_mul, Nat.zero_add]

theorem readDecimal_zero_cons (digits : List Char) : readDecimal ('0' :: digits) = readDecimal digits :=
  readDecimal_zeros_append 1 digits

/-- The decimal numeral of a number denotes the number. -/
theorem readDecimal_decimal (value : Nat) : readDecimal (decimal value) = value := by
  induction value using decimal.induct with
  | case1 value small =>
      rw [decimal, if_pos small]
      simp [readDecimal, readDigits, digitValue?_decimalDigit small]
  | case2 value large ih =>
      rw [decimal, if_neg large, readDecimal_append_digit, ih,
        digitValue?_decimalDigit (Nat.mod_lt _ (by omega)), Option.getD_some]
      omega

/-- Only the numeral of zero starts with a zero. -/
theorem head_decimal_ne_zero {value : Nat} (positive : 0 < value) :
    (decimal value).head? ≠ some '0' := by
  induction value using decimal.induct with
  | case1 value small =>
      rw [decimal, if_pos small]
      intro head
      exact decimalDigit_ne_zero positive small (Option.some.inj head)
  | case2 value large ih =>
      rw [decimal, if_neg large, List.head?_append_of_ne_nil _ (decimal_ne_nil _)]
      exact ih (by omega)

/-- A number below a power of ten has no more digits than the exponent. -/
theorem length_decimal_le {value width : Nat} (positive : 0 < width) (bound : value < Nat.pow 10 width) :
    (decimal value).length ≤ width := by
  rw [Nat.pow_eq] at bound
  induction value using decimal.induct generalizing width with
  | case1 value small =>
      rw [decimal, if_pos small]
      exact positive
  | case2 value large ih =>
      rw [decimal, if_neg large, List.length_append]
      obtain ⟨shorter, rfl⟩ : ∃ shorter, width = shorter + 1 := ⟨width - 1, by omega⟩
      have less : value / 10 < 10 ^ shorter := by
        rw [Nat.div_lt_iff_lt_mul (by omega)]
        rwa [Nat.pow_succ] at bound
      have longEnough : 0 < shorter := by
        rcases Nat.eq_zero_or_pos shorter with rfl | positive
        · rw [Nat.pow_zero] at less
          omega
        · exact positive
      have := ih longEnough less
      simp only [List.length_singleton]
      omega

/-- The number of digits of a positive number tells the powers of ten around it. -/
theorem decimal_bounds {value : Nat} (positive : 0 < value) :
    10 ^ ((decimal value).length - 1) ≤ value ∧ value < 10 ^ (decimal value).length := by
  induction value using decimal.induct with
  | case1 value small =>
      rw [decimal, if_pos small]
      simpa using ⟨positive, small⟩
  | case2 value large ih =>
      rw [decimal, if_neg large, List.length_append, List.length_singleton, Nat.add_sub_cancel]
      rcases ih (by omega) with ⟨low, high⟩
      have one : 1 ≤ (decimal (value / 10)).length := List.length_pos_iff.mpr (decimal_ne_nil _)
      obtain ⟨fewer, isLength⟩ : ∃ fewer, (decimal (value / 10)).length = fewer + 1 :=
        ⟨(decimal (value / 10)).length - 1, by omega⟩
      rw [isLength, Nat.add_sub_cancel] at low
      rw [isLength] at high ⊢
      rw [Nat.pow_succ] at high
      rw [Nat.pow_succ, Nat.pow_succ 10 (fewer + 1), Nat.pow_succ]
      omega

/-- Zeros on the left do not change what a numeral denotes. -/
theorem readDecimal_paddedDecimal (width value : Nat) : readDecimal (paddedDecimal width value) = value := by
  unfold paddedDecimal
  rw [readDecimal_zeros_append, readDecimal_decimal]

theorem isDigit_of_mem_paddedDecimal (width value : Nat) :
    ∀ digit ∈ paddedDecimal width value, isDigit digit = true := by
  intro digit digit_mem
  rcases List.mem_append.mp digit_mem with zero | ofDecimal
  · rw [List.eq_of_mem_replicate zero]
    rfl
  · exact isDigit_of_mem_decimal value digit ofDecimal

theorem paddedDecimal_ne_nil (width value : Nat) : paddedDecimal width value ≠ [] := by
  intro none
  exact decimal_ne_nil value (List.append_eq_nil_iff.mp none).2

theorem isShowable_iff {value : Int} : isShowable value = true ↔ value.natAbs < leastUnshown :=
  decide_eq_true_iff

theorem leastUnshown_eq : leastUnshown = Nat.pow 10 mostDigits := by
  delta leastUnshown
  exact Eq.refl _

/-- The number that digits denote is below the power of ten with as many zeros. -/
theorem readDecimal_lt (digits : List Char) : readDecimal digits < 10 ^ digits.length := by
  induction digits using List.reverseRecOn with
  | nil => decide
  | append_singleton digits digit ih =>
      have small : (digitValue? digit).getD 0 ≤ 9 := by
        unfold digitValue?
        split
        · next inside =>
            have last : digit.toNat ≤ ('9').toNat := inside.2
            have nine : ('9').toNat = 57 := rfl
            simp only [Option.getD_some]
            omega
        · exact Nat.zero_le _
      rw [readDecimal_append_digit, List.length_append, List.length_singleton, Nat.pow_succ]
      omega

/-- Digits that are not too many denote a number that can be shown. -/
theorem isShowable_readDecimal {digits : List Char} (short : digits.length ≤ mostDigits) (negative : Bool) :
    isShowable (if negative then -Int.ofNat (readDecimal digits) else Int.ofNat (readDecimal digits)) = true := by
  have size : (if negative then -Int.ofNat (readDecimal digits) else Int.ofNat (readDecimal digits)).natAbs =
      readDecimal digits := by
    cases negative <;> simp
  rw [isShowable_iff, size, leastUnshown_eq, Nat.pow_eq]
  generalize mostDigits = most at *
  exact Nat.lt_of_lt_of_le (readDecimal_lt digits) (Nat.pow_le_pow_right (by decide) short)

/-- An integer that is shown has a numeral that is not too long to be read. -/
theorem length_decimal_of_isShowable {value : Int} (showable : isShowable value = true) :
    (decimal value.natAbs).length ≤ mostDigits := by
  have positive : 0 < mostDigits := by decide
  have bound := isShowable_iff.mp showable
  rw [leastUnshown_eq] at bound
  exact length_decimal_le positive bound

theorem hexValue?_lowerHexDigit {value : Nat} (small : value < 16) :
    hexValue? (lowerHexDigit value) = some value := by
  revert value
  decide

end Text

end SpecGraph
