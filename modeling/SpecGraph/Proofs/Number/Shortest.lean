import Mathlib.Algebra.Order.Field.Power
import Mathlib.Algebra.Order.Field.Rat
import Mathlib.Tactic.FieldSimp
import Mathlib.Tactic.Linarith
import Mathlib.Tactic.Positivity
import SpecGraph.Proofs.Number.Rounding
import SpecGraph.Proofs.Text.Numeral

/-!
# The shortest decimal of a number

The shortest decimal of a finite number is searched for among the multiples of powers of ten, from coarse to fine,
and taken from the rounding interval of the number. Twenty digits are always enough, since then a step is smaller than
the room below the number. So the decimal that is found is rounded to the number, and it is the number that its text
is read as.
-/

namespace SpecGraph

namespace Binary64

namespace Interval

/-- A real lies in an interval. -/
def Holds (interval : Interval) (value : ℚ) : Prop :=
  if interval.closed then
    (interval.low : ℚ) / interval.denominator ≤ value ∧ value ≤ (interval.high : ℚ) / interval.denominator
  else (interval.low : ℚ) / interval.denominator < value ∧ value < (interval.high : ℚ) / interval.denominator

theorem contains_iff {interval : Interval} (divides : 0 < interval.denominator) {numerator denominator : Nat}
    (positive : 0 < denominator) :
    interval.contains numerator denominator = true ↔ interval.Holds ((numerator : ℚ) / denominator) := by
  have dividesQ : (0 : ℚ) < interval.denominator := by exact_mod_cast divides
  have positiveQ : (0 : ℚ) < denominator := by exact_mod_cast positive
  unfold contains Holds
  cases interval.closed
  · simp only [Bool.false_eq_true, if_false, Bool.and_eq_true, decide_eq_true_eq,
      div_lt_div_iff₀ dividesQ positiveQ, div_lt_div_iff₀ positiveQ dividesQ]
    norm_cast
  · simp only [if_true, Bool.and_eq_true, decide_eq_true_eq, div_le_div_iff₀ dividesQ positiveQ,
      div_le_div_iff₀ positiveQ dividesQ]
    norm_cast

end Interval

theorem tens_pos (exponent : Int) : 0 < (tens exponent).1 ∧ 0 < (tens exponent).2 := by
  cases exponent with
  | ofNat up => exact ⟨power_pos (by decide) up, Nat.one_pos⟩
  | negSucc down => exact ⟨Nat.one_pos, power_pos (by decide) (down + 1)⟩

theorem tens_eq (exponent : Int) :
    ((tens exponent).1 : ℚ) / (tens exponent).2 = (10 : ℚ) ^ exponent := by
  cases exponent with
  | ofNat up => simp [tens, power_eq]
  | negSucc down => simp [tens, power_eq, zpow_negSucc]

namespace Interval

variable {interval : Interval} {grid : Int}

theorem contains_tens (divides : 0 < interval.denominator) (multiplier : Nat) (exponent : Int) :
    interval.contains (multiplier * (tens exponent).1) (tens exponent).2 = true ↔
      interval.Holds (multiplier * (10 : ℚ) ^ exponent) := by
  rw [contains_iff divides (tens_pos exponent).2, ← tens_eq, ← mul_div_assoc, Nat.cast_mul]

/-- A multiple that is found lies in the interval. -/
theorem holds_of_nearest? (divides : 0 < interval.denominator) {multiplier : Nat}
    (found : interval.nearest? grid = some multiplier) :
    0 < multiplier ∧ interval.Holds (multiplier * (10 : ℚ) ^ grid) := by
  rw [← contains_tens divides]
  unfold nearest? at found
  grind

/-- The multiple below the point is found if it lies in the interval. -/
theorem isSome_nearest? (divides : 0 < interval.denominator) {below : Nat} (positive : below ≠ 0)
    (isBelow : interval.middle * (tens grid).2 / (interval.denominator * (tens grid).1) = below)
    (holds : interval.Holds (below * (10 : ℚ) ^ grid)) : (interval.nearest? grid).isSome = true := by
  rw [← contains_tens divides] at holds
  unfold nearest?
  grind

/-- The search ends at the latest with the grid on which there is a multiple. -/
theorem holds_of_shortest (divides : 0 < interval.denominator) {point : Int} {last : Nat}
    (found : (interval.nearest? (point - Int.ofNat last)).isSome = true) {digits fuel : Nat}
    (notAfter : digits ≤ last) (enough : last < digits + fuel) :
    0 < (interval.shortest point digits fuel).1 ∧
      interval.Holds ((interval.shortest point digits fuel).1 *
        (10 : ℚ) ^ (interval.shortest point digits fuel).2) := by
  induction fuel generalizing digits with
  | zero => omega
  | succ fuel ih =>
      unfold shortest
      dsimp only
      cases here : interval.nearest? (point - Int.ofNat digits) with
      | some multiplier => exact holds_of_nearest? divides here
      | none =>
          have apart : digits ≠ last := by
            intro same
            rw [← same, here] at found
            cases found
          exact ih (by omega) (by omega)

end Interval

theorem value_dropZeros (multiplier : Nat) (grid : Int) (fuel : Nat) :
    ((dropZeros multiplier grid fuel).1 : ℚ) * (10 : ℚ) ^ (dropZeros multiplier grid fuel).2 =
      multiplier * (10 : ℚ) ^ grid := by
  induction fuel generalizing multiplier grid with
  | zero => rfl
  | succ fuel ih =>
      unfold dropZeros
      split
      · next ends =>
          rw [ih, zpow_add_one₀ (by norm_num)]
          have split : multiplier = 10 * (multiplier / 10) := by omega
          calc ((multiplier / 10 : Nat) : ℚ) * ((10 : ℚ) ^ grid * 10)
              = ((10 * (multiplier / 10) : Nat) : ℚ) * (10 : ℚ) ^ grid := by push_cast; ring
            _ = _ := by rw [← split]
      · rfl

theorem dropZeros_pos {multiplier : Nat} (positive : 0 < multiplier) (grid : Int) (fuel : Nat) :
    0 < (dropZeros multiplier grid fuel).1 := by
  induction fuel generalizing multiplier grid with
  | zero => exact positive
  | succ fuel ih =>
      unfold dropZeros
      split
      · exact ih (by omega) _
      · exact positive

theorem le_leadingZeros {numerator denominator fuel : Nat} (enough : denominator ≤ numerator * power 10 fuel) :
    denominator ≤ numerator * power 10 (leadingZeros numerator denominator fuel) := by
  induction fuel generalizing numerator with
  | zero => exact enough
  | succ fuel ih =>
      unfold leadingZeros
      split
      · next reached => simpa [power_eq] using reached
      · rw [power_eq, Nat.pow_succ', ← Nat.mul_assoc] at enough ⊢
        exact ih enough

/-- The point of a positive value stands behind its first digit or further to the left. -/
theorem tens_pointPosition_le {numerator denominator : Nat} (positive : 0 < denominator)
    (enough : denominator ≤ numerator * power 10 400) :
    (10 : ℚ) ^ (pointPosition numerator denominator - 1) ≤ (numerator : ℚ) / denominator := by
  have positiveQ : (0 : ℚ) < denominator := by exact_mod_cast positive
  unfold pointPosition
  split
  · next whole =>
      have one : 0 < numerator / denominator := Nat.div_pos whole positive
      have digits := (Text.decimal_bounds one).1
      rw [← wholeDigits] at digits
      have some_digit : 0 < wholeDigits numerator denominator :=
        List.length_pos_iff.mpr (Text.decimal_ne_nil _)
      have exponent : (wholeDigits numerator denominator : Int) - 1 =
          ((wholeDigits numerator denominator - 1 : Nat) : Int) := by omega
      rw [Int.ofNat_eq_natCast, exponent, zpow_natCast, le_div_iff₀ positiveQ]
      rw [Nat.le_div_iff_mul_le positive] at digits
      exact_mod_cast digits
  · have reached := le_leadingZeros enough
    generalize leadingZeros numerator denominator 400 = zeros at *
    have exponent : 1 - (zeros : Int) - 1 = -(zeros : Int) := by omega
    have tenPos : (0 : ℚ) < 10 ^ zeros := by positivity
    rw [power_eq] at reached
    rw [Int.ofNat_eq_natCast, exponent, zpow_neg, zpow_natCast, le_div_iff₀ positiveQ,
      inv_mul_le_iff₀ tenPos, mul_comm]
    exact_mod_cast reached

/-- A quarter of the unit in the last place of a number. -/
def quarter (number : Binary64) : ℚ := (power 2 number.place : ℚ) / (4 * power 2 1074 : Nat)

theorem least_pos : (0 : ℚ) < (4 * power 2 1074 : Nat) := by
  have positive : 0 < 4 * power 2 1074 := Nat.mul_pos (by decide) (power_pos (by decide) 1074)
  exact_mod_cast positive

theorem quarter_pos (number : Binary64) : 0 < number.quarter := by
  have positive : (0 : ℚ) < power 2 number.place := by exact_mod_cast power_pos (by decide) number.place
  exact div_pos positive least_pos

/-- Some quarters of the last place in terms of the rounding interval. -/
theorem Ends.value {number : Binary64} {lowStep scale : Nat} (ends : number.Ends lowStep scale) (quarters : Nat) :
    ((quarters * scale : Nat) : ℚ) / number.roundingInterval.denominator = quarters * number.quarter := by
  have divides : (0 : ℚ) < number.roundingInterval.denominator := by exact_mod_cast ends.denominator
  have scaled : (scale : ℚ) * (4 * power 2 1074 : Nat) =
      number.roundingInterval.denominator * power 2 number.place := by exact_mod_cast ends.scaled
  have least := least_pos
  unfold quarter
  generalize ((4 * power 2 1074 : Nat) : ℚ) = units at *
  rw [Nat.cast_mul, mul_div_assoc, mul_div_assoc', mul_div_assoc]
  congr 1
  rw [div_eq_div_iff (ne_of_gt divides) (ne_of_gt least), scaled, mul_comm]

/-- A real within half a unit of a number, and within a quarter below the least number of its place. -/
theorem holds_iff (number : Binary64) : ∃ lowStep, (lowStep = 1 ∨ lowStep = 2) ∧ ∀ value : ℚ,
    number.roundingInterval.Holds value ↔
      if number.significand % 2 = 0 then
        (4 * number.significand - lowStep : Nat) * number.quarter ≤ value ∧
          value ≤ (4 * number.significand + 2 : Nat) * number.quarter
      else
        (4 * number.significand - lowStep : Nat) * number.quarter < value ∧
          value < (4 * number.significand + 2 : Nat) * number.quarter := by
  rcases number.exists_ends with ⟨lowStep, scale, ends⟩
  have steps := ends.lowStep
  refine ⟨lowStep, by omega, ?_⟩
  intro value
  have isClosed : number.roundingInterval.closed = decide (number.significand % 2 = 0) := rfl
  unfold Interval.Holds
  rw [ends.low, ends.high, ends.value, ends.value, isClosed]
  simp only [decide_eq_true_eq]

/-- A real that rounds to a positive number is not far from it. -/
theorem bounds_of_holds {number : Binary64} (positive : 0 < number.significand) {value : ℚ}
    (holds : number.roundingInterval.Holds value) :
    2 * number.quarter ≤ value ∧ value ≤ (4 * number.significand + 2 : Nat) * number.quarter := by
  rcases number.holds_iff with ⟨lowStep, steps, isHeld⟩
  have quarterPos := number.quarter_pos
  have low : (2 : ℚ) * number.quarter ≤ (4 * number.significand - lowStep : Nat) * number.quarter := by
    apply mul_le_mul_of_nonneg_right _ quarterPos.le
    have two : 2 ≤ 4 * number.significand - lowStep := by omega
    exact_mod_cast two
  rw [isHeld] at holds
  split at holds
  · exact ⟨low.trans holds.1, holds.2⟩
  · exact ⟨low.trans holds.1.le, holds.2.le⟩

theorem power_two_le : 2 * power 2 1074 ≤ power 10 330 ∧
    18014398509481984 * power 2 2045 < power 10 309 * power 2 1074 := by
  decide +kernel

theorem zpow_natCast_eq (exponent : Nat) : (10 : ℚ) ^ (exponent : Int) = power 10 exponent := by
  rw [power_eq, zpow_natCast, Nat.cast_pow, Nat.cast_ofNat]

theorem tiny_le (number : Binary64) : (10 : ℚ) ^ (-((330 : Nat) : Int)) ≤ 2 * number.quarter := by
  have enough := power_two_le.1
  have positive := power_pos (show 0 < 2 by decide) 1074
  have one : (1 : ℚ) ≤ power 2 number.place := by exact_mod_cast power_pos (by decide) number.place
  unfold quarter
  rw [zpow_neg, zpow_natCast_eq, ← one_div]
  generalize power 2 1074 = units at *
  generalize power 10 330 = tens at *
  have unitsPos : (0 : ℚ) < 2 * units := by exact_mod_cast (show 0 < 2 * units by omega)
  have enoughQ : (2 : ℚ) * units ≤ tens := by exact_mod_cast enough
  calc (1 : ℚ) / tens ≤ 1 / (2 * units) := one_div_le_one_div_of_le unitsPos enoughQ
    _ ≤ power 2 number.place / (2 * units) := div_le_div_of_nonneg_right one unitsPos.le
    _ = 2 * (power 2 number.place / (4 * units : Nat)) := by
        push_cast
        rw [mul_div_assoc', div_eq_div_iff (by linarith) (by linarith)]
        ring

theorem lt_huge {number : Binary64} (finite : number.IsFinite) :
    (4 * number.significand + 2 : Nat) * number.quarter < (10 : ℚ) ^ ((309 : Nat) : Int) := by
  have enough := power_two_le.2
  have positive := power_pos (show 0 < 2 by decide) 1074
  have small : 4 * number.significand + 2 ≤ 36028797018963968 := by
    have := number.significand_lt
    omega
  have placed : power 2 number.place ≤ power 2 2045 := by
    unfold IsFinite at finite
    apply power_le_power (by decide)
    unfold place
    omega
  unfold quarter
  rw [zpow_natCast_eq]
  generalize power 2 1074 = units at *
  generalize power 10 309 = tens at *
  generalize power 2 2045 = most at *
  have unitsPos : (0 : ℚ) < (4 * units : Nat) := by exact_mod_cast (show 0 < 4 * units by omega)
  rw [mul_div_assoc', div_lt_iff₀ unitsPos]
  have less : (4 * number.significand + 2) * power 2 number.place < tens * (4 * units) := by
    calc (4 * number.significand + 2) * power 2 number.place ≤ 36028797018963968 * most :=
          Nat.mul_le_mul small placed
      _ < tens * (4 * units) := by
          have four : tens * (4 * units) = 4 * (tens * units) := by ring
          omega
  exact_mod_cast less

/-- A decimal that rounds to a number is neither taken for zero nor for an infinity. -/
theorem inRange_of_holds {number : Binary64} (finite : number.IsFinite) (positive : 0 < number.significand)
    {digits : Nat} {exponent : Int} (holds : number.roundingInterval.Holds (digits * (10 : ℚ) ^ exponent)) :
    0 < digits ∧ -330 ≤ exponent + (Text.decimal digits).length ∧
      exponent + (Text.decimal digits).length ≤ 310 := by
  rcases bounds_of_holds positive holds with ⟨low, high⟩
  have quarterPos := number.quarter_pos
  have tenPos : (0 : ℚ) < (10 : ℚ) ^ exponent := zpow_pos (by norm_num) exponent
  have some_digits : 0 < digits := by
    apply Nat.pos_of_ne_zero
    rintro rfl
    simp at low
    linarith
  rcases Text.decimal_bounds some_digits with ⟨least, most⟩
  have one : 0 < (Text.decimal digits).length := List.length_pos_iff.mpr (Text.decimal_ne_nil _)
  generalize (Text.decimal digits).length = length at *
  have below : (digits : ℚ) * (10 : ℚ) ^ exponent < (10 : ℚ) ^ (exponent + length) := by
    rw [zpow_add₀ (by norm_num), zpow_natCast, mul_comm]
    apply mul_lt_mul_of_pos_left _ tenPos
    exact_mod_cast most
  have above : (10 : ℚ) ^ (exponent + length - 1) ≤ digits * (10 : ℚ) ^ exponent := by
    have split : exponent + length - 1 = exponent + ((length - 1 : Nat) : Int) := by omega
    rw [split, zpow_add₀ (by norm_num), zpow_natCast, mul_comm]
    apply mul_le_mul_of_nonneg_right _ tenPos.le
    exact_mod_cast least
  have increases {few many : Int} (less : (10 : ℚ) ^ few < (10 : ℚ) ^ many) : few < many :=
    (zpow_lt_zpow_iff_right₀ (by norm_num)).mp less
  have notTiny := increases (number.tiny_le.trans_lt (low.trans_lt below))
  have notHuge := increases ((above.trans high).trans_lt (lt_huge finite))
  exact ⟨some_digits, by omega, by omega⟩

/-- A decimal that rounds to a number is read as the number. -/
theorem ofDecimal_eq {number : Binary64} (finite : number.IsFinite) (positive : 0 < number.significand)
    {digits : Nat} {exponent : Int} (holds : number.roundingInterval.Holds (digits * (10 : ℚ) ^ exponent)) :
    ofDecimal number.isNegative digits exponent = number := by
  rcases inRange_of_holds finite positive holds with ⟨some_digits, notTiny, notHuge⟩
  rcases number.exists_ends with ⟨lowStep, scale, ends⟩
  rw [← Interval.contains_tens ends.denominator] at holds
  unfold ofDecimal
  simp only [Int.ofNat_eq_natCast]
  rw [if_neg (by omega), if_neg (by omega)]
  exact ofRatio_eq finite (tens_pos exponent).2 holds

/-- The point of a positive number stands behind its first digit or further to the left. -/
theorem tens_point_le {number : Binary64} (positive : 0 < number.significand) :
    (10 : ℚ) ^ (pointPosition number.roundingInterval.middle number.roundingInterval.denominator - 1) ≤
      (4 * number.significand : Nat) * number.quarter := by
  rcases number.exists_ends with ⟨lowStep, scale, ends⟩
  rw [← ends.value, ← ends.middle]
  apply tens_pointPosition_le ends.denominator
  rw [ends.middle]
  have some_place := power_pos (show 0 < 2 by decide) number.place
  have hundreds : power 2 1074 ≤ power 10 400 := by
    have enough := power_two_le.1
    have more : power 10 330 ≤ power 10 400 := power_le_power (by decide) (by decide)
    omega
  calc number.roundingInterval.denominator
      ≤ number.roundingInterval.denominator * power 2 number.place := Nat.le_mul_of_pos_right _ some_place
    _ = 4 * scale * power 2 1074 := by rw [← ends.scaled, ← Nat.mul_assoc, Nat.mul_comm scale]
    _ ≤ 4 * number.significand * scale * power 10 400 := by
        apply Nat.mul_le_mul _ hundreds
        apply Nat.mul_le_mul_right
        omega

/-- On a grid that is fine enough the multiple below a positive number is found. -/
theorem isSome_nearest?_of_fine {number : Binary64} (positive : 0 < number.significand) {grid : Int}
    (fine : (10 : ℚ) ^ grid < number.quarter) (some_digits : (10 : ℚ) ^ grid ≤ 4 * number.significand * number.quarter) :
    (number.roundingInterval.nearest? grid).isSome = true := by
  rcases number.exists_ends with ⟨lowStep, scale, ends⟩
  have divides : (0 : ℚ) < number.roundingInterval.denominator := by exact_mod_cast ends.denominator
  have tensPos := tens_pos grid
  have unitPos : (0 : ℚ) < (tens grid).2 := by exact_mod_cast tensPos.2
  have stepPos : (0 : ℚ) < (10 : ℚ) ^ grid := zpow_pos (by norm_num) grid
  have atMiddle := ends.value (4 * number.significand)
  rw [← ends.middle] at atMiddle
  push_cast at atMiddle
  generalize isBelow : number.roundingInterval.middle * (tens grid).2 /
    (number.roundingInterval.denominator * (tens grid).1) = below
  have floor : below * (tens grid).1 * number.roundingInterval.denominator ≤
      number.roundingInterval.middle * (tens grid).2 := by
    rw [← isBelow, Nat.mul_assoc, Nat.mul_comm (tens grid).1]
    exact Nat.div_mul_le_self _ _
  have ceiling : number.roundingInterval.middle * (tens grid).2 <
      (below + 1) * (tens grid).1 * number.roundingInterval.denominator := by
    have next := Nat.lt_mul_div_succ (number.roundingInterval.middle * (tens grid).2)
      (Nat.mul_pos ends.denominator tensPos.1)
    rw [isBelow] at next
    calc number.roundingInterval.middle * (tens grid).2
        < number.roundingInterval.denominator * (tens grid).1 * (below + 1) := next
      _ = (below + 1) * (tens grid).1 * number.roundingInterval.denominator := by ring
  have notAbove : (below : ℚ) * (10 : ℚ) ^ grid ≤ 4 * number.significand * number.quarter := by
    rw [← atMiddle, ← tens_eq, mul_div_assoc', div_le_div_iff₀ unitPos divides]
    exact_mod_cast floor
  have lessAbove : 4 * number.significand * number.quarter < (below + 1) * (10 : ℚ) ^ grid := by
    rw [← atMiddle, ← tens_eq, mul_div_assoc', div_lt_div_iff₀ divides unitPos]
    exact_mod_cast ceiling
  apply Interval.isSome_nearest? ends.denominator _ isBelow
  · rcases number.holds_iff with ⟨lowStep, steps, isHeld⟩
    have quarterPos := number.quarter_pos
    have high : 4 * (number.significand : ℚ) * number.quarter <
        (4 * number.significand + 2 : Nat) * number.quarter := by
      push_cast
      linarith
    have low : ((4 * number.significand - lowStep : Nat) : ℚ) * number.quarter < below * (10 : ℚ) ^ grid := by
      have roomy : ((4 * number.significand - lowStep : Nat) : ℚ) ≤ 4 * number.significand - 1 := by
        rw [le_sub_iff_add_le]
        have less : 4 * number.significand - lowStep + 1 ≤ 4 * number.significand := by omega
        exact_mod_cast less
      have scaled := mul_le_mul_of_nonneg_right roomy quarterPos.le
      linarith
    rw [isHeld]
    split
    · exact ⟨low.le, (notAbove.trans_lt high).le⟩
    · exact ⟨low, notAbove.trans_lt high⟩
  · rintro rfl
    simp at lessAbove
    linarith

/-- The shortest decimal of a positive finite number rounds to the number. -/
theorem exists_shortestDigits {number : Binary64} (positive : 0 < number.significand) :
    ∃ digits : Nat, ∃ grid : Int, 0 < digits ∧
      number.shortestDigits = (Text.decimal digits, grid + Int.ofNat (Text.decimal digits).length) ∧
      number.roundingInterval.Holds (digits * (10 : ℚ) ^ grid) := by
  rcases number.exists_ends with ⟨lowStep, scale, ends⟩
  have bound := tens_point_le positive
  have quarterPos := number.quarter_pos
  generalize isPoint : pointPosition number.roundingInterval.middle number.roundingInterval.denominator = point at bound
  have found : (number.roundingInterval.nearest? (point - Int.ofNat 20)).isSome = true := by
    generalize isGrid : point - Int.ofNat 20 = grid
    have step : (10 : ℚ) ^ (point - 1) = (10 : ℚ) ^ grid * 10 ^ 19 := by
      rw [← zpow_natCast, ← zpow_add₀ (by norm_num)]
      congr 1
      simp only [Int.ofNat_eq_natCast] at isGrid
      omega
    have stepPos : (0 : ℚ) < (10 : ℚ) ^ grid := zpow_pos (by norm_num) grid
    have small : (number.significand : ℚ) < 9007199254740992 := by exact_mod_cast number.significand_lt
    rw [step] at bound
    push_cast at bound
    apply isSome_nearest?_of_fine positive
    · nlinarith
    · nlinarith
  have holds := Interval.holds_of_shortest ends.denominator found (show 1 ≤ 20 by decide) (show 20 < 1 + 20 by decide)
  rcases searched : number.roundingInterval.shortest point 1 20 with ⟨multiplier, grid⟩
  rw [searched] at holds
  refine ⟨(dropZeros multiplier grid 20).1, (dropZeros multiplier grid 20).2, dropZeros_pos holds.1 grid 20, ?_, ?_⟩
  · unfold shortestDigits
    dsimp only
    rw [isPoint, searched]
  · rw [value_dropZeros]
    exact holds.2

end Binary64

end SpecGraph
