import Mathlib.Algebra.Order.Group.Nat
import Mathlib.Tactic.Ring
import SpecGraph.Number.Binary64

/-!
# Rounding to the nearest number

The bits of a finite magnitude count the numbers below it, place by place: a place has the numbers with one unit in
the last place, which is a power of two, and the next place has twice that unit. A quotient in the rounding interval
of a number is at most half a unit away from it, so rounding the quotient gives the number back. Below the least
number of a place the unit is only half as large, and a quotient there is rounded up to that number from the place
before.
-/

namespace SpecGraph

namespace Binary64

/-- A number that is neither infinite nor without a value. -/
def IsFinite (number : Binary64) : Prop := number.exponentBits < 2047

/-- How often the least positive number is doubled in the unit of the last place of a number. -/
def place (number : Binary64) : Nat := number.exponentBits - 1

theorem power_eq (base exponent : Nat) : power base exponent = base ^ exponent := rfl

theorem power_pos {base : Nat} (positive : 0 < base) (exponent : Nat) : 0 < power base exponent :=
  Nat.pow_pos positive

theorem power_le_power {base : Nat} (positive : 0 < base) {few many : Nat} (less : few ≤ many) :
    power base few ≤ power base many := Nat.pow_le_pow_right positive less

theorem exponent_eq (number : Binary64) : number.exponent = Int.ofNat number.place - 1074 := by
  unfold exponent place
  split <;> simp <;> omega

theorem bits_eq (number : Binary64) :
    number.bits.toNat % 9223372036854775808 = number.place * 4503599627370496 + number.significand := by
  unfold significand place fractionBits exponentBits
  split <;> omega

theorem significand_lt (number : Binary64) : number.significand < 9007199254740992 := by
  unfold significand fractionBits
  split <;> omega

/-- The rounding interval of a number in units of a quarter of its last place. -/
structure Ends (number : Binary64) (lowStep scale : Nat) : Prop where
  low : number.roundingInterval.low = (4 * number.significand - lowStep) * scale
  middle : number.roundingInterval.middle = 4 * number.significand * scale
  high : number.roundingInterval.high = (4 * number.significand + 2) * scale
  denominator : 0 < number.roundingInterval.denominator
  scaled : scale * (4 * power 2 1074) = number.roundingInterval.denominator * power 2 number.place
  /-- Only the least number of a place has less room below it. -/
  lowStep : lowStep = 2 ∧ (number.place = 0 ∨ 4503599627370496 < number.significand) ∨
    lowStep = 1 ∧ 0 < number.place ∧ number.significand = 4503599627370496

theorem exists_ends (number : Binary64) : ∃ lowStep scale, number.Ends lowStep scale := by
  refine ⟨if number.fractionBits = 0 ∧ 1 < number.exponentBits then 1 else 2, ?_⟩
  have steps : (if number.fractionBits = 0 ∧ 1 < number.exponentBits then 1 else 2) = 2 ∧
        (number.place = 0 ∨ 4503599627370496 < number.significand) ∨
      (if number.fractionBits = 0 ∧ 1 < number.exponentBits then 1 else 2) = 1 ∧
        0 < number.place ∧ number.significand = 4503599627370496 := by
    unfold significand place
    split <;> split <;> omega
  have shifted := number.exponent_eq
  simp only [Int.ofNat_eq_natCast] at shifted
  have four : 4 * 2 ^ 1074 = 2 ^ (2 + 1074) := by rw [Nat.pow_add, show 2 ^ 2 = 4 from rfl]
  cases shape : number.exponent - 2 with
  | ofNat up =>
      have isPlace : number.place = up + (2 + 1074) := by
        simp only [Int.ofNat_eq_natCast] at shape
        omega
      refine ⟨2 ^ up, ?_, ?_, ?_, ?_, ?_, steps⟩ <;> simp only [roundingInterval, shape, power_eq]
      · exact Nat.one_pos
      · rw [four, isPlace, ← Nat.pow_add, Nat.one_mul]
  | negSucc down =>
      have isPlace : 2 + 1074 = down + 1 + number.place := by omega
      refine ⟨1, ?_, ?_, ?_, ?_, ?_, steps⟩ <;> simp only [roundingInterval, shape, power_eq]
      · exact Nat.pow_pos (by decide)
      · rw [four, isPlace, ← Nat.pow_add, Nat.one_mul]

/-- An end of the rounding interval is compared with a quotient in units of the least positive number. -/
theorem Ends.compare {number : Binary64} {lowStep scale : Nat} (ends : number.Ends lowStep scale)
    (quarters numerator denominator : Nat) :
    (quarters * scale * denominator ≤ numerator * number.roundingInterval.denominator ↔
      quarters * (denominator * power 2 number.place) ≤ 4 * (numerator * power 2 1074)) ∧
    (numerator * number.roundingInterval.denominator ≤ quarters * scale * denominator ↔
      4 * (numerator * power 2 1074) ≤ quarters * (denominator * power 2 number.place)) := by
  have scaled := ends.scaled
  have positive : 0 < 4 * power 2 1074 := Nat.mul_pos (by decide) (power_pos (by decide) 1074)
  generalize power 2 1074 = units at *
  have atEnd : quarters * scale * denominator * (4 * units) =
      number.roundingInterval.denominator * (quarters * (denominator * power 2 number.place)) := by
    calc quarters * scale * denominator * (4 * units)
        = quarters * denominator * (scale * (4 * units)) := by ring
      _ = _ := by rw [scaled]; ring
  have atQuotient : numerator * number.roundingInterval.denominator * (4 * units) =
      number.roundingInterval.denominator * (4 * (numerator * units)) := by ring
  constructor
  · rw [← Nat.mul_le_mul_right_iff positive, atEnd, atQuotient, Nat.mul_le_mul_left_iff ends.denominator]
  · rw [← Nat.mul_le_mul_right_iff positive, atEnd, atQuotient, Nat.mul_le_mul_left_iff ends.denominator]

/-- A quotient within half a unit of an integer is rounded to it, at half a unit only to an even one. -/
theorem roundedQuotient_eq {numerator denominator nearest : Nat} (positive : 0 < denominator)
    (low : 4 * (nearest * denominator) ≤ 4 * numerator + 2 * denominator)
    (high : 4 * numerator ≤ 4 * (nearest * denominator) + 2 * denominator)
    (ties : nearest % 2 = 0 ∨ 4 * (nearest * denominator) < 4 * numerator + 2 * denominator ∧
      4 * numerator < 4 * (nearest * denominator) + 2 * denominator) :
    roundedQuotient numerator denominator = nearest := by
  have split := Nat.div_add_mod' numerator denominator
  have small := Nat.mod_lt numerator positive
  unfold roundedQuotient
  dsimp only
  generalize numerator / denominator = below at *
  generalize numerator % denominator = rest at *
  have notAbove : below ≤ nearest := by
    by_contra above
    have more : (nearest + 1) * denominator ≤ below * denominator := Nat.mul_le_mul_right _ (by omega)
    rw [Nat.add_mul] at more
    omega
  have notBelow : nearest ≤ below + 1 := by
    by_contra under
    have more : (below + 2) * denominator ≤ nearest * denominator := Nat.mul_le_mul_right _ (by omega)
    rw [Nat.add_mul] at more
    omega
  rcases Nat.lt_or_ge below nearest with less | notLess
  · obtain rfl : nearest = below + 1 := by omega
    rw [Nat.add_mul, Nat.one_mul] at low high ties
    split <;> omega
  · obtain rfl : nearest = below := by omega
    split <;> omega

/-- The place of a quotient is told by its first bits. -/
theorem log2_sub_eq {units denominator place : Nat} (positive : 0 < denominator)
    (high : units < 9007199254740992 * (denominator * power 2 place))
    (low : place = 0 ∨ 4503599627370496 * (denominator * power 2 place) ≤ units) :
    (units / denominator).log2 - 52 = place := by
  rw [power_eq] at high low
  have less : units / denominator < 2 ^ (53 + place) := by
    rw [Nat.div_lt_iff_lt_mul positive, Nat.pow_add]
    calc units < 9007199254740992 * (denominator * 2 ^ place) := high
      _ = 2 ^ 53 * 2 ^ place * denominator := by ring
  rcases low with rfl | low
  · by_cases zero : units / denominator = 0
    · simp [zero]
    · have := (Nat.log2_lt zero).mpr less
      omega
  · have more : 2 ^ (52 + place) ≤ units / denominator := by
      rw [Nat.le_div_iff_mul_le positive, Nat.pow_add]
      calc 2 ^ 52 * 2 ^ place * denominator = 4503599627370496 * (denominator * 2 ^ place) := by ring
        _ ≤ units := low
    have nonzero : units / denominator ≠ 0 := by
      have := Nat.pow_pos (n := 52 + place) (show 0 < 2 by decide)
      omega
    have upper := (Nat.log2_lt nonzero).mpr less
    have lower := (Nat.le_log2 nonzero).mpr more
    omega

/-- A quotient in a rounding interval is at most half a unit in the last place away from the number. -/
structure Near (number : Binary64) (units unit : Nat) : Prop where
  low : 4 * (number.significand * unit) ≤ 4 * units + 2 * unit
  high : 4 * units ≤ 4 * (number.significand * unit) + 2 * unit
  ties : number.significand % 2 = 0 ∨ 4 * (number.significand * unit) < 4 * units + 2 * unit ∧
    4 * units < 4 * (number.significand * unit) + 2 * unit
  /-- There is less room below the least number of a place. -/
  least : number.place = 0 ∨ 4503599627370496 < number.significand ∨
    4 * (number.significand * unit) ≤ 4 * units + unit

theorem near_of_contains {number : Binary64} {numerator denominator : Nat}
    (inside : number.roundingInterval.contains numerator denominator = true) :
    number.Near (numerator * power 2 1074) (denominator * power 2 number.place) := by
  rcases number.exists_ends with ⟨lowStep, scale, ends⟩
  have lowStepCases := ends.lowStep
  rcases ends.compare (4 * number.significand - lowStep) numerator denominator with ⟨aboveLow, atLow⟩
  rcases ends.compare (4 * number.significand + 2) numerator denominator with ⟨atHigh, belowHigh⟩
  have isClosed : number.roundingInterval.closed = decide (number.significand % 2 = 0) := rfl
  unfold Interval.contains at inside
  rw [ends.low, ends.high, isClosed] at inside
  generalize denominator * power 2 number.place = unit at *
  generalize numerator * power 2 1074 = units at *
  have lowEnd : (4 * number.significand - lowStep) * unit = 4 * (number.significand * unit) - lowStep * unit := by
    rw [Nat.sub_mul, Nat.mul_assoc]
  have highEnd : (4 * number.significand + 2) * unit = 4 * (number.significand * unit) + 2 * unit := by
    rw [Nat.add_mul, Nat.mul_assoc]
  rw [lowEnd] at aboveLow atLow
  rw [highEnd] at atHigh belowHigh
  by_cases even : number.significand % 2 = 0
  · simp only [even, decide_true, if_true, Bool.and_eq_true, decide_eq_true_eq] at inside
    have low := aboveLow.mp inside.1
    have high := belowHigh.mp inside.2
    rcases lowStepCases with ⟨rfl, roomy⟩ | ⟨rfl, later, least⟩
    · exact ⟨by omega, by omega, Or.inl even, by omega⟩
    · exact ⟨by omega, by omega, Or.inl even, by omega⟩
  · simp only [even, decide_false, Bool.false_eq_true, if_false, Bool.and_eq_true, decide_eq_true_eq] at inside
    have low := mt atLow.mpr (Nat.not_le.mpr inside.1)
    have high := mt atHigh.mpr (Nat.not_le.mpr inside.2)
    rcases lowStepCases with ⟨rfl, roomy⟩ | ⟨rfl, later, least⟩
    · exact ⟨by omega, by omega, Or.inr ⟨by omega, by omega⟩, by omega⟩
    · omega

theorem place_of_significand_lt {number : Binary64} (less : number.significand < 4503599627370496) :
    number.place = 0 := by
  unfold significand at less
  unfold place
  split at less <;> omega

/-- A quotient near a finite number has the bits of its magnitude. -/
theorem Near.nearestBits_eq {number : Binary64} (finite : number.IsFinite) {numerator denominator : Nat}
    (positive : 0 < denominator)
    (near : number.Near (numerator * power 2 1074) (denominator * power 2 number.place)) :
    nearestBits numerator denominator = number.bits.toNat % 9223372036854775808 := by
  have size := number.bits_eq
  have notInfinite : number.bits.toNat % 9223372036854775808 ≤ infinityBits := by
    unfold IsFinite exponentBits at finite
    unfold infinityBits
    omega
  unfold nearestBits
  dsimp only
  generalize numerator * power 2 1074 = units at *
  rcases near with ⟨low, high, ties, least⟩
  have unitPositive : 0 < denominator * power 2 number.place :=
    Nat.mul_pos positive (power_pos (by decide) number.place)
  have before : (number.significand + 1) * (denominator * power 2 number.place) ≤
      9007199254740992 * (denominator * power 2 number.place) :=
    Nat.mul_le_mul_right _ number.significand_lt
  rw [Nat.add_mul] at before
  have after (few : Nat) (enough : few ≤ number.significand) :
      few * (denominator * power 2 number.place) ≤ number.significand * (denominator * power 2 number.place) :=
    Nat.mul_le_mul_right _ enough
  by_cases inPlace : number.place = 0 ∨ 4503599627370496 * (denominator * power 2 number.place) ≤ units
  · rw [log2_sub_eq positive (by omega) inPlace, roundedQuotient_eq unitPositive low high ties]
    omega
  · -- The quotient is below the least number of the place and belongs to the place before.
    have isLeast : number.significand = 4503599627370496 := by
      have enough := mt place_of_significand_lt (not_or.mp inPlace).1
      have tooMuch := after 4503599627370497
      omega
    obtain ⟨earlier, isPlace⟩ : ∃ earlier, number.place = earlier + 1 := ⟨number.place - 1, by omega⟩
    have double : denominator * power 2 (earlier + 1) = 2 * (denominator * power 2 earlier) := by
      rw [power_eq, power_eq, Nat.pow_succ]
      ring
    rw [isPlace, isLeast] at size least low
    rw [isPlace] at inPlace
    rw [double] at least low inPlace
    have placed : (units / denominator).log2 - 52 = earlier :=
      log2_sub_eq positive (by omega) (Or.inr (by omega))
    have rounded : roundedQuotient units (denominator * power 2 earlier) = 9007199254740992 :=
      roundedQuotient_eq (by omega) (by omega) (by omega) (Or.inl rfl)
    rw [Nat.add_mul, Nat.one_mul, Nat.add_assoc] at size
    rw [placed, rounded, size]
    exact Nat.min_eq_left (size ▸ notInfinite)

/-- A quotient in the rounding interval of a finite number is rounded to the number. -/
theorem ofRatio_eq {number : Binary64} (finite : number.IsFinite) {numerator denominator : Nat}
    (positive : 0 < denominator) (inside : number.roundingInterval.contains numerator denominator = true) :
    ofRatio number.isNegative numerator denominator = number := by
  have size := (near_of_contains inside).nearestBits_eq finite positive
  have bound := number.bits.toNat_lt
  unfold ofRatio isNegative
  rw [size]
  rcases number with ⟨bits⟩
  refine congrArg mk (UInt64.toNat_inj.mp ?_)
  dsimp only at bound ⊢
  rw [UInt64.toNat_ofNat']
  split <;> rename_i sign <;> rw [decide_eq_true_eq] at sign <;> omega

/-- Zero is rounded to the zero of the sign. -/
theorem ofRatio_zero {number : Binary64} (isZero : number.significand = 0) :
    ofRatio number.isNegative 0 1 = number := by
  have finite : number.IsFinite := by
    unfold significand at isZero
    unfold IsFinite
    split at isZero <;> omega
  apply ofRatio_eq finite Nat.one_pos
  simp [roundingInterval, Interval.contains, isZero]

/-- A number is finite, infinite or not a number. -/
theorem isFinite_of_not {number : Binary64} (someValue : ¬number.isNaN = true) (bounded : ¬number.isInfinite = true) :
    number.IsFinite := by
  have small : number.exponentBits < 2048 := Nat.mod_lt _ (by decide)
  simp only [isNaN, isInfinite, Bool.and_eq_true, beq_iff_eq, bne_iff_ne] at someValue bounded
  unfold IsFinite
  omega

/-- The bits of an infinity are those of its name. -/
theorem infinity_eq {number : Binary64} (infinite : number.isInfinite = true) :
    infinity number.isNegative = number := by
  rcases number with ⟨bits⟩
  have bound := bits.toNat_lt
  simp only [isInfinite, exponentBits, fractionBits, Bool.and_eq_true, beq_iff_eq] at infinite
  unfold infinity isNegative
  dsimp only
  split <;> rename_i sign <;> rw [decide_eq_true_eq] at sign <;>
    refine congrArg mk (UInt64.toNat_inj.mp ?_)
  · change 18442240474082181120 = bits.toNat
    omega
  · change 9218868437227405312 = bits.toNat
    omega

/-- A quotient is rounded to a number. -/
theorem isNaN_ofRatio (negative : Bool) (numerator denominator : Nat) :
    (ofRatio negative numerator denominator).isNaN = false := by
  have bound : nearestBits numerator denominator ≤ infinityBits := Nat.min_le_right _ _
  unfold ofRatio isNaN exponentBits fractionBits
  dsimp only
  generalize nearestBits numerator denominator = size at *
  unfold infinityBits at bound
  rw [UInt64.toNat_ofNat']
  cases negative <;> simp only [Bool.false_eq_true, if_true, if_false, Bool.and_eq_false_iff, beq_eq_false_iff_ne,
    bne_eq_false_iff_eq] <;> omega

theorem isNaN_ofDecimal (negative : Bool) (digits : Nat) (exponent : Int) :
    (ofDecimal negative digits exponent).isNaN = false := by
  unfold ofDecimal
  dsimp only
  split
  · exact isNaN_ofRatio _ _ _
  · split
    · exact isNaN_ofRatio _ _ _
    · exact isNaN_ofRatio _ _ _

end Binary64

end SpecGraph
