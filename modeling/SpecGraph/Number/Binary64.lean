import SpecGraph.Text.Numeral

/-!
# Binary floating-point numbers

A number in the 64-bit binary format, held as its bits so that two numbers are equal exactly when
their bits are. A finite number is `±m · 2^q` with natural `m` and integer `q`; the decomposition,
comparison with integers, rounding to the nearest number and the shortest decimal text all work in exact
arithmetic.

The shortest text is the decimal with the fewest digits among those that round to the number, and of
these the nearest. It is positional when the decimal point falls between four places before and
sixteen places after the first digit, and has an exponent of at least two digits otherwise.
-/

namespace SpecGraph

/-- A number in the 64-bit binary floating-point format. -/
structure Binary64 where
  /-- The sign bit, eleven exponent bits and fifty-two fraction bits. -/
  bits : UInt64
deriving DecidableEq, Inhabited

namespace Binary64

/-- The number with the value of a machine float. -/
def ofFloat (value : Float) : Binary64 := ⟨value.toBits⟩

/-- The machine float with the value of a number. -/
def toFloat (number : Binary64) : Float := Float.ofBits number.bits

/-- The sign bit is set. -/
def isNegative (number : Binary64) : Bool := 9223372036854775808 ≤ number.bits.toNat

/-- The eleven exponent bits. -/
def exponentBits (number : Binary64) : Nat := number.bits.toNat / 4503599627370496 % 2048

/-- The fifty-two fraction bits. -/
def fractionBits (number : Binary64) : Nat := number.bits.toNat % 4503599627370496

/-- Not a number. -/
def isNaN (number : Binary64) : Bool :=
  number.exponentBits == 2047 && number.fractionBits != 0

/-- One of the two infinities. -/
def isInfinite (number : Binary64) : Bool :=
  number.exponentBits == 2047 && number.fractionBits == 0

/-- The significand `m` of a finite number `±m · 2^q`. -/
def significand (number : Binary64) : Nat :=
  if number.exponentBits = 0 then number.fractionBits
  else number.fractionBits + 4503599627370496

/-- The exponent `q` of a finite number `±m · 2^q`. -/
def exponent (number : Binary64) : Int :=
  if number.exponentBits = 0 then -1074 else Int.ofNat number.exponentBits - 1075

/-- The integer power `base ^ exponent`. -/
def power (base exponent : Nat) : Nat := Nat.pow base exponent

/-- A power of ten as a quotient. -/
def tens (exponent : Int) : Nat × Nat :=
  match exponent with
  | .ofNat up => (power 10 up, 1)
  | .negSucc down => (1, power 10 (down + 1))

/-- The numerator and denominator of the magnitude of a finite number. -/
def magnitude (number : Binary64) : Nat × Nat :=
  match number.exponent with
  | .ofNat up => (number.significand * power 2 up, 1)
  | .negSucc down => (number.significand, power 2 (down + 1))

/-- A finite number rounded toward zero. -/
def truncate (number : Binary64) : Int :=
  let (numerator, denominator) := number.magnitude
  let whole := Int.ofNat (numerator / denominator)
  if number.isNegative then -whole else whole

/-- The sign of the difference between two integers. -/
def signOf (left right : Int) : Ordering :=
  if left < right then .lt else if left = right then .eq else .gt

/-- The order of two numbers, or nothing when one of them is not a number. -/
def compare? (left right : Binary64) : Option Ordering :=
  if left.isNaN || right.isNaN then none
  else
    let value (number : Binary64) : Int :=
      let positive := Int.ofNat (number.bits.toNat % 9223372036854775808)
      if number.isNegative then -positive else positive
    some (signOf (value left) (value right))

/-- The order of a number and an integer, or nothing when the number is not a number. -/
def compareInt? (number : Binary64) (value : Int) : Option Ordering :=
  if number.isNaN then none
  else if number.isInfinite then some (if number.isNegative then .lt else .gt)
  else
    let (numerator, denominator) := number.magnitude
    let signed := if number.isNegative then -Int.ofNat numerator else Int.ofNat numerator
    some (signOf signed (value * Int.ofNat denominator))

/-- The integer nearest to a quotient, and the even one of two that are equally near. -/
def roundedQuotient (numerator denominator : Nat) : Nat :=
  let below := numerator / denominator
  let double := 2 * (numerator % denominator)
  if double < denominator ∨ (double = denominator ∧ below % 2 = 0) then below else below + 1

/-- The bits of the infinity without a sign. -/
def infinityBits : Nat := 0x7FF0000000000000

/-- The bits of the number nearest to a quotient. -/
def nearestBits (numerator denominator : Nat) : Nat :=
  -- From here on the unit is the least positive number, of which all other numbers are multiples.
  let units := numerator * power 2 1074
  let step := (units / denominator).log2 - 52
  min (step * 4503599627370496 + roundedQuotient units (denominator * power 2 step)) infinityBits

/-- The number nearest to a quotient, with a sign. -/
def ofRatio (negative : Bool) (numerator denominator : Nat) : Binary64 :=
  let size := nearestBits numerator denominator
  ⟨UInt64.ofNat (if negative then size + 9223372036854775808 else size)⟩

/-- The number nearest to `±digits · 10^exponent`. -/
def ofDecimal (negative : Bool) (digits : Nat) (exponent : Int) : Binary64 :=
  let length := Int.ofNat (Text.decimal digits).length
  if digits = 0 ∨ exponent + length < -330 then ofRatio negative 0 1
  else if exponent + length > 310 then ofRatio negative (power 10 310) 1
  else
    let (scale, unit) := tens exponent
    ofRatio negative (digits * scale) unit

/-- The number nearest to an integer. -/
def ofInt (value : Int) : Binary64 := ofDecimal (value < 0) value.natAbs 0

/-- The infinity of a sign. -/
def infinity (negative : Bool) : Binary64 :=
  if negative then ⟨0xFFF0000000000000⟩ else ⟨0x7FF0000000000000⟩

/-- The value that is not a number and has a payload in its fraction, which tells it from others. -/
def nanWith (payload : Nat) : Binary64 :=
  ⟨UInt64.ofNat (0x7FF8000000000000 + payload % 0x8000000000000)⟩

/-- The canonical value that is not a number. -/
def nan : Binary64 := ⟨0x7FF8000000000000⟩

/-- The number nearest to one more than a number. -/
def addOne (number : Binary64) : Binary64 :=
  if number.isNaN then nan
  else if number.isInfinite then number
  else
    let (numerator, denominator) := number.magnitude
    let signed := if number.isNegative then -Int.ofNat numerator else Int.ofNat numerator
    let sum := signed + Int.ofNat denominator
    ofRatio (sum < 0) sum.natAbs denominator

/-- The least position `k` with `numerator / denominator < 10 ^ k`, for a value at least one. -/
def wholeDigits (numerator denominator : Nat) : Nat :=
  (Text.decimal (numerator / denominator)).length

/-- How often a value below one must be multiplied by ten until it reaches one. -/
def leadingZeros (numerator denominator : Nat) : (fuel : Nat) → Nat
  | 0 => 0
  | fuel + 1 =>
      if denominator ≤ numerator then 0
      else leadingZeros (numerator * 10) denominator fuel + 1

/-- The decimal point position `k` of a positive value `v`: `10 ^ (k - 1) ≤ v < 10 ^ k`. -/
def pointPosition (numerator denominator : Nat) : Int :=
  if denominator ≤ numerator then Int.ofNat (wholeDigits numerator denominator)
  else 1 - Int.ofNat (leadingZeros numerator denominator 400)

/-- An interval of positive reals over a common denominator, with a point inside it. -/
structure Interval where
  /-- The numerator of the lower end. -/
  low : Nat
  /-- The numerator of the point. -/
  middle : Nat
  /-- The numerator of the upper end. -/
  high : Nat
  /-- The common denominator. -/
  denominator : Nat
  /-- Both ends belong to the interval. -/
  closed : Bool

/-- The reals that round to the magnitude of a positive finite number. -/
def roundingInterval (number : Binary64) : Interval :=
  let m := number.significand
  let lowStep := if number.fractionBits = 0 ∧ 1 < number.exponentBits then 1 else 2
  let (scale, denominator) :=
    match number.exponent - 2 with
    | .ofNat up => (power 2 up, 1)
    | .negSucc down => (1, power 2 (down + 1))
  { low := (4 * m - lowStep) * scale, middle := 4 * m * scale, high := (4 * m + 2) * scale,
    denominator, closed := m % 2 = 0 }

namespace Interval

/-- The fraction `numerator / denominator` lies in the interval. -/
def contains (interval : Interval) (numerator denominator : Nat) : Bool :=
  let point := numerator * interval.denominator
  if interval.closed then
    interval.low * denominator ≤ point && point ≤ interval.high * denominator
  else
    interval.low * denominator < point && point < interval.high * denominator

/-- The multiple of `10 ^ grid` in the interval that is nearest to its point, as a multiplier. An
exact tie goes to the even multiplier. -/
def nearest? (interval : Interval) (grid : Int) : Option Nat :=
  let (scale, unit) := tens grid
  let below := interval.middle * unit / (interval.denominator * scale)
  let above := below + 1
  let hasBelow := below != 0 && interval.contains (below * scale) unit
  let hasAbove := interval.contains (above * scale) unit
  if hasBelow && hasAbove then
    let middle := interval.middle * unit
    let step := interval.denominator * scale
    let fromBelow := middle - below * step
    let toAbove := above * step - middle
    if fromBelow < toAbove then some below
    else if toAbove < fromBelow then some above
    else if below % 2 = 0 then some below
    else some above
  else if hasBelow then some below
  else if hasAbove then some above
  else none

/-- The first of the grids `10 ^ (point - digits)`, for one digit on, with a multiple in the interval. -/
def shortest (interval : Interval) (point : Int) (digits : Nat) : (fuel : Nat) → Nat × Int
  | 0 => (0, 0)
  | fuel + 1 =>
      let grid := point - Int.ofNat digits
      match interval.nearest? grid with
      | some multiplier => (multiplier, grid)
      | none => interval.shortest point (digits + 1) fuel

end Interval

/-- A decimal without trailing zeros as its digits and the exponent of the last one. -/
def dropZeros (multiplier : Nat) (grid : Int) : (fuel : Nat) → Nat × Int
  | 0 => (multiplier, grid)
  | fuel + 1 =>
      if multiplier % 10 = 0 ∧ multiplier ≠ 0 then dropZeros (multiplier / 10) (grid + 1) fuel
      else (multiplier, grid)

/-- The digits of the shortest decimal of a positive finite number, and the position of its point
counted from the first digit. -/
def shortestDigits (number : Binary64) : List Char × Int :=
  let interval := number.roundingInterval
  let point := pointPosition interval.middle interval.denominator
  let (multiplier, grid) := interval.shortest point 1 20
  let (multiplier, grid) := dropZeros multiplier grid 20
  let digits := Text.decimal multiplier
  (digits, grid + Int.ofNat digits.length)

/-- The least position of the decimal point that is written positionally. -/
def leastPoint : Int := -3

/-- The greatest position of the decimal point that is written positionally. -/
def greatestPoint : Int := 16

/-- Digits with a decimal point at a position between the two bounds. -/
def positional (digits : List Char) (point : Int) : List Char :=
  match point with
  | .ofNat whole =>
      if whole = 0 then '0' :: '.' :: digits
      else if digits.length ≤ whole then
        digits ++ List.replicate (whole - digits.length) '0' ++ ['.', '0']
      else digits.take whole ++ '.' :: digits.drop whole
  | .negSucc zeros => '0' :: '.' :: (List.replicate (zeros + 1) '0' ++ digits)

/-- Digits with an exponent of at least two digits. -/
def scientific (digits : List Char) (point : Int) : List Char :=
  let mantissa :=
    match digits with
    | [] => []
    | [digit] => [digit]
    | digit :: rest => digit :: '.' :: rest
  let exponent := point - 1
  mantissa ++ 'e' :: (if exponent < 0 then '-' else '+') :: Text.paddedDecimal 2 exponent.natAbs

/-- The shortest decimal text of the magnitude of a finite number. -/
def unsigned (number : Binary64) : List Char :=
  if number.significand = 0 then ['0', '.', '0']
  else
    let (digits, point) := number.shortestDigits
    if leastPoint ≤ point ∧ point ≤ greatestPoint then positional digits point
    else scientific digits point

/-- The shortest decimal text of a number. -/
def characters (number : Binary64) : List Char :=
  if number.isNaN then ['n', 'a', 'n']
  else
    let unsigned := if number.isInfinite then ['i', 'n', 'f'] else number.unsigned
    if number.isNegative then '-' :: unsigned else unsigned

/-- The shortest decimal text of a number as a string. -/
def text (number : Binary64) : String := String.ofList number.characters

end Binary64

end SpecGraph
