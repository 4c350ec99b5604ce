/-!
# Numerals

Decimal and hexadecimal numerals as lists of characters, and the values of digits. A decimal numeral
has no leading zero; a hexadecimal numeral has the width it is asked for.
-/

namespace SpecGraph

namespace Text

/-- The decimal digit of a number below ten. -/
def decimalDigit (value : Nat) : Char := Char.ofNat (48 + value)

/-- The decimal numeral of a natural number. -/
def decimal (value : Nat) : List Char :=
  if value < 10 then [decimalDigit value]
  else decimal (value / 10) ++ [decimalDigit (value % 10)]
termination_by value
decreasing_by omega

/-- The decimal numeral of an integer, with a minus sign when it is negative. -/
def signedDecimal : Int → List Char
  | .ofNat value => decimal value
  | .negSucc value => '-' :: decimal (value + 1)

/-- The greatest number of digits of a decimal numeral that is read or shown. -/
def mostDigits : Nat := 4300

/-- The least natural number that has more digits than are shown. -/
def leastUnshown : Nat := Nat.pow 10 mostDigits

/-- The decimal numeral of an integer has no more digits than are shown. -/
def isShowable (value : Int) : Bool := value.natAbs < leastUnshown

/-- The decimal numeral of a natural number as a string. -/
def natText (value : Nat) : String := String.ofList (decimal value)

/-- The decimal numeral of an integer as a string. -/
def intText (value : Int) : String := String.ofList (signedDecimal value)

/-- The decimal numeral of a number, filled with zeros on the left up to a width. -/
def paddedDecimal (width value : Nat) : List Char :=
  let digits := decimal value
  List.replicate (width - digits.length) '0' ++ digits

/-- The value of an ASCII decimal digit. -/
def digitValue? (character : Char) : Option Nat :=
  if '0' ≤ character ∧ character ≤ '9' then some (character.toNat - 48) else none

/-- An ASCII decimal digit. -/
def isDigit (character : Char) : Bool := (digitValue? character).isSome

/-- The number a list of digits denotes in a base, reading on from an earlier value. -/
def readDigits (base : Nat) (valueOf : Char → Option Nat) (start : Nat) (digits : List Char) : Nat :=
  digits.foldl (fun total digit => total * base + (valueOf digit).getD 0) start

/-- The number that decimal digits denote. -/
def readDecimal (digits : List Char) : Nat := readDigits 10 digitValue? 0 digits

/-- The value of a hexadecimal digit of either case. -/
def hexValue? (character : Char) : Option Nat :=
  if '0' ≤ character ∧ character ≤ '9' then some (character.toNat - 48)
  else if 'a' ≤ character ∧ character ≤ 'f' then some (character.toNat - 87)
  else if 'A' ≤ character ∧ character ≤ 'F' then some (character.toNat - 55)
  else none

/-- The lower-case hexadecimal digit of a number below sixteen. -/
def lowerHexDigit (value : Nat) : Char :=
  if value < 10 then Char.ofNat (48 + value) else Char.ofNat (87 + value)

/-- The upper-case hexadecimal digit of a number below sixteen. -/
def upperHexDigit (value : Nat) : Char :=
  if value < 10 then Char.ofNat (48 + value) else Char.ofNat (55 + value)

/-- The last `width` hexadecimal digits of a number. -/
def hexadecimal (digit : Nat → Char) : (width value : Nat) → List Char
  | 0, _ => []
  | width + 1, value => hexadecimal digit width (value / 16) ++ [digit (value % 16)]

end Text

end SpecGraph
