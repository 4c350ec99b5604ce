import SpecGraph.Text.Numeral

/-!
# Integers in free form

A text denotes an integer when, blanks at both ends aside, it is an optional sign and decimal digits
with at most one underscore between two of them. Blanks and digits are those of all scripts. A decimal
numeral has a greatest length; in bases two, eight and sixteen there is none.
-/

namespace SpecGraph

namespace Text

/-- The zeros of the decimal digits of all scripts; each is followed by the other nine. -/
def decimalZeros : List Nat := [
  0x30, 0x660, 0x6f0, 0x7c0, 0x966, 0x9e6, 0xa66, 0xae6, 0xb66, 0xbe6, 0xc66, 0xce6, 0xd66,
  0xde6, 0xe50, 0xed0, 0xf20, 0x1040, 0x1090, 0x17e0, 0x1810, 0x1946, 0x19d0, 0x1a80, 0x1a90,
  0x1b50, 0x1bb0, 0x1c40, 0x1c50, 0xa620, 0xa8d0, 0xa900, 0xa9d0, 0xa9f0, 0xaa50, 0xabf0, 0xff10,
  0x104a0, 0x10d30, 0x11066, 0x110f0, 0x11136, 0x111d0, 0x112f0, 0x11450, 0x114d0, 0x11650,
  0x116c0, 0x11730, 0x118e0, 0x11950, 0x11c50, 0x11d50, 0x11da0, 0x16a60, 0x16ac0, 0x16b50,
  0x1d7ce, 0x1d7d8, 0x1d7e2, 0x1d7ec, 0x1d7f6, 0x1e140, 0x1e2f0, 0x1e950, 0x1fbf0]

/-- The value of a decimal digit of any script. -/
def anyDigit? (character : Char) : Option Nat :=
  let code := character.toNat
  (decimalZeros.find? fun start => start ≤ code && code < start + 10).map fun start => code - start

/-- A blank that may stand around a numeral: a white character of any script, but none of the four
separators of information. -/
def isBlank (character : Char) : Bool :=
  let code := character.toNat
  (9 ≤ code && code ≤ 13) || code == 32 || code == 0x85 || code == 0xa0 ||
    code == 0x1680 || (0x2000 ≤ code && code ≤ 0x200a) || code == 0x2028 || code == 0x2029 ||
    code == 0x202f || code == 0x205f || code == 0x3000

/-- A text without the blanks around a numeral. -/
def strip (text : List Char) : List Char :=
  ((text.dropWhile isBlank).reverse.dropWhile isBlank).reverse

/-- Digits with single underscores between them, reading on from an earlier value. -/
def readGrouped? (digit? : Char → Option Nat) (base : Nat) (value : Nat) : List Char → Option Nat
  | [] => some value
  | '_' :: character :: rest => do
      let digit ← digit? character
      readGrouped? digit? base (value * base + digit) rest
  | character :: rest => do
      let digit ← digit? character
      readGrouped? digit? base (value * base + digit) rest

/-- A digit of a base, decimal digits in any script. -/
def digitIn? (base : Nat) (character : Char) : Option Nat := do
  let value ← if base = 16 then (anyDigit? character <|> hexValue? character) else anyDigit? character
  if value < base then some value else none

/-- The value of digits of which the first one is not an underscore. -/
def readNatural? (base : Nat) (text : List Char) : Option Nat :=
  match text with
  | [] => none
  | '_' :: _ => none
  | _ => readGrouped? (digitIn? base) base 0 text

/-- The letters that may stand after a zero to tell the base. -/
def baseLetters (base : Nat) : List Char :=
  if base = 2 then ['b', 'B'] else if base = 8 then ['o', 'O']
  else if base = 16 then ['x', 'X'] else []

/-- The value of digits, which may start with a zero and a letter that tells the base. -/
def readUnsigned? (base : Nat) (text : List Char) : Option Nat :=
  match text with
  | '0' :: letter :: rest =>
      if (baseLetters base).contains letter then
        readNatural? base (match rest with | '_' :: more => more | _ => rest)
      else readNatural? base text
  | _ => readNatural? base text

/-- A text has more digits than a numeral in a base that is no power of two may have. -/
def isTooLong (base : Nat) (text : List Char) : Bool :=
  base == 10 && mostDigits < (text.filter fun character => (anyDigit? character).isSome).length

/-- The integer that a text denotes in a base. -/
def readIntegerIn? (base : Nat) (text : List Char) : Option Int :=
  if isTooLong base text then none
  else match strip text with
  | '-' :: rest => (readUnsigned? base rest).map fun value => -Int.ofNat value
  | '+' :: rest => (readUnsigned? base rest).map Int.ofNat
  | rest => (readUnsigned? base rest).map Int.ofNat

/-- The integer that a text denotes. -/
def readInteger? (text : String) : Option Int := readIntegerIn? 10 text.toList

end Text

end SpecGraph
