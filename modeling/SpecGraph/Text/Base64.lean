import SpecGraph.Text.Numeral

/-!
# Base 64

Bytes as text: three bytes are four digits of base 64, and equals signs fill the last group. Reading
skips every other character; a text that ends within a group, or with a single digit of one, is
refused.
-/

namespace SpecGraph

namespace Base64

/-- The digits in the order of their values. -/
def alphabet : List Char :=
  "ABCDEFGHIJKLMNOPQRSTUVWXYZabcdefghijklmnopqrstuvwxyz0123456789+/".toList

/-- The value of a digit. -/
def digitValue? (character : Char) : Option Nat := alphabet.findIdx? fun digit => digit == character

/-- The digit of a value below 64. -/
def digit (value : Nat) : Char := alphabet.getD value '='

/-- The bytes of a text, given the number of digits of the group so far, the bits of the last one that
are left, and the number of equals signs since. -/
def decodeFrom : (place left pads : Nat) → List Char → Option (List UInt8)
  | place, _, _, [] => if place = 0 then some [] else none
  | place, left, pads, character :: rest =>
      if character = '=' then
        if 2 ≤ place ∧ 4 ≤ place + (pads + 1) then some []
        else decodeFrom place left (if 2 ≤ place then pads + 1 else pads) rest
      else
        match digitValue? character with
        | none => decodeFrom place left pads rest
        | some value =>
            match place with
            | 0 => decodeFrom 1 value 0 rest
            | 1 =>
                (decodeFrom 2 (value % 16) 0 rest).map (UInt8.ofNat (left * 4 + value / 16) :: ·)
            | 2 =>
                (decodeFrom 3 (value % 4) 0 rest).map (UInt8.ofNat (left * 16 + value / 4) :: ·)
            | _ => (decodeFrom 0 0 0 rest).map (UInt8.ofNat (left * 64 + value) :: ·)

/-- The bytes of a text. -/
def decode? (text : List Char) : Option (List UInt8) := decodeFrom 0 0 0 text

/-- The digits of bytes. -/
def encode : List UInt8 → List Char
  | [] => []
  | [first] =>
      [digit (first.toNat / 4), digit (first.toNat % 4 * 16), '=', '=']
  | [first, second] =>
      [digit (first.toNat / 4), digit (first.toNat % 4 * 16 + second.toNat / 16),
        digit (second.toNat % 16 * 4), '=']
  | first :: second :: third :: rest =>
      digit (first.toNat / 4) :: digit (first.toNat % 4 * 16 + second.toNat / 16) ::
        digit (second.toNat % 16 * 4 + third.toNat / 64) :: digit (third.toNat % 64) :: encode rest

/-- A text in lines of up to 76 characters, each with an end. -/
def inLines : (fuel : Nat) → List Char → List Char
  | 0, _ => []
  | fuel + 1, text =>
      if text.isEmpty then [] else text.take 76 ++ '\n' :: inLines fuel (text.drop 76)

/-- The digits of bytes in lines. -/
def encodeLines (bytes : List UInt8) : List Char :=
  let text := encode bytes
  inLines (text.length + 1) text

end Base64

end SpecGraph
