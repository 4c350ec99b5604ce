import SpecGraph.Number.Binary64
import SpecGraph.Text.Integer

/-!
# Floating-point numbers in free form

A text denotes a floating-point number when, blanks at both ends aside, it is an optional sign and
decimal digits with an optional point among them and an optional exponent, or one of the words for
infinity and for what is not a number. Single underscores may stand between two digits.
-/

namespace SpecGraph

namespace Text

/-- The decimal digit for a digit of any script, and every other character as it stands. -/
def asciiDigit (character : Char) : Char := ((anyDigit? character).map decimalDigit).getD character

/-- A text without underscores, if each of them stands between two digits. -/
def dropUnderscores? (afterDigit : Bool) : List Char → Option (List Char)
  | [] => some []
  | '_' :: character :: rest =>
      if afterDigit && isDigit character then
        (dropUnderscores? true rest).map (character :: ·)
      else none
  | '_' :: [] => none
  | character :: rest => (dropUnderscores? (isDigit character) rest).map (character :: ·)

/-- The exponent after its letter, or zero for no text. -/
def readExponent? : List Char → Option Int
  | [] => some 0
  | mark :: rest => do
      if mark ≠ 'e' ∧ mark ≠ 'E' then none
      let (negative, digits) : Bool × List Char :=
        match rest with
        | '-' :: more => (true, more)
        | '+' :: more => (false, more)
        | _ => (false, rest)
      if digits.isEmpty || !digits.all isDigit then none
      let size := Int.ofNat (readDecimal digits)
      some (if negative then -size else size)

/-- The number that a text without a sign denotes. -/
def readUnsignedFloat? (negative : Bool) (text : List Char) : Option Binary64 := do
  let word := String.ofList (text.map Char.toLower)
  if word == "inf" || word == "infinity" then return Binary64.infinity negative
  if word == "nan" then return Binary64.nan
  let whole := text.takeWhile isDigit
  let (fraction, rest) :=
    match text.drop whole.length with
    | '.' :: more => (more.takeWhile isDigit, more.dropWhile isDigit)
    | rest => ([], rest)
  if whole.isEmpty && fraction.isEmpty then none
  let exponent ← readExponent? rest
  return Binary64.ofDecimal negative (readDecimal (whole ++ fraction))
    (exponent - Int.ofNat fraction.length)

/-- The floating-point number that a text denotes. -/
def readFloat? (text : List Char) : Option Binary64 := do
  let plain ← dropUnderscores? false ((strip text).map asciiDigit)
  match plain with
  | '-' :: rest => readUnsignedFloat? true rest
  | '+' :: rest => readUnsignedFloat? false rest
  | rest => readUnsignedFloat? false rest

end Text

end SpecGraph
