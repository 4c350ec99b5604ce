import SpecGraph.Error.Basic
import SpecGraph.Text.Base64
import SpecGraph.Text.Float
import SpecGraph.Text.Lowercase
import SpecGraph.Yaml.Scalar

/-!
# Values of scalars

The value of a scalar follows from its type and its text. A tag can give a scalar a type that its text
does not suggest, so that a text may denote no value of its type.
-/

namespace SpecGraph

namespace Yaml

/-- A text without its underscores, its sign apart. -/
def signedDigits (text : List Char) : Except Error (Bool × List Char) :=
  match text.filter fun character => character != '_' with
  | [] => throw (.fault .outOfRange)
  | '-' :: rest => pure (true, rest)
  | '+' :: rest => pure (false, rest)
  | rest => pure (false, rest)

/-- An integer in a base, or a fault. -/
def integerIn (base : Nat) (text : List Char) : Except Error Int :=
  match Text.readIntegerIn? base text with
  | some value => pure value
  | none => throw (.fault .badValue)

/-- The value of parts of base sixty. -/
def sixtieths (parts : List Int) : Int := parts.foldl (fun value part => value * 60 + part) 0

/-- The integer that a scalar of its type denotes. -/
def readInt (text : List Char) : Except Error Int := do
  let (negative, digits) ← signedDigits text
  let size ←
    match digits with
    | ['0'] => pure 0
    | '0' :: 'b' :: rest => integerIn 2 rest
    | '0' :: 'x' :: rest => integerIn 16 rest
    | '0' :: _ => integerIn 8 digits
    | [] => throw (.fault .outOfRange)
    | _ =>
        if digits.contains ':' then sixtieths <$> (splitAt ':' digits).mapM (integerIn 10)
        else integerIn 10 digits
  return if negative then -size else size

/-- A floating-point number, or a fault. -/
def floatPart (text : List Char) : Except Error Binary64 :=
  match Text.readFloat? text with
  | some value => pure value
  | none => throw (.fault .badValue)

/-- The value of parts of base sixty, the last one first, given the weight of the first, which has to
be finite. -/
def sixtiethFloats (weight : Nat) (value : Float) : List Binary64 → Except Error Float
  | [] => pure value
  | part :: rest => do
      let factor := Binary64.ofInt (Int.ofNat weight)
      if factor.isInfinite then throw (.fault .notFinite)
      sixtiethFloats (weight * 60) (value + part.toFloat * factor.toFloat) rest

/-- What is not a number and is written as such. -/
def writtenNaN : Binary64 := Binary64.nanWith 1

/-- The floating-point number that a scalar of its type denotes. -/
def readFloat (text : List Char) : Except Error Binary64 := do
  let (negative, digits) ← signedDigits (text.map Char.toLower)
  if String.ofList digits == ".inf" then return Binary64.infinity negative
  if String.ofList digits == ".nan" then return writtenNaN
  let size ←
    if digits.contains ':' then do
      let parts ← (splitAt ':' digits).mapM floatPart
      pure (Binary64.ofFloat (← sixtiethFloats 1 0.0 parts.reverse))
    else floatPart digits
  return if negative then Binary64.ofFloat (-size.toFloat) else size

/-- The first six digits of a fraction as millionths. -/
def millionths (digits : List Char) : Nat :=
  let kept := digits.take 6
  Text.readDecimal (kept ++ List.replicate (6 - kept.length) '0')

/-- The date or time that a scalar of its type denotes. -/
def readTimestamp (text : List Char) : Except Error Moment := do
  match Timestamp.read? text with
  | none => throw (.fault .missingMember)
  | some parts =>
      let day : Day := ⟨parts.year, parts.month, parts.day⟩
      if !day.isValid then throw (.fault .badValue)
      match parts.clock with
      | none => return .date day
      | some (hour, minute, second, fraction) =>
          let clock : Clock := ⟨hour, minute, second, millionths fraction⟩
          let inRange := ((parts.offset.getD 0).natAbs < 1440 : Bool)
          if !clock.isValid || !inRange then throw (.fault .badValue)
          return .time day clock parts.offset

/-- The truth value that a scalar of its type denotes. -/
def readBool (text : List Char) : Except Error Bool :=
  let word := String.ofList (Text.lowered text)
  match truthValues.lookup word with
  | some value => pure value
  | none => throw (.fault (.missingKey (.text word)))

/-- The bytes that a scalar of their type denotes. -/
def readBinary (text : List Char) : Except Error (List UInt8) :=
  if text.all fun character => character.toNat < 128 then
    match Base64.decode? text with
    | some bytes => pure bytes
    | none => throw .notYaml
  else throw .notYaml

/-- The value of a scalar, given its type and text. -/
def readScalar (tag : Tag) (text : List Char) : Except Error Data := do
  match tag with
  | .null => return .null
  | .bool => return .bool (← readBool text)
  | .int => return .int (← readInt text)
  | .float => return .float (← readFloat text)
  | .binary => return .bytes (← readBinary text)
  | .timestamp => return .moment (← readTimestamp text)
  | .text => return .text (String.ofList text)
  | _ => throw .notYaml

end Yaml

end SpecGraph
