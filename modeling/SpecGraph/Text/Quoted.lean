import SpecGraph.Text.Numeral
import SpecGraph.Text.Printable
import SpecGraph.Text.CodePoints

/-!
# Quoted texts

A text inside a message is shown between quotes. Single quotes are the rule; double quotes are taken
when the text holds a single quote and no double quote. Inside, a backslash and the chosen quote are
escaped, tab, line feed and carriage return have their short escapes, and every other character that
is not printable is written by its code point in the shortest of three hexadecimal forms.
-/

namespace SpecGraph

namespace Text

/-- The quote that surrounds a text. -/
def quoteFor (characters : List Char) : Char :=
  if characters.contains '\'' && !characters.contains '"' then '"' else '\''

/-- The code point of a character in the shortest hexadecimal escape that holds it. -/
def codeEscape (code : Nat) : List Char :=
  if code < 0x100 then '\\' :: 'x' :: hexadecimal lowerHexDigit 2 code
  else if code < 0x10000 then '\\' :: 'u' :: hexadecimal lowerHexDigit 4 code
  else '\\' :: 'U' :: hexadecimal lowerHexDigit 8 code

/-- A code point as it is written between quotes of the given kind. -/
def quotedCode (quote : Char) (code : Nat) : List Char :=
  let character := Char.ofNat code
  if character = quote ∨ character = '\\' then ['\\', character]
  else if character = '\t' then ['\\', 't']
  else if character = '\n' then ['\\', 'n']
  else if character = '\r' then ['\\', 'r']
  else if isPrintable character then [character]
  else codeEscape code

/-- A text between quotes. -/
def quoted (text : String) : String :=
  let quote := quoteFor text.toList
  String.ofList (quote :: ((codes text.toList).flatMap (quotedCode quote) ++ [quote]))

/-- A byte as it is written between quotes of the given kind. -/
def quotedByte (quote : Char) (byte : UInt8) : List Char :=
  let character := Char.ofNat byte.toNat
  if character = quote ∨ character = '\\' then ['\\', character]
  else if character = '\t' then ['\\', 't']
  else if character = '\n' then ['\\', 'n']
  else if character = '\r' then ['\\', 'r']
  else if 32 ≤ byte.toNat ∧ byte.toNat < 127 then [character]
  else '\\' :: 'x' :: hexadecimal lowerHexDigit 2 byte.toNat

/-- Bytes between quotes, after the letter that marks them. -/
def quotedBytes (bytes : List UInt8) : String :=
  let quote := quoteFor (bytes.map fun byte => Char.ofNat byte.toNat)
  String.ofList ('b' :: quote :: (bytes.flatMap (quotedByte quote) ++ [quote]))

end Text

end SpecGraph
