import SpecGraph.Data.Basic
import SpecGraph.Text.CodePoints
import SpecGraph.Text.Similar

/-!
# Primitive field types

The closed set of primitive types of a field. Each has a tag, the text that stands in declarations and
manifests, and a member name. A text that is no tag is answered by the tags most similar to it.
-/

namespace SpecGraph

/-- A primitive field type. -/
inductive FieldTag where
  | uint | uint1 | uint2 | uint3 | uint4 | uint5 | uint6 | uint7 | uint8 | uint16 | uint24 | uint32
  | uint40 | uint48 | uint56 | uint64 | int | int8 | int16 | int24 | int32 | int40 | int48 | int56
  | int64 | float32 | float64 | port | lexint | string | utf8 | ascii | hex | bigint | biguint64
  | bigint64 | fixed32 | fixed64 | buffer | date | bool | ip | ipv4 | ipv6 | ipAddress | ipv4Address
  | ipv6Address | none | raw | json
deriving DecidableEq, Inhabited

namespace FieldTag

/-- All primitive field types in their fixed order. -/
def all : List FieldTag := [
  uint, uint1, uint2, uint3, uint4, uint5, uint6, uint7, uint8, uint16, uint24, uint32, uint40, uint48,
  uint56, uint64, int, int8, int16, int24, int32, int40, int48, int56, int64, float32, float64, port,
  lexint, string, utf8, ascii, hex, bigint, biguint64, bigint64, fixed32, fixed64, buffer, date, bool,
  ip, ipv4, ipv6, ipAddress, ipv4Address, ipv6Address, none, raw, json]

/-- The tag of a type. -/
def tag : FieldTag → String
  | uint => "uint" | uint1 => "uint1" | uint2 => "uint2" | uint3 => "uint3" | uint4 => "uint4"
  | uint5 => "uint5" | uint6 => "uint6" | uint7 => "uint7" | uint8 => "uint8" | uint16 => "uint16"
  | uint24 => "uint24" | uint32 => "uint32" | uint40 => "uint40" | uint48 => "uint48"
  | uint56 => "uint56" | uint64 => "uint64" | int => "int" | int8 => "int8" | int16 => "int16"
  | int24 => "int24" | int32 => "int32" | int40 => "int40" | int48 => "int48" | int56 => "int56"
  | int64 => "int64" | float32 => "float32" | float64 => "float64" | port => "port"
  | lexint => "lexint" | string => "string" | utf8 => "utf8" | ascii => "ascii" | hex => "hex"
  | bigint => "bigint" | biguint64 => "biguint64" | bigint64 => "bigint64" | fixed32 => "fixed32"
  | fixed64 => "fixed64" | buffer => "buffer" | date => "date" | bool => "bool" | ip => "ip"
  | ipv4 => "ipv4" | ipv6 => "ipv6" | ipAddress => "ipAddress" | ipv4Address => "ipv4Address"
  | ipv6Address => "ipv6Address" | none => "none" | raw => "raw" | json => "json"

/-- The member name of a type: its tag in capitals, with the words of an address type apart. -/
def memberName : FieldTag → String
  | ipAddress => "IP_ADDRESS"
  | ipv4Address => "IPV4_ADDRESS"
  | ipv6Address => "IPV6_ADDRESS"
  | type => String.ofList (type.tag.toList.map Char.toUpper)

/-- The tags of all types. -/
def tags : List String := all.map tag

/-- The type with a tag. -/
def ofTag? (text : String) : Option FieldTag := all.find? fun type => type.tag == text

/-- The type with a member name. -/
def ofMember? (text : String) : Option FieldTag := all.find? fun type => type.memberName == text

/-- A text that is a tag. -/
def isTag (text : String) : Bool := (ofTag? text).isSome

/-- An element of a value as a character: a blank, which is in no tag, stands for all that are none. -/
def letter : Data → Char
  | .text text =>
      match text.toList with
      | [character] => character
      | _ => ' '
  | _ => ' '

/-- A code point as a character: a blank stands for all beyond ASCII. -/
def letterOfCode (code : Nat) : Char := if code < 128 then Char.ofNat code else ' '

/-- A value in letters: a text code point by code point, and a collection element by element. -/
def spelling : Data → String
  | .text text => String.ofList ((Text.codes text.toList).map letterOfCode)
  | .list items => String.ofList (items.map letter)
  | .map entries => String.ofList (entries.map fun entry => letter entry.1)
  | _ => ""

/-- The first place of a value that is looked at to find the tags similar to it. -/
def lookup? (value : Data) : Option Nat := Text.lookup? (spelling value).toList tags

/-- Up to three tags that are similar to a value. -/
def suggestions (value : Data) : List String := Text.closest 3 (spelling value) tags

end FieldTag

end SpecGraph
