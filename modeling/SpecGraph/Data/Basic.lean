import SpecGraph.Number.Binary64
import SpecGraph.Data.Moment

/-!
# Plain data

The values that a data file can hold: the values of JSON, and beside them the dates, bytes, sets and
pairs of YAML. A mapping is a list of entries in insertion order, whose keys may be any values.

A YAML text can put one value into several places, and even into itself. The values of such a text are in
a store, where each has a place and names its parts by their places; so a value of a store is a place, and
`bare` gives its outermost layer. Two values of one place are one value, which its mark tells.

A value of a store can be written out as a tree. There a value has its mark where it stands first, or
around its parts, and its mark stands for it in the places inside or after that.
-/

namespace SpecGraph

/-- What tells a value that may be shared from all others. -/
structure Mark where
  /-- The number of the text it was read from. -/
  reading : Nat
  /-- Its place among the values of the text. -/
  place : Nat
deriving DecidableEq, Inhabited

/-- The outermost layer of a value of a store: a value without parts, or the places of its parts. Keys and
members of sets have no parts. -/
inductive Layer (α : Type) where
  | leaf (value : α)
  | list (items : List Nat)
  | pair (first second : Nat)
  | map (entries : List (α × Nat))
  | set (items : List α)

instance {α : Type} : Inhabited (Layer α) := ⟨.list []⟩

/-- The values of a text by their places. -/
structure Store (α : Type) where
  /-- The number of the text. -/
  reading : Nat
  /-- The outermost layers of the values. -/
  layers : Array (Layer α)

namespace Store

variable {α : Type}

/-- The outermost layer of the value at a place. -/
def layer (store : Store α) (place : Nat) : Layer α := store.layers.getD place default

/-- The mark of the value at a place. -/
def mark (store : Store α) (place : Nat) : Mark := ⟨store.reading, place⟩

/-- More than the number of values that can stand inside one another without one that does so twice. -/
def limit (store : Store α) : Nat := store.layers.size + 1

end Store

/-- A plain data value. -/
inductive Data where
  | null
  | bool (value : Bool)
  | int (value : Int)
  | float (value : Binary64)
  | text (value : String)
  | bytes (value : List UInt8)
  | moment (value : Moment)
  | list (items : List Data)
  | pair (first second : Data)
  | map (entries : List (Data × Data))
  | set (items : List Data)
  /-- The value at a place of a store. -/
  | shared (store : Store Data) (place : Nat)
  /-- A value with its mark. -/
  | marked (mark : Mark) (value : Data)
  /-- The value that has the mark, around this place or before it. -/
  | again (mark : Mark)
deriving Inhabited

namespace Data

/-- The value at a place of a store; one without parts needs no store. -/
def ofPlace (store : Store Data) (place : Nat) : Data :=
  match store.layer place with
  | .leaf value => value
  | _ => .shared store place

/-- The outermost layer of a value, without its mark. -/
def bare : Data → Data
  | .shared store place =>
      match store.layer place with
      | .leaf value => value
      | .list items => .list (items.map (ofPlace store))
      | .pair first second => .pair (ofPlace store first) (ofPlace store second)
      | .map entries => .map (entries.map fun (key, value) => (key, ofPlace store value))
      | .set items => .set items
  | .marked _ value => value
  | value => value

/-- The name of the kind of a value that has no store and no mark. -/
def bareKindName : Data → String
  | .null => "NoneType"
  | .bool _ => "bool"
  | .int _ => "int"
  | .float _ => "float"
  | .text _ => "str"
  | .bytes _ => "bytes"
  | .moment (.date _) => "date"
  | .moment (.time ..) => "datetime"
  | .pair .. => "tuple"
  | .map _ => "dict"
  | .set _ => "set"
  | _ => "list"

/-- The name of the kind of a value. -/
def kindName (value : Data) : String := value.bare.bareKindName

/-- A value that has no store and no mark counts as true: it is neither absent, nor zero, nor empty. -/
def isBareTruthy : Data → Bool
  | .null => false
  | .bool value => value
  | .int value => value != 0
  | .float value => value.significand != 0 || value.exponentBits != 0
  | .text value => value != ""
  | .bytes value => !value.isEmpty
  | .list items => !items.isEmpty
  | .map entries => !entries.isEmpty
  | .set items => !items.isEmpty
  | _ => true

/-- A value that counts as true: neither absent, nor zero, nor empty. -/
def isTruthy (value : Data) : Bool := value.bare.isBareTruthy

/-- A value without its mark. -/
def unmarked : Data → Data
  | .marked _ value => value
  | value => value

/-- A value has a mark. -/
def hasMark (mark : Mark) : Data → Bool
  | .marked other _ => other == mark
  | .again other => other == mark
  | _ => false

/-- The text of a value that is a text. -/
def text? : Data → Option String
  | .text value => some value
  | _ => none

/-- The value is a text. -/
def isText : Data → Bool
  | .text _ => true
  | _ => false

/-- A mapping with texts as keys. -/
def object (entries : List (String × Data)) : Data :=
  .map (entries.map fun (key, value) => (.text key, value))

/-- A list of texts. -/
def texts (values : List String) : Data := .list (values.map .text)

/-- A text, or null for none. -/
def optionalText (value : Option String) : Data := (value.map Data.text).getD .null

end Data

end SpecGraph
