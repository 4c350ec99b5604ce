import SpecGraph.Data.Order

/-!
# Reading plain data

Looking into a value fails for one of a few reasons, each a `Fault`: a mapping lacks a key, a value is
no mapping, a value is of a kind the operation is not defined for, or a text is no numeral. A `Table`
is a mapping under construction: adding under a key that is there already replaces the value and keeps
the place.

Values nest, and a machine has room for some number of calls inside one another, which is `mostCalls` here.
Where a text is taken apart, where a document is read from a value, and where YAML is written, the room is
a parameter, and the functions without the parameter have the room of this machine. What follows a value
that is there already, level by level, is taken to have room enough: JSON texts, fingerprints, the problems
of a document and its declarations.
-/

namespace SpecGraph

/-- Why a value cannot be read as asked. -/
inductive Fault where
  /-- A mapping has no entry under the key. -/
  | missingKey (key : Data)
  /-- The value offers no such operation. -/
  | missingMember
  /-- The operation is not defined for a value of this kind. -/
  | wrongKind
  /-- The value is of the right kind but outside the domain of the operation. -/
  | badValue
  /-- The number is infinite, or too large, where a smaller one is needed. -/
  | notFinite
  /-- A text or list has no such place. -/
  | outOfRange
  /-- A text that has to be written in bytes holds half a pair. -/
  | unwritable
  /-- The value is nested too deeply, or holds itself. -/
  | tooDeep
deriving Inhabited

/-- The number of calls that can be inside one another; one more fails as nested too deeply. -/
def mostCalls : Nat := 1000

/-- The number of levels of a value for which there is room inside some calls, if each level takes a number of calls. -/
def roomWithin (calls each : Nat) : Nat := (mostCalls - calls) / each

/-- Entries in insertion order, at most one for each key. -/
abbrev Table (α : Type) := List (Data × α)

namespace Table

variable {α : Type}

/-- The value under a key. -/
def get? (table : Table α) (key : Data) : Option α :=
  (table.find? fun entry => entry.1.alike key).map Prod.snd

/-- There is a value under a key. -/
def has (table : Table α) (key : Data) : Bool := table.any fun entry => entry.1.alike key

/-- The table with a value under a key, in the place of an earlier one or else at the end. -/
def insert (table : Table α) (key : Data) (value : α) : Table α :=
  match table with
  | [] => [(key, value)]
  | entry :: rest =>
      if entry.1.alike key then (entry.1, value) :: rest else entry :: insert rest key value

/-- The table of a list of entries, of which later ones replace earlier ones. -/
def ofEntries (entries : List (Data × α)) : Table α :=
  entries.foldl (fun table entry => insert table entry.1 entry.2) []

/-- The table of the values under the keys read from them. -/
def keyedBy (values : List α) (key : α → Except Fault Data) : Except Fault (Table α) :=
  values.foldlM (fun table value => do
    let name ← key value
    if name.isKey then pure (insert table name value) else throw .wrongKind) []

end Table

namespace Data

/-- The value of a mapping under a text. -/
def get? (value : Data) (name : String) : Option Data :=
  match value.bare with
  | .map entries => Table.get? entries (.text name)
  | _ => none

/-- The member of a mapping that has to be there. -/
def member (value : Data) (name : String) : Except Fault Data :=
  match value.bare with
  | .map entries =>
      match Table.get? entries (.text name) with
      | some found => pure found
      | none => throw (.missingKey (.text name))
  | _ => throw .wrongKind

/-- The member of a mapping, or a default for a mapping without it. -/
def memberOr (value : Data) (name : String) (default : Data) : Except Fault Data :=
  match value.bare with
  | .map entries => pure ((Table.get? entries (.text name)).getD default)
  | _ => throw .missingMember

/-- The values that a value is made of, one after the other. -/
def items (value : Data) : Except Fault (List Data) :=
  match value.bare with
  | .list items => pure items
  | .pair first second => pure [first, second]
  | .map entries => pure (entries.map Prod.fst)
  | .set items => pure items
  | .text value =>
      pure ((Text.codes value.toList).map fun code => .text (String.ofList (Text.ofCode code)))
  | .bytes value => pure (value.map fun byte => .int (Int.ofNat byte.toNat))
  | _ => throw .wrongKind

end Data

end SpecGraph
