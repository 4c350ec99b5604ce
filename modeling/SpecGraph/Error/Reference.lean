import SpecGraph.Error.Basic

/-!
# References

A reference is a value that should be the name of a declaration, or the tag of a field type. Every value
that counts as false is an empty name; every other value that is no text is of the wrong kind. A tag is
compared with the known ones letter by letter, which a list allows if its elements are keys, and a
mapping as long as no letter is looked up by its place.
-/

namespace SpecGraph

namespace Reference

/-- The address that a value denotes. -/
def parse (reference : Data) : Except Error Name :=
  match reference with
  | .text text =>
      match Name.parse text with
      | .ok name => pure name
      | .error fault => throw (.name reference fault)
  | _ =>
      if reference.isTruthy then throw (.fault .missingMember)
      else throw (.name reference .empty)

/-- The full name that a value denotes. -/
def normalize (reference : Data) : Except Error String := return (← parse reference).format

/-- The field type that a value is the tag of. -/
def fieldType (value : Data) : Except Error FieldTag :=
  match value with
  | .text tag =>
      match FieldTag.ofTag? tag with
      | some type => pure type
      | none => throw (.unknownType value)
  | .list items => if items.all Data.isKey then throw (.unknownType value) else throw (.fault .wrongKind)
  | .map _ =>
      match FieldTag.lookup? value with
      | some place => throw (.fault (.missingKey (.int (Int.ofNat place))))
      | none => throw (.unknownType value)
  | _ => throw (.fault .wrongKind)

end Reference

end SpecGraph
