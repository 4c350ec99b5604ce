import SpecGraph.Data.Access
import SpecGraph.Text.Quoted

/-!
# Displayed values

The text of a value inside a message. A text stands as it is at the outside and between quotes inside
a collection; a date is its digits at the outside and the call that builds it inside; all else has one
form. Inside itself a collection is three dots between its brackets.
-/

namespace SpecGraph

namespace Data

/-- Texts between two brackets, with a comma and a space between them. -/
def bracketed (opening : String) (parts : List String) (closing : String) : String :=
  opening ++ ", ".intercalate parts ++ closing

/-- What stands for a collection inside itself. -/
def ellipsis : Data → String
  | .map _ => "\x7b...\x7d"
  | .pair .. => "(...)"
  | _ => "[...]"

mutual

/-- The form of a tree inside a collection, given the marks of the values around it and what stands for
each. -/
def innerBelow (around : List (Mark × String)) : Data → String
  | .null => "None"
  | .bool value => if value then "True" else "False"
  | .int value => Text.intText value
  | .float value => value.text
  | .text value => Text.quoted value
  | .bytes value => Text.quotedBytes value
  | .moment value => value.callText
  | .list items => bracketed "[" (innerItems around items) "]"
  | .pair first second => bracketed "(" [innerBelow around first, innerBelow around second] ")"
  | .map entries => bracketed "\x7b" (innerEntries around entries) "\x7d"
  | .set [] => "set()"
  | .set (item :: items) =>
      bracketed "\x7b" (innerBelow around item :: innerItems around items) "\x7d"
  | .shared .. => ""
  | .marked mark value => innerBelow ((mark, ellipsis value) :: around) value
  | .again mark => (around.lookup mark).getD ""

/-- The inner forms of the items of a collection. -/
def innerItems (around : List (Mark × String)) : List Data → List String
  | [] => []
  | item :: rest => innerBelow around item :: innerItems around rest

/-- The inner forms of the entries of a mapping. -/
def innerEntries (around : List (Mark × String)) : List (Data × Data) → List String
  | [] => []
  | (key, value) :: rest =>
      (innerBelow around key ++ ": " ++ innerBelow around value) :: innerEntries around rest

end

/-- The form of a value inside a collection. -/
def inner (value : Data) : String := innerBelow [] value.expanded

/-- The form of a value at the outside. -/
def display : Data → String
  | .text value => value
  | .moment value => value.text
  | .marked _ (.moment value) => value.text
  | value => value.inner

/-- The form of a value at the outside, which a value with too long a number lacks. -/
def shown (value : Data) : Except Fault String :=
  if value.hasLongNumeral then throw .badValue else pure value.display

end Data

end SpecGraph
