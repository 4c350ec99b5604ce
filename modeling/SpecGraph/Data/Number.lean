import SpecGraph.Data.Access
import SpecGraph.Text.Integer

/-!
# Arithmetic on plain data

The integer a value stands for, the greatest of some values, and the next number after one.
-/

namespace SpecGraph

namespace Data

/-- The integer a value stands for: a number without its fraction, or a text that denotes one. -/
def toInteger : Data → Except Fault Int
  | .bool value => pure (if value then 1 else 0)
  | .int value => pure value
  | .float value =>
      if value.isNaN then throw .badValue
      else if value.isInfinite then throw .notFinite
      else pure value.truncate
  | .text value =>
      match Text.readInteger? value with
      | some number => pure number
      | none => throw .badValue
  | _ => throw .wrongKind

/-- The first value is greater than the second. -/
def exceeds (left right : Data) : Except Fault Bool :=
  match isBefore? right left with
  | some answer => pure answer
  | none => throw .wrongKind

/-- The first of the greatest values, not counting below a value. -/
def greatestFrom (best : Data) : List Data → Except Fault Data
  | [] => pure best
  | value :: rest => do
      if ← value.exceeds best then greatestFrom value rest else greatestFrom best rest

/-- The first of the greatest values, or zero if there are none. -/
def greatest : List Data → Except Fault Data
  | [] => pure (.int 0)
  | value :: rest => greatestFrom value rest

/-- The number after a number. -/
def next : Data → Except Fault Data
  | .bool value => pure (.int (if value then 2 else 1))
  | .int value => pure (.int (value + 1))
  | .float value => pure (.float value.addOne)
  | _ => throw .wrongKind

end Data

end SpecGraph
