import SpecGraph.Text.Numeral

/-!
# Wording of messages

The texts of the messages whose parts vary. Every part is given as it is shown.
-/

namespace SpecGraph

namespace Message

/-- A text in single quotes, whatever it holds. -/
def inQuotes (text : String) : String := "'" ++ text ++ "'"

/-- A reference that is no name. -/
def malformedName (reference reason : String) : String :=
  "Malformed namespace reference " ++ reference ++ ": " ++ reason

/-- A name that is taken. -/
def duplicate (kind name : String) (scope : Option String) : String :=
  "Duplicate " ++ kind ++ " " ++ inQuotes name ++ ((scope.map (" in " ++ ·)).getD "")

/-- A value that is no field type. -/
def unknownType (tag : String) (suggestions : List String) : String :=
  "Unknown field type " ++ inQuotes tag ++
    (if suggestions.isEmpty then ""
      else ". Did you mean: " ++ ", ".intercalate suggestions ++ "?")

/-- A stage that failed. -/
def compilation (stage root cause : String) : String :=
  stage ++ " compilation into " ++ inQuotes root ++ " failed: " ++ cause

/-- Builders that failed, each with its root and its message. -/
def finalization (failures : List (String × String)) : String :=
  "Finalization failed for " ++ Text.natText failures.length ++ " builder(s):\n" ++
    "\n".intercalate (failures.map fun (root, message) => "  - " ++ root ++ ": " ++ message)

/-- Changes that are refused, each as one line. -/
def incompatible (changes : List String) : String :=
  "Compatibility check failed with " ++ Text.natText changes.length ++ " breaking change(s):\n" ++
    "\n".intercalate changes

end Message

end SpecGraph
