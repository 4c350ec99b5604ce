import SpecGraph.Data.Display

/-!
# Changes between manifests

A difference between two manifests is of one of seventeen kinds. Additions and the relaxation of a
required field are harmless; all other kinds are breaking.
-/

namespace SpecGraph

/-- The kind of a difference between two manifests. -/
inductive ChangeKind where
  | schemaAdded | fieldAdded | requiredRemoved | collectionAdded | dispatchAdded
  | schemaRemoved | fieldRemoved | fieldTypeChanged | fieldReordered | requiredAdded
  | requiredFieldAdded | compactChanged | collectionRemoved | collectionSchemaChanged | keyChanged
  | dispatchRemoved | requestTypeChanged
deriving DecidableEq, Inhabited

namespace ChangeKind

/-- The label of a kind. -/
def label : ChangeKind → String
  | schemaAdded => "SCHEMA_ADDED"
  | fieldAdded => "FIELD_ADDED"
  | requiredRemoved => "REQUIRED_REMOVED"
  | collectionAdded => "COLLECTION_ADDED"
  | dispatchAdded => "DISPATCH_ADDED"
  | schemaRemoved => "SCHEMA_REMOVED"
  | fieldRemoved => "FIELD_REMOVED"
  | fieldTypeChanged => "FIELD_TYPE_CHANGED"
  | fieldReordered => "FIELD_REORDERED"
  | requiredAdded => "REQUIRED_ADDED"
  | requiredFieldAdded => "REQUIRED_FIELD_ADDED"
  | compactChanged => "COMPACT_CHANGED"
  | collectionRemoved => "COLLECTION_REMOVED"
  | collectionSchemaChanged => "COLLECTION_SCHEMA_CHANGED"
  | keyChanged => "KEY_CHANGED"
  | dispatchRemoved => "DISPATCH_REMOVED"
  | requestTypeChanged => "REQUEST_TYPE_CHANGED"

/-- A change of this kind breaks what was compiled before. -/
def isBreaking : ChangeKind → Bool
  | schemaAdded | fieldAdded | requiredRemoved | collectionAdded | dispatchAdded => false
  | _ => true

end ChangeKind

/-- One difference between two manifests. -/
structure Change where
  /-- What kind of difference it is. -/
  kind : ChangeKind
  /-- Where it is. -/
  path : String
  /-- The value before, or null. -/
  oldValue : Data
  /-- The value after, or null. -/
  newValue : Data
  /-- The difference in words. -/
  message : String
deriving Inhabited

namespace Change

/-- A change is breaking when its kind is. -/
def isBreaking (change : Change) : Bool := change.kind.isBreaking

/-- A change as one line. -/
def text (change : Change) : String :=
  (if change.isBreaking then "[BREAKING] " else "[OK] ") ++ change.kind.label ++ ": " ++
    change.path ++ " - " ++ change.message

end Change

end SpecGraph
