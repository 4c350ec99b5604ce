import SpecGraph.Data.Access
import SpecGraph.Manifest.Change

/-!
# Comparing manifests

A manifest is read as plain data: a mapping with a list of entries, each addressed by its full name
under `fqn`. The order of the fields of a schema is its wire layout, so that fields may only be
appended, and only optional ones. Of two entries with one address the later one counts.
-/

namespace SpecGraph

namespace Manifest

/-- The entries of a section by their addresses. -/
def index (manifest : Data) (section_ : String) : Except Fault (Table Data) := do
  let entries ← (← manifest.memberOr section_ (.list [])).items
  Table.keyedBy entries fun entry => entry.member "fqn"

/-- The addresses of a table that another one lacks, as changes. -/
def removals (kind : ChangeKind) (label noun : String) (old new : Table Data) : List Change :=
  (old.filter fun entry => !new.has entry.1).map fun entry =>
    { kind, path := label ++ ":" ++ entry.1.display, oldValue := .null, newValue := .null,
      message := noun ++ " '" ++ entry.1.display ++ "' was removed" }

/-- A new entry as a change. -/
def addition (kind : ChangeKind) (label noun : String) (address : Data) : Change :=
  { kind, path := label ++ ":" ++ address.display, oldValue := .null, newValue := .null,
    message := noun ++ " '" ++ address.display ++ "' added" }

/-- The changes of the entries of a new table, in order: an addition for an address that the old table
lacks, and the differences from the old entry otherwise. -/
def compareEntries (added : Data → Change) (differences : Data → Data → Data → Except Fault (List Change))
    (old new : Table Data) : Except Fault (List Change) := do
  let changes ← new.mapM fun (address, entry) =>
    match old.get? address with
    | none => pure [added address]
    | some previous => differences address previous entry
  return changes.flatten

/-- The member `required` of a field, which is true unless it is given. -/
def isRequired (field : Data) : Except Fault Bool :=
  return (← field.memberOr "required" (.bool true)).isTruthy

/-- The differences between two versions of a field. -/
def compareFields (path : String) (old new : Data) : Except Fault (List Change) := do
  let oldType ← old.member "type"
  let newType ← new.member "type"
  let retyped : List Change :=
    if oldType.same newType then []
    else
      [{ kind := .fieldTypeChanged, path, oldValue := oldType, newValue := newType,
         message := "Field type changed from '" ++ oldType.display ++ "' to '" ++
           newType.display ++ "'" }]
  let wasRequired ← isRequired old
  let nowRequired ← isRequired new
  if wasRequired = nowRequired then return retyped
  let name ← old.member "name"
  let relaxed : Change :=
    if nowRequired then
      { kind := .requiredAdded, path, oldValue := .null, newValue := .null,
        message := "Field '" ++ name.display ++ "' changed from optional to required" }
    else
      { kind := .requiredRemoved, path, oldValue := .null, newValue := .null,
        message := "Field '" ++ name.display ++ "' changed from required to optional" }
  return retyped ++ [relaxed]

/-- A field that an old schema lacks, as a change. -/
def appendedField (path : String) (name field : Data) : Except Fault Change := do
  let required ← isRequired field
  let type ← field.member "type"
  return if required then
    { kind := .requiredFieldAdded, path, oldValue := .null, newValue := type,
      message := "Required field '" ++ name.display ++ "' added to existing schema" }
  else
    { kind := .fieldAdded, path, oldValue := .null, newValue := type,
      message := "Field '" ++ name.display ++ "' added" }

/-- The path of a field below the path of its schema. -/
def fieldPath (path : String) (name : Data) : String := path ++ ".field:" ++ name.display

/-- The differences between two versions of a schema. -/
def compareSchemas (old new : Data) : Except Fault (List Change) := do
  let path := "Schema:" ++ (← old.member "fqn").display
  let wasCompact := (← old.memberOr "compact" .null).isTruthy
  let nowCompact := (← new.memberOr "compact" .null).isTruthy
  let packed : List Change :=
    if wasCompact = nowCompact then []
    else
      [{ kind := .compactChanged, path, oldValue := .bool wasCompact, newValue := .bool nowCompact,
         message := "Compact flag changed" }]
  let oldFields ← (← old.memberOr "fields" (.list [])).items
  let oldTable ← Table.keyedBy oldFields fun field => field.member "name"
  let newFields ← (← new.memberOr "fields" (.list [])).items
  let newTable ← Table.keyedBy newFields fun field => field.member "name"
  let oldNames ← oldFields.mapM fun field => field.member "name"
  let newNames ← newFields.mapM fun field => field.member "name"
  let removed : List Change :=
    (oldNames.filter fun name => !newTable.has name).map fun name =>
      { kind := .fieldRemoved, path := fieldPath path name, oldValue := .null, newValue := .null,
        message := "Field '" ++ name.display ++ "' was removed" }
  let kept := oldNames.filter fun name => newTable.has name
  let moved : List Change :=
    if (Data.list (newNames.take kept.length)).same (.list kept) then []
    else
      [{ kind := .fieldReordered, path, oldValue := .list oldNames, newValue := .list newNames,
         message := "Fields were reordered or inserted before existing fields" }]
  let changed ← newNames.mapM fun name =>
    match newTable.get? name, oldTable.get? name with
    | some field, none => return [← appendedField (fieldPath path name) name field]
    | some field, some previous => compareFields (fieldPath path name) previous field
    | none, _ => pure []
  return packed ++ removed ++ moved ++ changed.flatten

/-- The differences between two manifests of schemas. -/
def diffSchemas (old new : Data) : Except Fault (List Change) := do
  let oldTable ← index old "schema"
  let newTable ← index new "schema"
  let changes ← compareEntries (addition .schemaAdded "Schema" "Schema")
    (fun _ previous entry => compareSchemas previous entry) oldTable newTable
  return removals .schemaRemoved "Schema" "Schema" oldTable newTable ++ changes

/-- The differences between two versions of a collection. -/
def compareCollections (address old new : Data) : Except Fault (List Change) := do
  let path := "Collection:" ++ address.display
  let oldSchema ← old.member "schema"
  let newSchema ← new.member "schema"
  let rebound : List Change :=
    if oldSchema.same newSchema then []
    else
      [{ kind := .collectionSchemaChanged, path, oldValue := oldSchema, newValue := newSchema,
         message := "Collection schema changed" }]
  let oldKey ← old.member "key"
  let oldNames ← oldKey.items
  let newKey ← new.member "key"
  let newNames ← newKey.items
  let rekeyed : List Change :=
    if (Data.list oldNames).same (.list newNames) then []
    else
      [{ kind := .keyChanged, path, oldValue := .list oldNames, newValue := .list newNames,
         message := "Key changed from " ++ oldKey.display ++ " to " ++ newKey.display }]
  return rebound ++ rekeyed

/-- The differences between two manifests of collections. -/
def diffCollections (old new : Data) : Except Fault (List Change) := do
  let oldTable ← index old "collections"
  let newTable ← index new "collections"
  let changes ← compareEntries (addition .collectionAdded "Collection" "Collection")
    compareCollections oldTable newTable
  return removals .collectionRemoved "Collection" "Collection" oldTable newTable ++ changes

/-- The differences between two versions of a dispatch. -/
def compareDispatches (address old new : Data) : Except Fault (List Change) := do
  let oldRequest ← old.member "request_type"
  let newRequest ← new.member "request_type"
  return if oldRequest.same newRequest then []
  else
    [{ kind := .requestTypeChanged, path := "Dispatch:" ++ address.display, oldValue := oldRequest,
       newValue := newRequest,
       message := "Request type changed from '" ++ oldRequest.display ++ "' to '" ++
         newRequest.display ++ "'" }]

/-- The differences between two manifests of dispatches. -/
def diffDispatches (old new : Data) : Except Fault (List Change) := do
  let oldTable ← index old "dispatches"
  let newTable ← index new "dispatches"
  let changes ← compareEntries (addition .dispatchAdded "Dispatch" "Dispatch")
    compareDispatches oldTable newTable
  return removals .dispatchRemoved "Dispatch" "Dispatch" oldTable newTable ++ changes

/-- The breaking changes of a list. -/
def breaking (changes : List Change) : List Change := changes.filter Change.isBreaking

end Manifest

end SpecGraph
