import SpecGraph.Document.Basic
import SpecGraph.Error.Basic
import SpecGraph.Json.Writer
import SpecGraph.Yaml.Writer

/-!
# Writing documents

A document as plain data, from which it can be read back. Members that are not given, and flags that
count as false, are left out.
-/

namespace SpecGraph

namespace FieldDecl

/-- A member, unless its value is null. -/
def given (name : String) (value : Data) : List (String × Data) :=
  match value with
  | .null => []
  | _ => [(name, value)]

/-- A flag, if its value counts as true. -/
def flag (name : String) (value : Data) : List (String × Data) :=
  if value.isTruthy then [(name, .bool true)] else []

mutual

/-- A field as plain data. A list that holds no fields has no such form. -/
def toData : FieldDecl → Except Error Data
  | plain name type struct optional =>
      match struct.bare with
      | .list (_ :: _) => throw (.fault .missingMember)
      | _ =>
          return .object ([("name", name)] ++ given "type" type ++ given "struct" struct ++
            flag "optional" optional)
  | inline name type optional fields => do
      let inner := Data.object [("fields", .list (← toDataList fields))]
      return .object ([("name", name)] ++ given "type" type ++ [("struct", inner)] ++
        flag "optional" optional)

/-- Fields as plain data. -/
def toDataList : List FieldDecl → Except Error (List Data)
  | [] => return []
  | field :: rest => return (← toData field) :: (← toDataList rest)

end

end FieldDecl

/-- A schema as plain data. -/
def SchemaDecl.toData (schema : SchemaDecl) : Except Error Data :=
  return .object ([("name", schema.name), ("fields", .list (← FieldDecl.toDataList schema.fields))] ++
    FieldDecl.flag "compact" schema.compact)

/-- A collection as plain data. -/
def CollectionDecl.toData (collection : CollectionDecl) : Except Error Data :=
  return .object [("name", collection.name), ("key", .list collection.key),
    ("fields", .list (← FieldDecl.toDataList collection.fields))]

/-- A dispatch as plain data. -/
def DispatchDecl.toData (dispatch : DispatchDecl) : Except Error Data := do
  let fields ←
    match dispatch.fields with
    | none => pure []
    | some fields => pure [("fields", Data.list (← FieldDecl.toDataList fields))]
  return .object ([("name", dispatch.name)] ++ FieldDecl.given "request" dispatch.request ++ fields)

namespace Document

/-- A document as plain data. -/
def toData (document : Document) : Except Error Data := do
  let schemas ← document.schemas.mapM SchemaDecl.toData
  let collections ← document.collections.mapM CollectionDecl.toData
  let dispatches ← document.dispatches.mapM DispatchDecl.toData
  return .object [("schemas", .list schemas), ("collections", .list collections),
    ("dispatches", .list dispatches)]

/-- A JSON text, or a fault. -/
def writeJson (layout : Json.Layout) (value : Data) : Except Error String :=
  match Json.write layout value with
  | .ok text => pure text
  | .error fault => throw (.fault fault)

/-- A document as JSON. -/
def toJson (document : Document) : Except Error String := do
  writeJson (.lines 2) (← document.toData)

/-- A document as YAML. -/
def toYaml (document : Document) : Except Error String := do
  match Yaml.write (← document.toData) with
  | .ok text => return text
  | .error fault => throw (.fault fault)

end Document

end SpecGraph
