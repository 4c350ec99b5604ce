import SpecGraph.Data.Display
import SpecGraph.Document.Basic
import SpecGraph.Error.Basic

/-!
# Checking documents

A document is checked as a whole: names have to be names, types have to be primitive types, and a field
or dispatch has to give exactly one of its two alternatives. Every problem is reported, in the order of
the document, however deep its fields are. Whether names are taken is not checked here.
-/

namespace SpecGraph

namespace Document

/-- The text of a value in a message, or a fault. -/
def shown (value : Data) : Except Error String :=
  match value.shown with
  | .ok text => pure text
  | .error fault => throw (.fault fault)

/-- The problem of a name, in a place of a document. -/
def nameProblems (name : Data) (place : String) : Except Error (List String) := do
  let label := place ++ " " ++ Message.inQuotes (← shown name) ++ ": "
  match name with
  | .text text =>
      match Name.parse text with
      | .ok _ => return []
      | .error fault => return [label ++ fault.reason]
  | _ => return [label ++ "name must be a string"]

/-- A text, if a condition holds. -/
def reportIf (condition : Bool) (text : String) : List String := if condition then [text] else []

/-- The problems of the name of a field. -/
def fieldNameProblems (place label : String) (name : Data) : List String :=
  match name with
  | .text text => reportIf (text == "") (place ++ ": field name is required")
  | _ => [label ++ ": name must be a string"]

/-- A value that is given. -/
def isGiven : Data → Bool
  | .null => false
  | _ => true

/-- The problem of the type of a field. -/
def typeProblems (label : String) (type : Data) : Except Error (List String) := do
  let isPrimitive :=
    match type with
    | .text tag => FieldTag.isTag tag
    | _ => false
  if isGiven type && !isPrimitive then
    return [label ++ ": invalid type " ++ Message.inQuotes (← shown type)]
  else return []

/-- The problem of a field that gives both or none of its alternatives. -/
def alternativeProblems (label : String) (typed structured : Bool) : List String :=
  reportIf (typed == structured) (label ++ " needs exactly one of 'type' or 'struct'")

/-- The problem of a reference of a field. -/
def structProblems (label : String) (struct : Data) : Except Error (List String) :=
  match struct.bare with
  | .null => pure []
  | .text _ => nameProblems struct (label ++ ": struct")
  | .list (_ :: _) => throw (.fault .missingMember)
  | .list [] => pure []
  | _ => pure [label ++ ": struct must be a schema name or a mapping with 'fields'"]

/-- The text that tells which field of a place is meant. -/
def fieldLabel (place : String) (name : Data) : Except Error String :=
  return place ++ ": field " ++ Message.inQuotes (← shown name)

/-- The problem of a name of a field that is one of the names before it. -/
def repeatProblems (place : String) (seen : List Data) (name : Data) : List String :=
  reportIf (name.isText && seen.any fun other => other.same name)
    (place ++ ": duplicate field " ++ Message.inQuotes name.display)

mutual

/-- The problems of a field in a place. -/
def fieldProblems (place : String) : FieldDecl → Except Error (List String)
  | .plain name type struct _ => do
      let label ← fieldLabel place name
      return fieldNameProblems place label name ++
        alternativeProblems label (isGiven type) (isGiven struct.bare) ++ (← typeProblems label type) ++
        (← structProblems label struct)
  | .inline name type _ fields => do
      let label ← fieldLabel place name
      let ofType ← typeProblems label type
      return fieldNameProblems place label name ++ alternativeProblems label (isGiven type) true ++
        ofType ++ (← fieldsProblems (place ++ "/" ++ (← shown name)) [] fields)

/-- The problems of the fields of a place after some names. -/
def fieldsProblems (place : String) (seen : List Data) :
    List FieldDecl → Except Error (List String)
  | [] => return []
  | field :: rest => do
      return repeatProblems place seen field.name ++ (← fieldProblems place field) ++
        (← fieldsProblems place (field.name :: seen) rest)

end

/-- The problems of a schema. -/
def schemaProblems (schema : SchemaDecl) : Except Error (List String) := do
  let ofName ← nameProblems schema.name "schema"
  return ofName ++
    (← fieldsProblems ("schema " ++ Message.inQuotes schema.name.display) [] schema.fields)

/-- The problems of a collection. -/
def collectionProblems (collection : CollectionDecl) : Except Error (List String) := do
  let ofName ← nameProblems collection.name "collection"
  let place := "collection " ++ Message.inQuotes collection.name.display
  return ofName ++
    reportIf (!collection.key.all Data.isText) (place ++ ": key must be a list of field names") ++
    (← fieldsProblems place [] collection.fields)

/-- The problems of a dispatch. -/
def dispatchProblems (dispatch : DispatchDecl) : Except Error (List String) := do
  let ofName ← nameProblems dispatch.name "dispatch"
  let place := "dispatch " ++ Message.inQuotes dispatch.name.display
  let requested := isGiven dispatch.request
  let ofRequest ←
    if requested then nameProblems dispatch.request (place ++ ": request") else pure []
  return ofName ++
    reportIf (requested == dispatch.fields.isSome)
      (place ++ " needs exactly one of 'request' or 'fields'") ++
    ofRequest ++ (← fieldsProblems place [] (dispatch.fields.getD []))

/-- The problems of a document. -/
def problems (document : Document) : Except Error (List String) := do
  let ofSchemas ← document.schemas.mapM schemaProblems
  let ofCollections ← document.collections.mapM collectionProblems
  let ofDispatches ← document.dispatches.mapM dispatchProblems
  return ofSchemas.flatten ++ ofCollections.flatten ++ ofDispatches.flatten

end Document

end SpecGraph
