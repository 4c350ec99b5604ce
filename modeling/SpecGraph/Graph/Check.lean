import SpecGraph.Error.Reference
import SpecGraph.Graph.Basic

/-!
# Checking a graph

The problems of a graph are the references that name no schema of the graph, the collections without a
key, and the key fields that are not fields. They are listed by namespace: first the fields of schemas,
then collections, then dispatches.
-/

namespace SpecGraph

namespace Graph

/-- What is wrong with a reference, if anything. -/
def referenceProblem? (graph : Graph) (reference : String) : Except Error (Option String) := do
  let name ← Reference.parse (.text reference)
  return if (graph.schema? name).isSome then none
  else some ("references unknown schema " ++ Message.inQuotes reference)

/-- The problem of a field of a schema, if there is one. -/
def fieldProblems (graph : Graph) (address : String) (field : Field) :
    Except Error (List String) := do
  if FieldTag.isTag field.type then return []
  let problem ← graph.referenceProblem? field.type
  return problem.toList.map fun text =>
    "Field " ++ Message.inQuotes field.name.display ++ " of schema " ++ Message.inQuotes address ++
      " " ++ text

/-- The problems of a collection. -/
def collectionProblems (space : Namespace) (collection : Collection) :
    Except Error (List String) := do
  let address := Message.inQuotes (space.address collection.path)
  let names := ((space.schema? collection.path).map Schema.fieldNames).getD []
  if !(names ++ collection.key).all Data.isKey then throw (.fault .wrongKind)
  let missing := collection.key.filter fun name => !names.any fun other => other.alike name
  return (if collection.key.isEmpty then ["Collection " ++ address ++ " has no key"] else []) ++
    missing.map fun name =>
      "Collection " ++ address ++ " key field " ++ Message.inQuotes name.display ++
        " is not declared"

/-- The problem of a dispatch, if there is one. -/
def dispatchProblems (graph : Graph) (space : Namespace) (dispatch : Dispatch) :
    Except Error (List String) := do
  let problem ← graph.referenceProblem? dispatch.requestType
  return problem.toList.map fun text =>
    "Dispatch " ++ Message.inQuotes (space.address dispatch.path) ++ " " ++ text

/-- The problems of a namespace. -/
def spaceProblems (graph : Graph) (space : Namespace) : Except Error (List String) := do
  let ofSchemas ← space.schemas.mapM fun schema =>
    return (← schema.fields.mapM (graph.fieldProblems (space.address schema.path))).flatten
  let ofCollections ← space.collections.mapM (collectionProblems space)
  let ofDispatches ← space.dispatches.mapM (graph.dispatchProblems space)
  return ofSchemas.flatten ++ ofCollections.flatten ++ ofDispatches.flatten

/-- The problems of a graph. -/
def problems (graph : Graph) : Except Error (List String) :=
  return (← graph.spaces.mapM graph.spaceProblems).flatten

end Graph

end SpecGraph
