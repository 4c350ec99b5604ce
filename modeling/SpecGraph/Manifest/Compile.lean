import SpecGraph.Data.Number
import SpecGraph.Json.Reader
import SpecGraph.Manifest.Diff
import SpecGraph.Manifest.Entry
import SpecGraph.Workspace

/-!
# Writing manifests

Each stage writes one manifest under its root: `schema.json`, `db.json` or `dispatch.json`. A stage
reads the manifest that is there, checks its references, refuses breaking changes unless they are
allowed, and writes the new manifest with a version that grows with every change. Schemas and fields
that did not change keep their versions; collections and dispatches keep their ids, and new ones get
the ids after the greatest. The storage and dispatch stages look schemas up in the written manifest of
the schema stage.

The file is emptied before the manifest is turned into text, so that a value without a JSON text
leaves an empty file.
-/

namespace SpecGraph

namespace Manifest

/-- The file name of the manifest of schemas. -/
def schemaFile : String := "schema.json"

/-- The file name of the manifest of collections. -/
def storageFile : String := "db.json"

/-- The file name of the manifest of dispatches. -/
def dispatchFile : String := "dispatch.json"

/-- The manifest at a path, or nothing if there is no file or it holds null. -/
def load (path : Path) : Job (Option Data) := do
  let files := (← get).files
  if path.isPossible && files.isTooLong path then throw .file
  if files.exists? path then
    match files.read? path with
    | none => throw .file
    | some text =>
        match Json.read text with
        | .error error => throw error
        | .ok .null => pure none
        | .ok manifest => pure (some manifest)
  else pure none

/-- The layout of a manifest. -/
def layout : Json.Layout := .sortedLines 2

/-- Writes a manifest, making its folder. -/
def store (path : Path) (manifest : Data) : Job Unit := do
  Job.makeParents path
  Job.replaceFiles path fun files => files.write? path ""
  let text ← Job.ofFault (Json.write layout manifest)
  Job.replaceFiles path fun files => files.write? path (text ++ "\n")

/-- A manifest to compare with: an absent or empty one counts as one without entries. -/
def orEmpty : Option Data → Data
  | some manifest => if manifest.isTruthy then manifest else .object []
  | none => .object []

/-- Refuses breaking changes, and logs the harmless ones. -/
def refuseBreaking (changes : List Change) : Job Unit := do
  let broken := breaking changes
  if !broken.isEmpty then throw (.incompatible broken)
  else if !changes.isEmpty then
    Job.record .info Logger.compat ("Compatibility check passed with " ++
      Text.natText changes.length ++ " non-breaking changes")

/-- Refuses breaking changes, or logs each of them where they are allowed. -/
def allowOrRefuse (allowBreaking : Bool) (label : String) (target : Path) (changes : List Change) :
    Job Unit := do
  if allowBreaking then
    (breaking changes).forM fun change =>
      Job.record .warning Logger.manifest ("Allowing breaking " ++ label ++ " change in " ++
        target.text ++ ": " ++ change.text)
  else refuseBreaking changes

/-- The version after a previous manifest: one at first, and one more with every change. -/
def nextVersion (previous : Option Data) (changes : List Change) : Except Fault Int := do
  match previous with
  | none => return 1
  | some manifest =>
      let version ← (← manifest.memberOr "version" (.int 0)).toInteger
      return if changes.isEmpty then version else version + 1

/-- Some change is at a path or at a field below it. -/
def isTouched (changes : List Change) (path : String) : Bool :=
  changes.any fun change =>
    change.path == path || (path ++ ".field:").toList.isPrefixOf change.path.toList

/-- The ids of a previous manifest by address. -/
def knownIds (previous : Option Data) (section_ : String) : Except Fault (Table Data) := do
  match previous with
  | none => return []
  | some manifest =>
      let entries ← (← manifest.memberOr section_ (.list [])).items
      let ids ← entries.mapM fun entry => return (← entry.member "fqn", ← entry.member "id")
      if ids.all fun entry => entry.1.isKey then return Table.ofEntries ids else throw .wrongKind

/-- Ids for addresses: the known one, or else the next number after all numbers given out. -/
def assignIds (known : Table Data) :
    (next : Data) → (addresses : List String) → Except Fault (Table Data)
  | _, [] => return []
  | next, address :: rest => do
      match known.get? (.text address) with
      | some id => return (.text address, id) :: (← assignIds known next rest)
      | none =>
          let after ← next.next
          return (.text address, next) :: (← assignIds known after rest)

/-- The ids of the entries of a section, by address. -/
def sectionIds (previous : Option Data) (section_ : String) (addresses : List String) :
    Except Fault (Table Data) := do
  let known ← knownIds previous section_
  let first ← (← Data.greatest (known.map Prod.snd)).next
  return Table.ofEntries (← assignIds known first addresses)

/-- The schemas of the written manifest of schemas, by address. -/
def loadSchemas (root : Path) : Job (Table Data) := do
  let target := root.child schemaFile
  match ← load target with
  | none => throw (.reference (.noManifest target.text))
  | some manifest => Job.ofFault (index manifest "schema")

/-- A value is one of some addresses. Only a value that can be a key is looked up among them. -/
def isAmong (addresses : List String) (value : Data) : Except Fault Bool :=
  if value.isKey then pure ((value.text?).any addresses.contains) else throw .wrongKind

/-- The address of an entry. -/
def schemaAddress (entry : Entry SchemaSpec) : String := addressOf entry.space entry.spec.name

/-- Checks that the type of every field of a schema is primitive or one of the addresses. -/
def checkFields (addresses : List String) (entry : Entry SchemaSpec) : Job Unit :=
  entry.spec.fields.forM fun field => do
    if !(field.type.text?).any FieldTag.isTag then
      if !(← Job.ofFault (isAmong addresses field.type)) then
        throw (.reference (.field field.name (schemaAddress entry) field.type))

/-- The version of a thing: that of its earlier form if that did not change, or else the new one. -/
def keptVersion (version : Int) (changes : List Change) (path : String) (earlier : Option Data) :
    Except Fault Data :=
  match earlier with
  | some old => if isTouched changes path then pure (.int version) else old.member "version"
  | none => pure (.int version)

/-- A schema entry with its version and those of its fields. -/
def versionedSchema (version : Int) (changes : List Change) (oldSchemas : Table Data)
    (entry : Entry SchemaSpec) : Except Fault Data := do
  let address := addressOf entry.space entry.spec.name
  let old := oldSchemas.get? (.text address)
  let oldFields : Table Data ←
    match old with
    | none => pure []
    | some schema =>
        Table.keyedBy (← (← schema.member "fields").items) fun field => field.member "name"
  let path := "Schema:" ++ address
  let own ← keptVersion version changes path old
  let fields ← entry.spec.fields.mapM fun field => do
    if !field.name.isKey then throw .wrongKind
    let kept ← keptVersion version changes (fieldPath path field.name) (oldFields.get? field.name)
    return Data.object (field.members ++ [("version", kept)])
  return .object (schemaMembers entry fields ++ [("version", own)])

/-- The line that tells what a stage wrote. -/
def summary (count : Nat) (noun : String) (target : Path) (version : Int) : String :=
  "Compiled " ++ Text.natText count ++ " " ++ noun ++ " into " ++ target.text ++ " (version " ++
    Text.intText version ++ ")"

/-- Writes the manifest of schemas. -/
def compileSchemas (allowBreaking : Bool) (groups : Grouped SchemaSpec) (schemaRoot : Path) :
    Job Unit := do
  let target := schemaRoot.child schemaFile
  let previous ← load target
  let entries := groups.entries
  entries.forM (checkFields (entries.map schemaAddress))
  let changes ← Job.ofFault
    (diffSchemas (orEmpty previous) (.object [("schema", .list (entries.map Entry.schemaData))]))
  allowOrRefuse allowBreaking "schema" target changes
  let version ← Job.ofFault (nextVersion previous changes)
  let oldSchemas ← Job.ofFault (index (orEmpty previous) "schema")
  let versioned ← Job.ofFault (entries.mapM (versionedSchema version changes oldSchemas))
  store target (.object [("version", .int version), ("schema", .list versioned)])
  Job.record .info Logger.manifest (summary entries.length "schema(s)" target version)

/-- Checks the schema and the key of a collection. -/
def checkCollection (schemas : Table Data) (entry : Entry CollectionSpec) : Job Unit := do
  let address := addressOf entry.space entry.spec.name
  if !entry.spec.schema.isKey then throw (.fault .wrongKind)
  match schemas.get? entry.spec.schema with
  | none => throw (.reference (.collection address entry.spec.schema))
  | some schema =>
      if entry.spec.key.isEmpty then throw (.key (.empty address))
      let fields ← Job.ofFault (do (← schema.member "fields").items)
      let names ← Job.ofFault (Table.keyedBy fields fun field => field.member "name")
      if !(entry.spec.key.all Data.isKey) then throw (.fault .wrongKind)
      let missing := entry.spec.key.filter fun name => !names.has name
      if !missing.isEmpty then throw (.key (.undeclared address entry.spec.schema missing))

/-- Writes the manifest of collections. -/
def compileCollections (allowBreaking : Bool) (groups : Grouped CollectionSpec)
    (schemaRoot storageRoot : Path) : Job Unit := do
  let target := storageRoot.child storageFile
  let schemas ← loadSchemas schemaRoot
  let previous ← load target
  let entries := groups.entries
  entries.forM (checkCollection schemas)
  let changes ← Job.ofFault (diffCollections (orEmpty previous)
    (.object [("collections", .list (entries.map Entry.collectionData))]))
  allowOrRefuse allowBreaking "storage" target changes
  let version ← Job.ofFault (nextVersion previous changes)
  let ids ← Job.ofFault (sectionIds previous "collections"
    (entries.map fun entry => addressOf entry.space entry.spec.name))
  let numbered := entries.map fun entry =>
    let id := (ids.get? (.text (addressOf entry.space entry.spec.name))).getD .null
    Data.object (collectionMembers entry ++ [("id", id)])
  store target (.object [("version", .int version), ("collections", .list numbered)])
  Job.record .info Logger.manifest (summary entries.length "collection(s)" target version)

/-- Checks the request type of a dispatch. -/
def checkDispatch (schemas : Table Data) (entry : Entry DispatchSpec) : Job Unit := do
  if !entry.spec.requestType.isKey then throw (.fault .wrongKind)
  if !schemas.has entry.spec.requestType then
    throw (.reference
      (.dispatch (addressOf entry.space entry.spec.name) entry.spec.requestType))

/-- Writes the manifest of dispatches. -/
def compileDispatches (allowBreaking : Bool) (groups : Grouped DispatchSpec)
    (schemaRoot dispatchRoot : Path) : Job Unit := do
  let target := dispatchRoot.child dispatchFile
  let schemas ← loadSchemas schemaRoot
  let previous ← load target
  let entries := groups.entries
  entries.forM (checkDispatch schemas)
  let changes ← Job.ofFault (diffDispatches (orEmpty previous)
    (.object [("dispatches", .list (entries.map Entry.dispatchData))]))
  allowOrRefuse allowBreaking "dispatch" target changes
  let version ← Job.ofFault (nextVersion previous changes)
  let ids ← Job.ofFault (sectionIds previous "dispatches"
    (entries.map fun entry => addressOf entry.space entry.spec.name))
  let numbered := entries.map fun entry =>
    let id := (ids.get? (.text (addressOf entry.space entry.spec.name))).getD .null
    Data.object (dispatchMembers entry ++ [("id", id)])
  store target (.object [("version", .int version), ("dispatches", .list numbered)])
  Job.record .info Logger.manifest (summary entries.length "dispatch(es)" target version)

end Manifest

end SpecGraph
