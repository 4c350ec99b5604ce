import SpecGraph.Document.Apply
import SpecGraph.Document.Reader
import SpecGraph.World.Declare
import SpecGraph.World.Finalize
import SpecGraph.World.Report

/-!
# Commands

A command is an operation on the world that needs no body to build: it makes, asks or finalizes builders,
declares by name, or touches files. Each has an answer in plain data, null where there is nothing to tell.
-/

namespace SpecGraph

/-- What a builder is made from. -/
structure BuilderSpec where
  /-- The root, or null for that of the settings. -/
  root : Data
  /-- The settings that are given. -/
  settings : List (String × Data)
  /-- The environment of the settings. -/
  environment : List (String × String)
  /-- The pipelines, if they are not the ones that write manifests. -/
  pipelines : Option Pipelines
deriving Inhabited

/-- The place of a builder in the order in which they were made; a negative one counts from the end. Only
integers and truth values are places, and no other value is. -/
abbrev BuilderIndex := Data

/-- A namespace that was made before. -/
inductive SpaceAddress where
  /-- A namespace of a builder. -/
  | ofBuilder (builder : BuilderIndex) (name : String)
  /-- A namespace that belongs to no builder. -/
  | loose (name : String)
deriving Inhabited

/-- A schema that was declared before. -/
inductive SchemaAddress where
  /-- A schema that a reference denotes in a builder. -/
  | ofBuilder (builder : BuilderIndex) (reference : Data)
  /-- A schema of a namespace that belongs to no builder. -/
  | loose (space path : String)
deriving Inhabited

/-- Where a document comes from. -/
inductive DocumentSource where
  | yaml (text : String)
  | json (text : String)
  | data (value : Data)
deriving Inhabited

/-- An operation without a body. -/
inductive Command where
  | create (spec : BuilderSpec)
  | dispatchTo (builder : BuilderIndex) (name target : Data)
  | dispatchOf (builder : BuilderIndex) (name : Data) (schema : SchemaAddress)
  | apply (builder : BuilderIndex) (source : DocumentSource)
  | resolve (builder : BuilderIndex) (name : Data)
  | openSpace (builder : BuilderIndex) (name : String)
  | findSchema (builder : BuilderIndex) (name : Data)
  | validate (builder : BuilderIndex)
  | toData (builder : BuilderIndex)
  | toJson (builder : BuilderIndex) (indent : Data)
  | toYaml (builder : BuilderIndex)
  | fingerprint (builder : BuilderIndex)
  | describe (builder : BuilderIndex)
  | snapshot (builder : BuilderIndex) (format : Builder.SnapshotFormat)
  | check (builder : BuilderIndex)
  | specs (builder : BuilderIndex)
  | entries (builder : BuilderIndex)
  | finalize (builder : BuilderIndex)
  | finalizeAll
  | reset
  | takeCalls
  | listFiles
  | writeFile (name text : String)
  | deleteFile (name : String)
  | giveUp (message : String)
  | looseSpace (name : String)
  | spaceSchema (space : SpaceAddress) (path : String) (compact : Data)
  | spaceCollection (space : SpaceAddress) (path : String)
  | spaceDispatch (space : SpaceAddress) (path requestType : String)
  | spaceAgain (space : SpaceAddress) (kind path : String)
  | spaceFind (space : SpaceAddress) (kind path : String)
  | spaceData (space : SpaceAddress)
  | spaceDescription (space : SpaceAddress)
  | optional (schema : SchemaAddress) (field : Data)
  | schemaDescription (schema : SchemaAddress)
deriving Inhabited

namespace Run

/-- The number of the builder that an index denotes. -/
def numberOf (index : BuilderIndex) : Run Nat := do
  match index.integer? with
  | none => throw (.fault .wrongKind)
  | some place =>
      let scope := (← get).scope
      let count := Int.ofNat scope.length
      let place := if place < 0 then place + count else place
      if place < 0 then throw .noBuilder
      match scope[place.toNat]? with
      | some number => return number
      | none => throw .noBuilder

/-- Makes a builder. -/
def createFrom (spec : BuilderSpec) : Run Nat := do
  let settings ← ofExcept (Settings.load (← get).workspace.files spec.environment spec.settings)
  createBuilder spec.root settings spec.pipelines

/-- The namespace at an address. -/
def findSpace (address : SpaceAddress) : Run SpaceRef := do
  match address with
  | .ofBuilder index name =>
      let ref : SpaceRef := ⟨.builder (← numberOf index), name⟩
      discard (space ref)
      return ref
  | .loose name =>
      match (← get).looseNumber? name with
      | some number => return ⟨.nobody number, name⟩
      | none => throw (.fault (.missingKey (.text name)))

/-- The schema at an address. -/
def findSchema (address : SchemaAddress) : Run SchemaRef := do
  let found ←
    match address with
    | .ofBuilder index reference => do schema? (← numberOf index) reference
    | .loose name path => do
        let ref ← findSpace (.loose name)
        pure (((← space ref).schema? path).map fun _ => ⟨ref, path⟩)
  match found with
  | some ref => return ref
  | none => throw .noSchema

/-- A schema as plain data. -/
def schemaData (ref : SchemaRef) : Run Data := return (← schema ref).toData ref.space.name

/-- The collection of a schema as plain data. -/
def collectionData (ref : SchemaRef) : Run Data := do
  match (← space ref.space).collection? ref.path with
  | some collection => return collection.toData ref.space.name
  | none => return .null

/-- A dispatch as plain data. -/
def dispatchData (ref : SpaceRef) (path : String) : Run Data := do
  match (← space ref).dispatch? path with
  | some dispatch => return dispatch.toData ref.name
  | none => return .null

/-- The document of a source. -/
def document (source : DocumentSource) : Run Document := do
  match source with
  | .yaml text => ofExcept (Document.ofYaml (← nextReading) text)
  | .json text => ofExcept (Document.ofJson text)
  | .data value => ofExcept (Document.ofData value)

/-- The roots of a builder as plain data. -/
def rootsData (number : Nat) : Run Data := do
  let builder ← builder number
  return .object [("spec_root", .text builder.specRoot.text),
    ("schema", .text builder.schemaRoot.text), ("db", .text builder.storageRoot.text),
    ("dispatch", .text builder.dispatchRoot.text)]

/-- The calls that were noted since they were last taken. -/
def takeCalls : Run (List StageCall) := do
  let world ← get
  set { world with seen := world.calls.length }
  return (world.calls.drop world.seen).filter fun call => call.pipeline.isRecord

/-- Registers what a namespace declares in the same namespace again. -/
def addOwnAgain (ref : SpaceRef) (kind path : String) : Run Unit := do
  let space ← space ref
  let again (kind : DeclarationKind) : Run Unit := do
    ensureOpen ref
    if space.declares kind path then addAgain ref ⟨kind, ref, path⟩ else throw (.fault .missingMember)
  if kind == "schema" then again .schema
  else if kind == "collection" then again .collection
  else if kind == "dispatch" then again .dispatch
  else throw (.fault .missingMember)

/-- A declaration of a namespace as plain data, or null if there is none. -/
def findIn (ref : SpaceRef) (kind path : String) : Run Data := do
  let space ← space ref
  let found ←
    if kind == "schema" then
      pure ((space.schema? path).map fun schema => schema.toData ref.name)
    else if kind == "collection" then
      pure ((space.collection? path).map fun collection => collection.toData ref.name)
    else if kind == "dispatch" then
      pure ((space.dispatch? path).map fun dispatch => dispatch.toData ref.name)
    else throw (.fault .missingMember)
  return found.getD .null

/-- Makes a field optional and answers it, or null if there is no such field. -/
def makeOptional (address : SchemaAddress) (name : Data) : Run Data := do
  let ref ← findSchema address
  match (← schema ref).position? name with
  | none => return .null
  | some position =>
      relax ⟨ref, position⟩
      return (((← schema ref).fields[position]?).map Field.toData).getD .null

/-- Makes a namespace that belongs to no builder. From now on the name denotes it, but what was declared
in an earlier one of the name stays there. -/
def addLoose (name : String) : Run Unit :=
  modify fun world => { world with loose := world.loose ++ [Namespace.empty name] }

end Run

namespace Command

/-- The answer of an operation that has nothing to tell. -/
def silent (operation : Run Unit) : Run Data := do
  operation
  return .null

/-- Carries out a command. -/
def run : Command → Run Data
  | create spec => do Run.rootsData (← Run.createFrom spec)
  | dispatchTo index name target => do
      let (space, path) ← Run.declareDispatch (← Run.numberOf index) name target
      Run.dispatchData space path
  | dispatchOf index name schema => do
      let number ← Run.numberOf index
      let target ← Run.findSchema schema
      let (space, path) ← Run.openDispatch number name
      Run.addDispatch space ⟨path, target.address⟩
      Run.dispatchData space path
  | apply index source => silent do
      let number ← Run.numberOf index
      let document ← Run.document source
      document.apply number
  | resolve index name => do
      let (space, path) ← Run.resolve (← Run.numberOf index) name
      return .texts [space.name, path]
  | openSpace index name => do
      let space ← Run.ensureSpace (← Run.numberOf index) name
      return .text space.name
  | findSchema index name => do
      match ← Run.schema? (← Run.numberOf index) name with
      | some ref => Run.schemaData ref
      | none => return .null
  | validate index => do
      let builder ← Run.builder (← Run.numberOf index)
      return .texts (← Run.ofExcept builder.graph.problems)
  | toData index => return (← Run.builder (← Run.numberOf index)).toData
  | toJson index indent => do
      let builder ← Run.builder (← Run.numberOf index)
      let layout ← Run.ofFault (Json.Layout.indentedBy indent)
      return .text (← Run.ofFault (Json.write layout builder.toData))
  | toYaml index => do
      let builder ← Run.builder (← Run.numberOf index)
      return .text (← Run.ofFault (Yaml.write builder.toData))
  | fingerprint index => do
      let builder ← Run.builder (← Run.numberOf index)
      return .text (← Run.ofFault builder.fingerprint)
  | describe index => return .text (← Run.builder (← Run.numberOf index)).description
  | snapshot index format => do
      let builder ← Run.builder (← Run.numberOf index)
      return .text (← Run.ofFault (builder.snapshot format))
  | check index => do
      let builder ← Run.builder (← Run.numberOf index)
      let changes ← Run.ofJob builder.changes
      return .list [.bool (Manifest.isCompatible changes), .texts (changes.map Change.text)]
  | specs index => do
      let graph := (← Run.builder (← Run.numberOf index)).graph
      return .list [graph.schemaSpecs.toData SchemaSpec.toData,
        graph.collectionSpecs.toData CollectionSpec.toData,
        graph.dispatchSpecs.toData DispatchSpec.toData]
  | entries index => do
      let graph := (← Run.builder (← Run.numberOf index)).graph
      return .list [.list (graph.schemaSpecs.entries.map Entry.schemaData),
        .list (graph.collectionSpecs.entries.map Entry.collectionData),
        .list (graph.dispatchSpecs.entries.map Entry.dispatchData)]
  | finalize index => silent do Run.finalize (← Run.numberOf index)
  | finalizeAll => silent Run.finalizeAll
  | reset => silent Run.reset
  | takeCalls => return .list ((← Run.takeCalls).map fun call => call.request.toData)
  | listFiles => do
      let files := (← get).workspace.files
      return .object (files.listing.map fun (path, text) => (path, .text text))
  | writeFile name text => silent (Run.ofJob (Job.writeFile name text))
  | deleteFile name => silent (Run.ofJob (Job.deleteFile name))
  | giveUp message => throw (.callback message)
  | looseSpace name => silent (Run.addLoose name)
  | spaceSchema space path compact => do
      Run.schemaData (← Run.addSchema (← Run.findSpace space) (Schema.empty path compact false))
  | spaceCollection space path => do
      Run.collectionData (← Run.addKeyedSchema (← Run.findSpace space) path)
  | spaceDispatch space path requestType => do
      let ref ← Run.findSpace space
      Run.addDispatch ref ⟨path, requestType⟩
      Run.dispatchData ref path
  | spaceAgain space kind path => silent do Run.addOwnAgain (← Run.findSpace space) kind path
  | spaceFind space kind path => do Run.findIn (← Run.findSpace space) kind path
  | spaceData space => return (← Run.space (← Run.findSpace space)).toData
  | spaceDescription space => return .text (← Run.space (← Run.findSpace space)).description
  | optional schema field => Run.makeOptional schema field
  | schemaDescription schema => do
      let ref ← Run.findSchema schema
      return .text ((← Run.schema ref).description ref.space.name)

end Command

end SpecGraph
