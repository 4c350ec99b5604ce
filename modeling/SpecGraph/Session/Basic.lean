import SpecGraph.Session.Command

/-!
# Sessions

A session is a list of steps. A step is a command, or a declaration with a body: a list of actions on
the schema that is being declared. Bodies nest, since an inline field has a body of its own and an
action may take a step. A step that fails does not end the session, but an action that fails ends its
body and those around it, up to the step.
-/

namespace SpecGraph

mutual

/-- What the body of a declaration does to its schema. -/
inductive Action where
  /-- Adds a field of a type given by its tag. -/
  | field (name type : Data) (optional : Bool)
  /-- Adds a field of a type given by its member name. -/
  | member (name member : Data) (optional : Bool)
  /-- Calls the operation of a word with a name: the tag of a type adds a field of the type. -/
  | tagged (name tag : Data) (optional : Bool)
  /-- Adds a field that holds the schema of a name. -/
  | reference (name target : Data) (optional : Bool)
  /-- Adds a field that holds a schema. -/
  | schema (name : Data) (schema : SchemaAddress) (optional : Bool)
  /-- Adds a field that holds a schema with a body of its own. -/
  | inline (name : Data) (body : List Action) (optional : Bool)
  /-- Sets the key of the collection. -/
  | key (names : Data)
  /-- Asks for a denser encoding. -/
  | compact (value : Data)
  /-- Gives up. -/
  | giveUp (message : String)
  /-- Acts on the schema around this one. -/
  | outward (body : List Action)
  /-- Takes a step. -/
  | step (step : Step)

/-- A step of a session. -/
inductive Step where
  /-- Carries out a command. -/
  | command (command : Command)
  /-- Makes a builder, takes steps, and finalizes the builder. -/
  | block (spec : BuilderSpec) (steps : List Step)
  /-- Declares a schema. -/
  | schema (builder : BuilderIndex) (name compact : Data) (body : List Action)
  /-- Declares a collection. -/
  | collection (builder : BuilderIndex) (name : Data) (body : List Action)
  /-- Declares a dispatch with a schema of its own. -/
  | dispatch (builder : BuilderIndex) (name : Data) (body : List Action)
  /-- Acts on a schema that was declared before. -/
  | edit (schema : SchemaAddress) (body : List Action)

end

instance : Inhabited Action := ⟨.key .null⟩

instance : Inhabited Step := ⟨.command .reset⟩

namespace Session

/-- Makes a field optional, if that is asked. -/
def relaxIf (optional : Bool) (field : FieldRef) : Run Unit :=
  if optional then Run.relax field else pure ()

/-- Makes a field optional, if that is asked, which needs a field. -/
def relaxFoundIf (optional : Bool) (found : Option FieldRef) : Run Unit :=
  match found with
  | some field => relaxIf optional field
  | none => if optional then throw (.fault .missingMember) else pure ()

/-- Adds a field of a type given by its member name. -/
def addMember (ref : SchemaRef) (name member : Data) : Run FieldRef := do
  match member.text?.bind FieldTag.ofMember? with
  | some type => Run.addField ref name type.tag
  | none => throw (.fault (if member.isKey then .missingKey member else .wrongKind))

/-- What a schema has that cannot be called with a name alone. -/
def uncallable : List String :=
  ["namespace", "name", "compact", "fields", "fqn", "add_field", "struct", "get_field_names", "to_dict"]

/-- Calls the operation of a word with a name, and tells the field it answers. The tag of a type adds a
field; the other operations on one name look a field up, set the flag, or set the key. -/
def callWord (ref : SchemaRef) (name : Data) (word : String) : Run (Option FieldRef) := do
  let schema ← Run.schema ref
  match FieldTag.ofTag? word with
  | some type => return some (← Run.addField ref name type.tag)
  | none =>
      if word == "get_field" then return (schema.position? name).map fun position => ⟨ref, position⟩
      else if word == "set_compact" then
        Run.setCompact ref name
        return none
      else if schema.keyed && word == "key" then
        Run.setKey ref [name]
        return none
      else if uncallable.contains word || (schema.keyed && word == "collection") then
        throw (.fault .wrongKind)
      else throw (.fault .missingMember)

/-- Calls the operation of a word, which has to be a text, with a name. -/
def callTag (ref : SchemaRef) (name tag : Data) : Run (Option FieldRef) :=
  match tag with
  | .text word => callWord ref name word
  | _ => throw (.fault .wrongKind)

/-- The names that the key of the collection of a schema is set to. -/
def keyNames (ref : SchemaRef) (names : Data) : Run (List Data) := do
  if !(← Run.schema ref).keyed then throw (.fault .missingMember)
  Run.ofFault names.items

mutual

/-- Carries out an action on a schema, given the schemas around it from the inside out. -/
def act (ref : SchemaRef) (around : List SchemaRef) : Action → Run Unit
  | .field name type optional => do relaxIf optional (← Run.addPrimitive ref name type)
  | .member name member optional => do relaxIf optional (← addMember ref name member)
  | .tagged name tag optional => do relaxFoundIf optional (← callTag ref name tag)
  | .reference name target optional => do relaxIf optional (← Run.addReference ref name target)
  | .schema name schema optional => do
      let target ← Run.findSchema schema
      relaxIf optional (← Run.addField ref name target.address)
  | .inline name body optional => do
      let nested ← Run.declareNested ref name
      actAll nested (ref :: around) body
      relaxIf optional (← Run.addField ref name nested.address)
  | .key names => do Run.setKey ref (← keyNames ref names)
  | .compact value => Run.setCompact ref value
  | .giveUp message => throw (.callback message)
  | .outward body =>
      match around with
      | outer :: rest => actAll outer rest body
      | [] => throw (.fault .outOfRange)
  | .step step => discard (take step)

/-- Carries out actions one after the other. -/
def actAll (ref : SchemaRef) (around : List SchemaRef) : List Action → Run Unit
  | [] => pure ()
  | action :: rest => do
      act ref around action
      actAll ref around rest

/-- Takes a step and answers what it tells. -/
def take : Step → Run Data
  | .command command => command.run
  | .block spec steps => do
      let number ← Run.createFrom spec
      Run.closeBlock number (takeAll steps)
      return .null
  | .schema index name compact body => do
      let ref ← Run.declareSchema (← Run.numberOf index) name compact
      actAll ref [] body
      Run.schemaData ref
  | .collection index name body => do
      let ref ← Run.declareCollection (← Run.numberOf index) name
      actAll ref [] body
      return .object [("collection", ← Run.collectionData ref), ("schema", ← Run.schemaData ref)]
  | .dispatch index name body => do
      let (space, path) ← Run.openDispatch (← Run.numberOf index) name
      let ref ← Run.addSchema space (Schema.empty path (.bool false) false)
      actAll ref [] body
      Run.addDispatch space ⟨path, ref.address⟩
      Run.dispatchData space path
  | .edit schema body => do
      let ref ← Run.findSchema schema
      actAll ref [] body
      Run.schemaData ref

/-- Takes steps one after the other, up to one that fails. -/
def takeAll : List Step → Run Unit
  | [] => pure ()
  | step :: rest => do
      let _ ← take step
      takeAll rest

end

/-- The outcome of a step and the world after it. -/
def perform (world : World) (step : Step) : Except Error Data × World := (take step).run.run world

end Session

end SpecGraph
