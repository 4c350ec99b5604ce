import SpecGraph.Proofs.Document.Kept
import SpecGraph.Proofs.World.Report
import SpecGraph.Session.Basic

/-!
# What sessions keep

A step of a session gives names, flags, addresses and documents to the operations that declare. If all of these are
in a manner, the step keeps what the simple operations keep in this manner, since a command is one of the operations
that keep it and an action is one too.
-/

namespace SpecGraph

/-- A document comes from a source. -/
def DocumentSource.Tells (source : DocumentSource) (document : Document) : Prop :=
  match source with
  | yaml text => ∃ reading, Document.ofYaml reading text = .ok document
  | json text => Document.ofJson text = .ok document
  | data value => Document.ofData value = .ok document

/-- A command gives what is in a manner. A document counts only if it has no problems. -/
def Command.Obeys (manner : Manner) : Command → Prop
  | apply _ source => ∀ document, source.Tells document → document.problems = .ok [] → document.Obeys manner
  | openSpace _ name => manner.space name
  | looseSpace name => manner.loose name
  | spaceSchema _ path compact => manner.path path ∧ manner.flag compact
  | spaceCollection _ path => manner.path path
  | spaceDispatch _ _ requestType => manner.address requestType
  | writeFile .. | deleteFile .. => manner.files
  | _ => True

mutual

/-- An action gives what is in a manner. The operation of a word takes the name of a field, a flag or a key. -/
def Action.Obeys (manner : Manner) : Action → Prop
  | .field name _ _ | .member name _ _ | .schema name _ _ => manner.name name
  | .reference name target _ =>
      manner.name name ∧ (target.text? = none → ∀ text, name = .text text → manner.nested text)
  | .tagged name tag _ => if tag.text? = some "set_compact" then manner.flag name else manner.name name
  | .inline name body _ =>
      manner.name name ∧ (∀ text, name = .text text → manner.nested text) ∧ Action.AllObey manner body
  | .key names => ∀ items, names.items = .ok items → ∀ name ∈ items, manner.name name
  | .compact value => manner.flag value
  | .giveUp _ => True
  | .outward body => Action.AllObey manner body
  | .step step => step.Obeys manner

/-- All actions give what is in a manner. -/
def Action.AllObey (manner : Manner) : List Action → Prop
  | [] => True
  | action :: rest => action.Obeys manner ∧ Action.AllObey manner rest

/-- A step gives what is in a manner. -/
def Step.Obeys (manner : Manner) : Step → Prop
  | .command command => command.Obeys manner
  | .block _ steps => Step.AllObey manner steps
  | .schema _ _ compact body => manner.flag compact ∧ Action.AllObey manner body
  | .collection _ _ body | .dispatch _ _ body | .edit _ body => Action.AllObey manner body

/-- All steps give what is in a manner. -/
def Step.AllObey (manner : Manner) : List Step → Prop
  | [] => True
  | step :: rest => step.Obeys manner ∧ Step.AllObey manner rest

end

section Any

theorem Command.obeys_any (command : Command) : command.Obeys .any := by
  cases command
  case apply => exact fun document _ _ => document.obeys_any
  case spaceSchema => exact ⟨trivial, trivial⟩
  all_goals trivial

mutual

theorem Action.obeys_any : ∀ action : Action, action.Obeys .any
  | .field .. | .member .. | .schema .. | .compact _ | .giveUp _ => trivial
  | .reference .. => ⟨trivial, fun _ _ _ => trivial⟩
  | .tagged .. => by
      rw [Action.Obeys]
      split
      · trivial
      · trivial
  | .inline _ body _ => ⟨trivial, fun _ _ => trivial, Action.allObey_any body⟩
  | .key _ => fun _ _ _ _ => trivial
  | .outward body => Action.allObey_any body
  | .step step => step.obeys_any

theorem Action.allObey_any : ∀ body : List Action, Action.AllObey .any body
  | [] => trivial
  | action :: rest => ⟨action.obeys_any, Action.allObey_any rest⟩

theorem Step.obeys_any : ∀ step : Step, step.Obeys .any
  | .command command => command.obeys_any
  | .block _ steps => Step.allObey_any steps
  | .schema _ _ _ body => ⟨trivial, Action.allObey_any body⟩
  | .collection _ _ body | .dispatch _ _ body | .edit _ body => Action.allObey_any body

theorem Step.allObey_any : ∀ steps : List Step, Step.AllObey .any steps
  | [] => trivial
  | step :: rest => ⟨step.obeys_any, Step.allObey_any rest⟩

end

end Any

/-- A command finalizes builders. -/
def Command.finalizes : Command → Bool
  | finalize _ | finalizeAll => true
  | _ => false

/-- A command makes no builder, and finalizes and forgets none. -/
def Command.registers : Command → Bool
  | create _ | finalize _ | finalizeAll | reset => false
  | _ => true

/-- An action has no body and takes no step. -/
def Action.isSimple : Action → Bool
  | .inline .. | .outward _ | .step _ => false
  | _ => true

namespace Run

open Effect

section Looks

theorem still_numberOf (index : BuilderIndex) : Still (numberOf index) := by
  unfold numberOf
  cases index.integer? with
  | none => exact still_throw _
  | some place =>
      refine still_bind still_get fun world => ?_
      dsimp only
      repeat' split
      all_goals exact fun _ => rfl

/-- The place of a builder denotes its number where no builder is out of sight. -/
theorem perform_numberOf {world : World} {number : Nat} (named : world.scope[number]? = some number) :
    perform (numberOf (.int number)) world = (.ok number, world) := by
  unfold numberOf
  have notNegative : ¬(number : Int) < 0 := by omega
  change perform (get >>= _) world = _
  rw [perform_bind_of_ok (perform_get _)]
  simp only [if_neg notNegative, Int.toNat_natCast, named]
  rfl

theorem still_findSpace (address : SpaceAddress) : Still (findSpace address) := by
  cases address with
  | ofBuilder index name =>
      exact still_bind (still_numberOf index) fun _ =>
        still_bind (still_discard (still_space _)) fun _ => still_pure _
  | loose name =>
      refine still_bind still_get fun world => ?_
      cases world.looseNumber? name
      · exact still_throw _
      · exact still_pure _

theorem still_findSchema (address : SchemaAddress) : Still (findSchema address) := by
  cases address with
  | ofBuilder index reference =>
      refine still_bind (still_numberOf index) fun _ => still_bind (still_schema? _ _) fun found => ?_
      cases found
      · exact still_throw _
      · exact still_pure _
  | loose name path =>
      refine still_bind (still_findSpace _) fun _ => still_bind (still_space _) fun _ =>
        still_bind (still_pure _) fun found => ?_
      cases found
      · exact still_throw _
      · exact still_pure _

theorem still_schemaData (ref : SchemaRef) : Still (schemaData ref) :=
  still_bind (still_schema ref) fun _ => still_pure _

theorem still_collectionData (ref : SchemaRef) : Still (collectionData ref) := by
  refine still_bind (still_space _) fun space => ?_
  cases space.collection? ref.path
  · exact still_pure _
  · exact still_pure _

theorem still_dispatchData (ref : SpaceRef) (path : String) : Still (dispatchData ref path) := by
  refine still_bind (still_space _) fun space => ?_
  cases space.dispatch? path
  · exact still_pure _
  · exact still_pure _

theorem still_rootsData (number : Nat) : Still (rootsData number) :=
  still_bind (still_builder number) fun _ => still_pure _

theorem still_findIn (ref : SpaceRef) (kind path : String) : Still (findIn ref kind path) := by
  refine still_bind (still_space _) fun space => ?_
  dsimp only
  repeat' split
  all_goals exact fun _ => rfl

/-- What a namespace declares cannot be registered in it again. -/
theorem still_addOwnAgain (ref : SpaceRef) (kind path : String) : Still (addOwnAgain ref kind path) := by
  intro world
  refine (still_space ref).leaves_bind fun space looked => ?_
  have found := space?_of_perform looked
  have again (kind : DeclarationKind) : (Effect.perform (do
      ensureOpen ref
      if space.declares kind path then addAgain ref ⟨kind, ref, path⟩ else throw (.fault .missingMember) : Run Unit)
        world).2 = world := by
    refine (still_ensureOpen ref).leaves_bind fun _ _ => ?_
    split
    next declared =>
      rcases addAgain_cases ref ⟨kind, ref, path⟩ world with ⟨error, failed⟩ | ⟨_, host, _, _, _, here, free, _⟩
      · rw [failed]
      · cases found.symm.trans here
        rw [Namespace.isTaken, declared] at free
        cases free
    · rfl
  dsimp only
  split
  · exact again .schema
  · split
    · exact again .collection
    · split
      · exact again .dispatch
      · rfl

/-- A schema that an address denotes is there. -/
theorem exists_of_findSchema {address : SchemaAddress} {ref : SchemaRef} {world after : World}
    (performed : perform (findSchema address) world = (.ok ref, after)) : ∃ schema, world.schema? ref = some schema := by
  cases address with
  | ofBuilder index reference =>
      rcases (still_numberOf index).exists_of_perform_bind performed with ⟨number, _, performed⟩
      rcases (still_schema? number reference).exists_of_perform_bind performed with ⟨found?, looked, performed⟩
      obtain rfl : found? = some ref := by
        cases found? with
        | none => cases performed
        | some found => exact congrArg some (Except.ok.inj (congrArg Prod.fst performed))
      rcases (still_ofExcept _).exists_of_perform_bind looked with ⟨name, _, looked⟩
      rcases (still_builder number).exists_of_perform_bind looked with ⟨builder, isBuilder, told⟩
      have isFound : (builder.graph.schema? name).map _ = some ref := Except.ok.inj (congrArg Prod.fst told)
      rcases Option.map_eq_some_iff.mp isFound with ⟨schema, there, rfl⟩
      exact ⟨schema, by rw [World.schema?_ofBuilder (builder_of_perform isBuilder), there]⟩
  | loose name path =>
      rcases (still_findSpace _).exists_of_perform_bind performed with ⟨place, _, performed⟩
      rcases (still_space place).exists_of_perform_bind performed with ⟨space, isSpace, performed⟩
      cases inSpace : space.schema? path with
      | none =>
          rw [inSpace] at performed
          cases performed
      | some schema =>
          rw [inSpace] at performed
          obtain rfl : ⟨place, path⟩ = ref := Except.ok.inj (congrArg Prod.fst performed)
          exact ⟨schema, by rw [World.schema?, space?_of_perform isSpace]; exact inSpace⟩

end Looks

section Commands

variable {manner : Manner} {good : World → Prop} (kept : World.KeptByRegistering manner good)

theorem keeps_createFrom (kept : World.KeptByDeclaring manner good) (spec : BuilderSpec) :
    Keeps good (createFrom spec) :=
  keeps_bind still_get.keeps fun _ => keeps_bind (still_ofExcept _).keeps fun _ =>
    kept.keeps_createBuilder _ _ _

include kept

theorem keeps_makeOptional (address : SchemaAddress) (name : Data) :
    Keeps good (makeOptional address name) := by
  refine keeps_bind (still_findSchema address).keeps fun ref => ?_
  refine keeps_bind (still_schema ref).keeps fun schema => ?_
  cases schema.position? name with
  | none => exact (still_pure _).keeps
  | some position =>
      exact keeps_bind (kept.relax _) fun _ => keeps_bind (still_schema ref).keeps fun _ =>
        (still_pure _).keeps

theorem keeps_takeCalls : Keeps good takeCalls := fun world isGood => kept.seen world _ isGood

omit kept in
theorem keeps_silent {operation : Run Unit} (keeps : Keeps good operation) :
    Keeps good (Command.silent operation) :=
  keeps_bind keeps fun _ => (still_pure _).keeps

theorem keeps_document (source : DocumentSource) : Keeps good (document source) := by
  cases source with
  | yaml text =>
      exact keeps_bind (fun world isGood => kept.readings world _ isGood) fun _ => (still_ofExcept _).keeps
  | json text => exact (still_ofExcept _).keeps
  | data value => exact (still_ofExcept _).keeps

omit kept in
theorem tells_of_document {source : DocumentSource} {document : Document} {world after : World}
    (performed : perform (Run.document source) world = (.ok document, after)) : source.Tells document := by
  cases source with
  | yaml text =>
      rcases exists_of_perform_bind performed with ⟨reading, between, _, read⟩
      exact ⟨reading, eq_ok_of_perform read⟩
  | json text => exact eq_ok_of_perform performed
  | data value => exact eq_ok_of_perform performed

/-- The address of a schema that was found can be used. -/
theorem keeps_bind_findSchema {α : Type} (address : SchemaAddress) {next : SchemaRef → Run α}
    (rest : ∀ ref, manner.address ref.address → Keeps good (next ref)) : Keeps good (findSchema address >>= next) :=
  fun _ isGood => (still_findSchema address).good_bind isGood fun ref performed =>
    rest ref (kept.found isGood (exists_of_findSchema performed).choose_spec) _ isGood

/-- A command that makes no builder, and finalizes and forgets none, keeps what the simple operations that register
keep. -/
theorem keeps_registering {command : Command} (obeys : command.Obeys manner) (registers : command.registers = true) :
    Keeps good command.run := by
  have numbered {α : Type} {index : BuilderIndex} {next : Nat → Run α}
      (rest : ∀ number, Keeps good (next number)) : Keeps good (numberOf index >>= next) :=
    keeps_bind (still_numberOf index).keeps rest
  have told {α : Type} {index : BuilderIndex} {next : Builder → Run α}
      (rest : ∀ builder, Keeps good (next builder)) :
      Keeps good (do let builder ← Run.builder (← numberOf index); next builder) :=
    numbered fun number => keeps_bind (still_builder number).keeps rest
  have placed {α : Type} {space : SpaceAddress} {next : SpaceRef → Run α}
      (rest : ∀ ref, Keeps good (next ref)) : Keeps good (findSpace space >>= next) :=
    keeps_bind (still_findSpace space).keeps rest
  cases command with
  | create | finalize | finalizeAll | reset => cases registers
  | dispatchTo index name target =>
      exact numbered fun _ => keeps_bind (kept.keeps_declareDispatch _ _ _) fun _ => (still_dispatchData _ _).keeps
  | dispatchOf index name schema =>
      exact numbered fun _ => keeps_bind_findSchema kept schema fun target isAddress =>
        keeps_bind (kept.keeps_openDispatch _ _) fun _ => keeps_bind (kept.addDispatch _ _ isAddress) fun _ =>
          (still_dispatchData _ _).keeps
  | apply index source =>
      refine keeps_silent (numbered fun number => ?_)
      exact keeps_bind_told (keeps_document kept source) fun document _ after performed isGood =>
        Document.keeps_apply kept number (obeys document (tells_of_document performed)) after isGood
  | resolve index name =>
      exact numbered fun _ => keeps_bind (kept.keeps_resolve _ _) fun _ => (still_pure _).keeps
  | openSpace index name =>
      exact numbered fun _ => keeps_bind (kept.ensureSpace _ obeys) fun _ => (still_pure _).keeps
  | findSchema index name =>
      refine numbered fun _ => keeps_bind (still_schema? _ _).keeps fun found => ?_
      cases found with
      | none => exact (still_pure _).keeps
      | some ref => exact (still_schemaData ref).keeps
  | validate index => exact told fun _ => keeps_bind (still_ofExcept _).keeps fun _ => (still_pure _).keeps
  | toData index | describe index | specs index | entries index => exact told fun _ => (still_pure _).keeps
  | toJson index indent =>
      exact told fun _ => keeps_bind (still_ofFault _).keeps fun _ => keeps_bind (still_ofFault _).keeps fun _ =>
        (still_pure _).keeps
  | toYaml index | fingerprint index | snapshot index _ =>
      exact told fun _ => keeps_bind (still_ofFault _).keeps fun _ => (still_pure _).keeps
  | check index =>
      exact told fun builder => keeps_bind (kept.reads builder.tells_changes) fun _ => (still_pure _).keeps
  | takeCalls => exact keeps_bind (keeps_takeCalls kept) fun _ => (still_pure _).keeps
  | listFiles => exact keeps_bind still_get.keeps fun _ => (still_pure _).keeps
  | writeFile name text | deleteFile name => exact keeps_silent (kept.writes _ obeys)
  | giveUp message => exact (still_throw _).keeps
  | looseSpace name => exact keeps_silent (kept.addLoose obeys)
  | spaceSchema space path compact =>
      exact placed fun _ => keeps_bind (kept.addSchema _ obeys.1 obeys.2) fun _ => (still_schemaData _).keeps
  | spaceCollection space path =>
      exact placed fun _ => keeps_bind (kept.addKeyedSchema _ obeys) fun _ => (still_collectionData _).keeps
  | spaceDispatch space path requestType =>
      exact placed fun _ => keeps_bind (kept.addDispatch _ _ obeys) fun _ => (still_dispatchData _ _).keeps
  | spaceAgain space kind path => exact keeps_silent (placed fun ref => (still_addOwnAgain ref kind path).keeps)
  | spaceFind space kind path => exact placed fun _ => (still_findIn _ _ _).keeps
  | spaceData space | spaceDescription space =>
      exact placed fun _ => keeps_bind (still_space _).keeps fun _ => (still_pure _).keeps
  | optional schema field => exact keeps_makeOptional kept schema field
  | schemaDescription schema =>
      exact keeps_bind (still_findSchema schema).keeps fun _ => keeps_bind (still_schema _).keeps fun _ =>
        (still_pure _).keeps

omit kept in
/-- A command that finalizes nothing keeps what the simple operations that declare keep. -/
theorem keeps_declaring (kept : World.KeptByDeclaring manner good) {command : Command} (obeys : command.Obeys manner)
    (declares : command.finalizes = false) : Keeps good command.run := by
  cases registers : command.registers with
  | true => exact keeps_registering kept.toKeptByRegistering obeys registers
  | false =>
      cases command with
      | create spec => exact keeps_bind (keeps_createFrom kept spec) fun _ => (still_rootsData _).keeps
      | reset => exact keeps_silent kept.keeps_reset
      | finalize | finalizeAll => cases declares
      | _ => cases registers

omit kept in
/-- A command keeps what the simple operations keep. -/
theorem keeps_command (kept : World.Kept manner good) {command : Command} (obeys : command.Obeys manner) :
    Keeps good command.run := by
  cases finalizes : command.finalizes with
  | false => exact keeps_declaring kept.toKeptByDeclaring obeys finalizes
  | true =>
      cases command with
      | finalize index => exact keeps_silent (keeps_bind (still_numberOf index).keeps kept.finalize)
      | finalizeAll => exact keeps_silent kept.keeps_finalizeAll
      | _ => cases finalizes

end Commands

end Run

namespace Session

open Effect Run

variable {manner : Manner} {good : World → Prop} (kept : World.KeptByRegistering manner good)
include kept

theorem keeps_relaxIf (optional : Bool) (field : FieldRef) :
    Keeps good (relaxIf optional field) := by
  cases optional
  · exact (still_pure _).keeps
  · exact kept.relax field

theorem keeps_relaxFoundIf (optional : Bool) (found : Option FieldRef) :
    Keeps good (relaxFoundIf optional found) := by
  cases found with
  | some field => exact keeps_relaxIf kept optional field
  | none =>
      cases optional
      · exact (still_pure _).keeps
      · exact (still_throw _).keeps

theorem keeps_addMember (ref : SchemaRef) {name : Data} (isName : manner.name name) (member : Data) :
    Keeps good (addMember ref name member) := by
  unfold addMember
  cases member.text?.bind FieldTag.ofMember? with
  | none => exact (still_throw _).keeps
  | some type => exact kept.addField ref isName (Or.inl type.isTag_tag)

/-- A word adds a field, looks one up, sets the flag, or sets the key. -/
theorem keeps_callWord (ref : SchemaRef) {name : Data} {word : String}
    (obeys : if word = "set_compact" then manner.flag name else manner.name name) :
    Keeps good (callWord ref name word) := by
  refine keeps_bind (still_schema ref).keeps fun schema => ?_
  cases isTag : FieldTag.ofTag? word with
  | some type =>
      have isName : manner.name name := by
        rwa [if_neg] at obeys
        rintro rfl
        cases isTag
      exact keeps_bind (kept.addField ref isName (Or.inl type.isTag_tag)) fun _ => (still_pure _).keeps
  | none =>
      dsimp only
      split
      · exact (still_pure _).keeps
      · split
        next isSet =>
          rw [if_pos (beq_iff_eq.mp isSet)] at obeys
          exact keeps_bind (kept.setCompact ref obeys) fun _ => (still_pure _).keeps
        next other =>
          rw [if_neg fun same => other (beq_iff_eq.mpr same)] at obeys
          split
          · exact keeps_bind (kept.setKey ref (by simpa using obeys)) fun _ => (still_pure _).keeps
          · split
            · exact (still_throw _).keeps
            · exact (still_throw _).keeps

theorem keeps_callTag (ref : SchemaRef) {name tag : Data}
    (obeys : if tag.text? = some "set_compact" then manner.flag name else manner.name name) :
    Keeps good (callTag ref name tag) := by
  cases tag with
  | text word => exact keeps_callWord kept ref (by simpa [Data.text?] using obeys)
  | _ => exact (still_throw _).keeps

/-- A key can be set to the items of a value. -/
theorem keeps_key (ref : SchemaRef) {names : Data}
    (areNames : ∀ items, names.items = .ok items → ∀ name ∈ items, manner.name name) :
    Keeps good (do setKey ref (← keyNames ref names)) := by
  have last : Keeps good (do setKey ref (← ofFault names.items)) := by
    cases items : names.items with
    | error fault => exact (still_throw _).keeps
    | ok items' => exact kept.setKey ref (areNames items' items)
  unfold keyNames
  rw [bind_assoc]
  refine keeps_bind (still_schema ref).keeps fun schema => ?_
  cases schema.keyed with
  | false => exact (still_throw _).keeps
  | true => exact last

/-- A simple action keeps what the simple operations that register keep. -/
theorem keeps_simple (ref : SchemaRef) (around : List SchemaRef) {action : Action} (obeys : action.Obeys manner)
    (isSimple : action.isSimple = true) : Keeps good (act ref around action) := by
  cases action with
  | field name type optional =>
      exact keeps_bind (kept.keeps_addPrimitive ref obeys type) fun _ => keeps_relaxIf kept optional _
  | member name member optional =>
      exact keeps_bind (keeps_addMember kept ref obeys member) fun _ => keeps_relaxIf kept optional _
  | tagged name tag optional =>
      exact keeps_bind (keeps_callTag kept ref obeys) fun _ => keeps_relaxFoundIf kept optional _
  | reference name target optional =>
      exact keeps_bind (kept.keeps_addReference ref obeys.1 obeys.2) fun _ => keeps_relaxIf kept optional _
  | schema name schema optional =>
      exact keeps_bind_findSchema kept schema fun target isAddress =>
        keeps_bind (kept.addField ref obeys (Or.inr isAddress)) fun _ => keeps_relaxIf kept optional _
  | key names => exact keeps_key kept ref obeys
  | compact value => exact kept.setCompact ref obeys
  | giveUp message => exact (still_throw _).keeps
  | inline | outward | step => cases isSimple

end Session

end SpecGraph
