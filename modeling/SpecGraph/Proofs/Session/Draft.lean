import SpecGraph.Proofs.Document.Apply
import SpecGraph.Proofs.Session.Kept
import SpecGraph.Proofs.World.Yields

/-!
# Drafts

A body that acts on its own schema alone makes a draft: its schema with the fields so far, the schemas that are nested
in it, and the key of its collection. A namespace holds a draft at the ends of its lists. If an action on the schema of
a draft succeeds, the namespace holds the draft that the action makes of it: one more field, a changed one, a flag, a
key, or a field with the draft of a body of its own before it.
-/

namespace SpecGraph

/-- A schema that is being built. -/
structure Draft where
  /-- The schema with its fields so far. -/
  schema : Schema
  /-- The key of its collection, if it belongs to one. -/
  key : List Data
  /-- The schemas that are nested in it so far, in the order of their declaration. -/
  nested : List Schema

/-- The name that the schema of an address has. -/
def SchemaAddress.name? : SchemaAddress → Option Name
  | .ofBuilder _ reference => (Reference.parse reference).toOption
  | .loose space path => some ⟨space, path⟩

/-- The field that an action without a body appends, if it succeeds in appending one. -/
def Action.field? : Action → Option Field
  | .field name type optional => (type.text?.bind FieldTag.ofTag?).map fun type => ⟨name, type.tag, !optional⟩
  | .member name word optional => (word.text?.bind FieldTag.ofMember?).map fun type => ⟨name, type.tag, !optional⟩
  | .tagged name tag optional => (tag.text?.bind FieldTag.ofTag?).map fun type => ⟨name, type.tag, !optional⟩
  | .reference name target optional => (Reference.normalize target).toOption.map fun type => ⟨name, type, !optional⟩
  | .schema name address optional => address.name?.map fun target => ⟨name, target.format, !optional⟩
  | _ => none

mutual

/-- An action acts on its own schema alone, and so do the bodies in it. -/
def Action.isOwn : Action → Bool
  | .inline _ body _ => Action.areOwn body
  | .outward _ => false
  | .step _ => false
  | _ => true

/-- Actions act on their own schema alone. -/
def Action.areOwn : List Action → Bool
  | [] => true
  | action :: rest => action.isOwn && Action.areOwn rest

end

namespace Draft

/-- A schema without fields. -/
def start (path : String) (compact : Data) (keyed : Bool) : Draft := ⟨Schema.empty path compact keyed, [], []⟩

/-- The schema and those that are nested in it. -/
def schemas (draft : Draft) : List Schema := draft.schema :: draft.nested

/-- The collection of the schema, if it belongs to one. -/
def collections (draft : Draft) : List Collection :=
  if draft.schema.keyed then [⟨draft.schema.path, draft.key⟩] else []

/-- The draft with one more field. -/
def append (draft : Draft) (field : Field) : Draft := { draft with schema := draft.schema.append field }

/-- The draft with a field that may be left out. -/
def relax (draft : Draft) (position : Nat) : Draft := { draft with schema := draft.schema.relax position }

/-- The draft with another flag. -/
def setCompact (draft : Draft) (value : Data) : Draft :=
  { draft with schema := { draft.schema with compact := value } }

/-- The draft with another key. -/
def setKey (draft : Draft) (names : List Data) : Draft := { draft with key := names }

/-- The draft with the schemas of another one nested in it. -/
def enclose (draft inner : Draft) : Draft := { draft with nested := draft.nested ++ inner.schemas }

@[simp]
theorem schemas_enclose (draft inner : Draft) : (draft.enclose inner).schemas = draft.schemas ++ inner.schemas := rfl

@[simp]
theorem collections_enclose (draft inner : Draft) : (draft.enclose inner).collections = draft.collections := rfl

/-- The draft of the body of a field. -/
def startField (draft : Draft) (name : String) : Draft := start (draft.schema.path ++ "/" ++ name) (.bool false) false

/-- The draft after the operation of a word, which is no type, was called with a name. -/
def call (draft : Draft) (name : Data) (optional : Bool) (word : String) : Draft :=
  if word == "get_field" then
    match draft.schema.position? name with
    | some position => if optional then draft.relax position else draft
    | none => draft
  else if word == "set_compact" then draft.setCompact name
  else draft.setKey [name]

mutual

/-- The draft after an action that succeeds, in a namespace of a name. -/
def act (space : String) : Draft → Action → Draft
  | draft, .inline (.text name) body optional =>
      let inner := actAll space (draft.startField name) body
      (draft.enclose inner).append ⟨.text name, Name.format ⟨space, inner.schema.path⟩, !optional⟩
  | draft, .tagged name (.text word) optional =>
      (Action.tagged name (.text word) optional).field?.elim (draft.call name optional word) draft.append
  | draft, .key names =>
      match names.items with
      | .ok names => draft.setKey names
      | .error _ => draft
  | draft, .compact value => draft.setCompact value
  | draft, action => action.field?.elim draft draft.append

/-- The draft after actions that succeed one after the other. -/
def actAll (space : String) : Draft → List Action → Draft
  | draft, [] => draft
  | draft, action :: rest => actAll space (act space draft action) rest

end

/-- A schema keeps its path and its collection. -/
structure Follows (earlier later : Draft) : Prop where
  path : later.schema.path = earlier.schema.path
  keyed : later.schema.keyed = earlier.schema.keyed

theorem Follows.refl (draft : Draft) : draft.Follows draft := ⟨rfl, rfl⟩

theorem Follows.trans {first second third : Draft} (before : first.Follows second) (after : second.Follows third) :
    first.Follows third := ⟨after.path.trans before.path, after.keyed.trans before.keyed⟩

theorem follows_call (draft : Draft) (name : Data) (optional : Bool) (word : String) :
    draft.Follows (draft.call name optional word) := by
  simp only [call]
  split
  · split
    · split
      · exact ⟨rfl, rfl⟩
      · exact .refl draft
    · exact .refl draft
  · split
    · exact ⟨rfl, rfl⟩
    · exact ⟨rfl, rfl⟩

theorem follows_elim {draft other : Draft} (follows : draft.Follows other) (field? : Option Field) :
    draft.Follows (field?.elim other draft.append) := by
  cases field? with
  | none => exact follows
  | some field => exact ⟨rfl, rfl⟩

theorem follows_act (space : String) (draft : Draft) (action : Action) : draft.Follows (draft.act space action) := by
  fun_cases act space draft action with
  | case1 => exact ⟨rfl, rfl⟩
  | case2 => exact follows_elim (follows_call _ _ _ _) _
  | case3 => exact ⟨rfl, rfl⟩
  | case4 => exact .refl _
  | case5 => exact ⟨rfl, rfl⟩
  | case6 => exact follows_elim (.refl _) _

theorem follows_actAll (space : String) (draft : Draft) (actions : List Action) :
    draft.Follows (draft.actAll space actions) := by
  induction actions generalizing draft with
  | nil => exact .refl draft
  | cons action rest ih => exact (follows_act space draft action).trans (ih (draft.act space action))

end Draft

namespace Namespace

/-- The namespace with a draft at the ends of its lists. -/
def hold (space : Namespace) (draft : Draft) : Namespace :=
  { space with
    schemas := space.schemas ++ draft.schemas
    collections := space.collections ++ draft.collections }

/-- There is nothing of the path of a draft in a namespace. -/
structure Spares (space : Namespace) (draft : Draft) : Prop where
  schema : draft.schema.path ∉ space.taken .schema
  collection : draft.schema.keyed = true → draft.schema.path ∉ space.taken .collection

section Hold

variable {space : Namespace} {draft : Draft}

@[simp]
theorem name_hold (space : Namespace) (draft : Draft) : (space.hold draft).name = space.name := rfl

theorem Spares.follows {later : Draft} (spares : space.Spares draft) (follows : draft.Follows later) :
    space.Spares later := by
  constructor
  · rw [follows.path]
    exact spares.schema
  · rw [follows.path, follows.keyed]
    exact spares.collection

theorem schema?_hold (spares : space.Spares draft) :
    (space.hold draft).schema? draft.schema.path = some draft.schema := by
  have absent := schema?_of_free spares.schema
  simp only [schema?] at absent
  simp [schema?, hold, Draft.schemas, List.find?_append, absent]

/-- The schema of a draft is changed where a namespace holds it. -/
theorem modifySchema_hold (spares : space.Spares draft) (change : Schema → Schema)
    (path : (change draft.schema).path = draft.schema.path) (keyed : (change draft.schema).keyed = draft.schema.keyed) :
    (space.hold draft).modifySchema draft.schema.path change =
      space.hold { draft with schema := change draft.schema } := by
  have absent := schema?_of_free spares.schema
  simp only [schema?] at absent
  simp [modifySchema, hold, Draft.schemas, Draft.collections, replaceFirst_append, replaceFirst, absent, path, keyed]

/-- The key of a draft is set where a namespace holds it. -/
theorem modifyCollection_hold (spares : space.Spares draft) (keyed : draft.schema.keyed = true) (names : List Data) :
    (space.hold draft).modifyCollection draft.schema.path (fun collection => { collection with key := names }) =
      space.hold (draft.setKey names) := by
  have absent : space.collections.find? (fun collection => collection.path == draft.schema.path) = none :=
    collection?_of_free (spares.collection keyed)
  simp [modifyCollection, hold, Draft.schemas, Draft.collections, Draft.setKey, replaceFirst_append, replaceFirst, absent,
    keyed]

theorem addSchema_hold (space : Namespace) (draft : Draft) (name : String) :
    (space.hold draft).addSchema (draft.startField name).schema = (space.hold draft).hold (draft.startField name) := by
  simp [addSchema, hold, Draft.schemas, Draft.collections, Draft.startField, Draft.start, Schema.empty]

/-- What is held after a draft is nested in it. -/
theorem hold_hold (space : Namespace) (draft : Draft) {inner : Draft} (keyed : inner.schema.keyed = false) :
    (space.hold draft).hold inner = space.hold (draft.enclose inner) := by
  have none_ : inner.collections = [] := by simp [Draft.collections, keyed]
  simp [hold, none_]

end Hold

end Namespace

namespace Draft

theorem relax_append (draft : Draft) (name : Data) (type : String) :
    (draft.append ⟨name, type, true⟩).relax draft.schema.fields.length = draft.append ⟨name, type, false⟩ := by
  simp [append, relax, Schema.append, Schema.relax, modify_concat, Field.relaxed]

end Draft

namespace Session

open Effect Run

/-- A schema that is found has the name that its address gives. -/
theorem name?_of_findSchema {address : SchemaAddress} {ref : SchemaRef} {world after : World}
    (performed : Effect.perform (findSchema address) world = (.ok ref, after)) :
    ∃ target, address.name? = some target ∧ ref.address = target.format := by
  cases address with
  | ofBuilder index reference =>
      rcases exists_of_perform_bind performed with ⟨number, _, _, performed⟩
      rcases exists_of_perform_bind performed with ⟨found?, _, looked, performed⟩
      rcases exists_of_perform_bind looked with ⟨name, _, isName, looked⟩
      rcases exists_of_perform_bind looked with ⟨builder, _, _, told⟩
      cases told
      cases read : Reference.parse reference with
      | error error =>
          rw [read] at isName
          cases isName
      | ok other =>
          rw [read] at isName
          cases isName
          refine ⟨name, by simp [SchemaAddress.name?, read, Except.toOption], ?_⟩
          cases there : builder.graph.schema? name with
          | none =>
              rw [there] at performed
              cases performed
          | some schema =>
              rw [there] at performed
              cases performed
              rfl
  | loose space path =>
      rcases exists_of_perform_bind performed with ⟨place, _, isPlace, looked⟩
      rcases exists_of_perform_bind looked with ⟨owner, _, _, last⟩
      obtain rfl : place.name = space := by
        rcases exists_of_perform_bind isPlace with ⟨started, _, _, isPlace⟩
        cases number : started.looseNumber? space with
        | none =>
            rw [number] at isPlace
            cases isPlace
        | some number =>
            rw [number] at isPlace
            cases isPlace
            rfl
      cases there : owner.schema? path with
      | none =>
          rw [there] at last
          cases last
      | some schema =>
          rw [there] at last
          cases last
          exact ⟨⟨place.name, path⟩, rfl, rfl⟩

variable {number : Nat} {space : Namespace} {draft : Draft}

section Simple

variable (spares : space.Spares draft)
include spares

theorem yields_relaxIf (optional : Bool) (position : Nat) :
    Yields number (relaxIf optional ⟨⟨⟨.builder number, space.name⟩, draft.schema.path⟩, position⟩) (space.hold draft)
      (fun _ => True) (space.hold (if optional then draft.relax position else draft)) := by
  cases optional with
  | false => exact (yields_pure ()).weaken fun _ _ => trivial
  | true =>
      have changed := Namespace.modifySchema_hold spares (·.relax position) rfl rfl
      have fills : Fills number (relaxIf true ⟨⟨⟨.builder number, space.name⟩, draft.schema.path⟩, position⟩)
          (space.hold draft) (.ok ()) ((space.hold draft).modifySchema draft.schema.path (·.relax position)) :=
        fills_modifySpace (fun space => space.modifySchema draft.schema.path (·.relax position)) rfl
      rw [changed] at fills
      exact fills.yields.weaken fun _ _ => trivial

/-- A field that is added may be made optional at once. -/
theorem yields_append {operation : Run FieldRef} {name : Data} {type : String} (optional : Bool)
    (adds : Yields number operation (space.hold draft)
      (· = ⟨⟨⟨.builder number, space.name⟩, draft.schema.path⟩, draft.schema.fields.length⟩)
      ((space.hold draft).modifySchema draft.schema.path (·.append ⟨name, type, true⟩))) :
    Yields number (operation >>= relaxIf optional) (space.hold draft) (fun _ => True)
      (space.hold (draft.append ⟨name, type, !optional⟩)) := by
  have changed := Namespace.modifySchema_hold spares (·.append ⟨name, type, true⟩) rfl rfl
  have spared : space.Spares (draft.append ⟨name, type, true⟩) := ⟨spares.schema, spares.collection⟩
  rw [changed] at adds
  refine adds.bind rfl fun _ same => ?_
  rw [same]
  have relaxed : Yields number (relaxIf optional _) _ _ _ := yields_relaxIf spared optional draft.schema.fields.length
  rw [Draft.relax_append] at relaxed
  cases optional with
  | false => exact relaxed
  | true => exact relaxed

variable (name : Data) (optional : Bool)

/-- A field is added with the type of a tag. -/
theorem yields_field (type : Data) :
    Yields number
      (addPrimitive ⟨⟨.builder number, space.name⟩, draft.schema.path⟩ name type >>= relaxIf optional)
      (space.hold draft) (fun _ => True)
      (space.hold ((Action.field name type optional).field?.elim draft draft.append)) := by
  cases type with
  | text tag =>
      simp only [addPrimitive, bind_assoc]
      refine (yields_ofExcept (Reference.fieldType (.text tag))).bind rfl fun type isType => ?_
      cases found : FieldTag.ofTag? tag with
      | none => simp [Reference.fieldType, found] at isType
      | some other =>
          obtain rfl : other = type := by
            simpa [Reference.fieldType, found, pure, Except.pure] using isType
          simp only [Action.field?, Data.text?, Option.bind_some, found, Option.map_some, Option.elim_some]
          exact yields_append spares optional (yields_addField (Namespace.schema?_hold spares) name other.tag)
  | _ => exact yields_throw_bind _ rfl

/-- A field is added with the type of a member name. -/
theorem yields_member (word : Data) :
    Yields number
      (addMember ⟨⟨.builder number, space.name⟩, draft.schema.path⟩ name word >>= relaxIf optional)
      (space.hold draft) (fun _ => True)
      (space.hold ((Action.member name word optional).field?.elim draft draft.append)) := by
  simp only [addMember, Action.field?]
  cases word.text?.bind FieldTag.ofMember? with
  | none => exact yields_throw_bind _ rfl
  | some type => exact yields_append spares optional (yields_addField (Namespace.schema?_hold spares) name type.tag)

/-- A field is added with the full name of a schema. -/
theorem yields_reference (target : Data) :
    Yields number
      (addReference ⟨⟨.builder number, space.name⟩, draft.schema.path⟩ name target >>= relaxIf optional)
      (space.hold draft) (fun _ => True)
      (space.hold ((Action.reference name target optional).field?.elim draft draft.append)) := by
  have found := Namespace.schema?_hold spares
  simp only [addReference, bind_assoc]
  refine (yields_checkFieldName found name).bind rfl fun _ _ => ?_
  cases isText : target.text? with
  | none =>
      simp only [Option.isNone_none, if_true, bind_assoc]
      refine yields_of_fails (fun world after value performed => ?_) rfl
      rcases exists_of_perform_bind performed with ⟨_, _, _, failed⟩
      cases failed
  | some text =>
      simp only [Option.isNone_some, Bool.false_eq_true, if_false, bind_assoc]
      refine (yields_ofExcept (Reference.normalize target)).bind rfl fun type isType => ?_
      simp only [Action.field?, isType]
      exact yields_append spares optional (yields_addField found name type)

/-- A field is added with the full name of a schema that is found. -/
theorem yields_schema (address : SchemaAddress) :
    Yields number
      (do
        let target ← findSchema address
        relaxIf optional (← addField ⟨⟨.builder number, space.name⟩, draft.schema.path⟩ name target.address))
      (space.hold draft) (fun _ => True)
      (space.hold ((Action.schema name address optional).field?.elim draft draft.append)) := by
  refine (yields_of_still (still_findSchema address) fun _ _ => name?_of_findSchema).bind rfl fun ref isFound => ?_
  rcases isFound with ⟨target, isName, isAddress⟩
  simp only [Action.field?, isName, isAddress]
  exact yields_append spares optional (yields_addField (Namespace.schema?_hold spares) name target.format)

omit name optional in
theorem yields_setCompact (value : Data) :
    Yields number (setCompact ⟨⟨.builder number, space.name⟩, draft.schema.path⟩ value) (space.hold draft)
      (fun _ => True) (space.hold (draft.setCompact value)) := by
  have changed := Namespace.modifySchema_hold spares ({ · with compact := value }) rfl rfl
  have fills : Fills number (setCompact ⟨⟨.builder number, space.name⟩, draft.schema.path⟩ value) (space.hold draft)
      (.ok ()) ((space.hold draft).modifySchema draft.schema.path ({ · with compact := value })) :=
    fills_modifySpace (fun space => space.modifySchema draft.schema.path ({ · with compact := value })) rfl
  rw [changed] at fills
  exact fills.yields.weaken fun _ _ => trivial

omit name optional in
theorem yields_setKey (names : List Data) :
    Yields number (setKey ⟨⟨.builder number, space.name⟩, draft.schema.path⟩ names) (space.hold draft)
      (fun _ => True) (space.hold (draft.setKey names)) := by
  have found := Namespace.schema?_hold spares
  cases keyed : draft.schema.keyed with
  | true =>
      rw [← Namespace.modifyCollection_hold spares keyed names]
      exact (fills_setKey found keyed rfl names).yields.weaken fun _ _ => trivial
  | false =>
      refine (fills_schema found).yields.bind rfl fun _ same => ?_
      simp only [same, keyed]
      exact yields_throw_bind _ rfl

omit name optional in
theorem yields_key (names : Data) :
    Yields number
      (keyNames ⟨⟨.builder number, space.name⟩, draft.schema.path⟩ names >>=
        setKey ⟨⟨.builder number, space.name⟩, draft.schema.path⟩)
      (space.hold draft) (fun _ => True) (space.hold (draft.act space.name (.key names))) := by
  simp only [keyNames, bind_assoc]
  refine (fills_schema (Namespace.schema?_hold spares)).yields.bind rfl fun found same => ?_
  cases keyed : found.keyed with
  | false =>
      simp only [Bool.not_false, if_true]
      exact yields_throw_bind _ rfl
  | true =>
      simp only [Bool.not_true, Bool.false_eq_true, if_false]
      cases read : names.items with
      | error fault => exact yields_throw_bind _ rfl
      | ok names =>
          simp only [Draft.act, read]
          refine (yields_pure names).bind rfl fun _ same => ?_
          rw [same]
          exact yields_setKey spares names

/-- The operation of a word that is no tag makes a field optional, sets the flag, or sets the key. -/
theorem yields_call (word : String) :
    Yields number
      ((if word == "get_field" then
          return (draft.schema.position? name).map fun position =>
            ⟨⟨⟨.builder number, space.name⟩, draft.schema.path⟩, position⟩
        else if word == "set_compact" then do
          setCompact ⟨⟨.builder number, space.name⟩, draft.schema.path⟩ name
          return none
        else if draft.schema.keyed && word == "key" then do
          setKey ⟨⟨.builder number, space.name⟩, draft.schema.path⟩ [name]
          return none
        else if uncallable.contains word || (draft.schema.keyed && word == "collection") then
          throw (.fault .wrongKind)
        else throw (.fault .missingMember) : Run (Option FieldRef)) >>= relaxFoundIf optional)
      (space.hold draft) (fun _ => True) (space.hold (draft.call name optional word)) := by
  have last {later : Draft} : Yields number (relaxFoundIf optional none) (space.hold later) (fun _ => True)
      (space.hold later) := by
    cases optional with
    | false => exact (yields_pure ()).weaken fun _ _ => trivial
    | true => exact yields_throw _ rfl
  simp only [Draft.call]
  split
  · refine (yields_pure _).bind rfl fun _ same => ?_
    rw [same]
    cases draft.schema.position? name with
    | none => exact last
    | some position => exact yields_relaxIf spares optional position
  · split
    · simp only [bind_assoc, pure_bind]
      exact (yields_setCompact spares name).bind rfl fun _ _ => last
    · split
      · simp only [bind_assoc, pure_bind]
        exact (yields_setKey spares [name]).bind rfl fun _ _ => last
      · split
        · exact yields_throw_bind _ rfl
        · exact yields_throw_bind _ rfl

/-- The operation of a word adds a field, makes one optional, sets the flag, or sets the key. -/
theorem yields_tagged (tag : Data) :
    Yields number
      (callTag ⟨⟨.builder number, space.name⟩, draft.schema.path⟩ name tag >>= relaxFoundIf optional)
      (space.hold draft) (fun _ => True) (space.hold (draft.act space.name (.tagged name tag optional))) := by
  cases tag with
  | text word =>
      simp only [callTag, callWord, bind_assoc]
      refine (fills_schema (Namespace.schema?_hold spares)).yields.bind rfl fun found same => ?_
      rw [same]
      cases isTag : FieldTag.ofTag? word with
      | some type =>
          have adds : Yields number (addField _ name type.tag) _ _ _ :=
            yields_addField (Namespace.schema?_hold spares) name type.tag
          simp only [Draft.act, Action.field?, Data.text?, Option.bind_some, isTag, Option.map_some, Option.elim_some,
            bind_assoc, pure_bind]
          exact yields_append spares optional adds
      | none =>
          simp only [Draft.act, Action.field?, Data.text?, Option.bind_some, isTag, Option.map_none, Option.elim_none]
          exact yields_call spares name optional word
  | _ => exact yields_throw_bind _ rfl

end Simple

/-- A field with a body is added after the draft of its body. -/
theorem yields_inline (spares : space.Spares draft) (around : List SchemaRef) (name : Data) (body : List Action)
    (optional : Bool)
    (inner : ∀ text, (space.hold draft).Spares (draft.startField text) →
      Yields number
        (actAll ⟨⟨.builder number, space.name⟩, draft.schema.path ++ "/" ++ text⟩
          (⟨⟨.builder number, space.name⟩, draft.schema.path⟩ :: around) body)
        ((space.hold draft).hold (draft.startField text)) (fun _ => True)
        ((space.hold draft).hold ((draft.startField text).actAll space.name body))) :
    Yields number (act ⟨⟨.builder number, space.name⟩, draft.schema.path⟩ around (.inline name body optional))
      (space.hold draft) (fun _ => True) (space.hold (draft.act space.name (.inline name body optional))) := by
  have found := Namespace.schema?_hold spares
  simp only [act]
  cases name with
  | text text =>
      let after := (draft.startField text).actAll space.name body
      have follows : (draft.startField text).Follows after := Draft.follows_actAll _ _ _
      have path : after.schema.path = draft.schema.path ++ "/" ++ text := follows.path
      have spared : space.Spares (draft.enclose after) := ⟨spares.schema, spares.collection⟩
      refine (yields_declareNested found (.text text) rfl).bind rfl fun nested isNested => ?_
      rcases isNested with ⟨rfl, fresh⟩
      have held := Namespace.addSchema_hold space draft text
      change (space.hold draft).addSchema (Schema.empty _ _ _) = _ at held
      rw [held]
      refine (inner text ⟨fresh, nofun⟩).bind rfl fun _ _ => ?_
      rw [Namespace.hold_hold space draft follows.keyed]
      simp only [Draft.act]
      rw [path]
      exact yields_append spared optional (yields_addField (Namespace.schema?_hold spared) (.text text) _)
  | _ =>
      refine yields_of_fails (fun world after value performed => ?_) rfl
      rcases exists_of_perform_bind performed with ⟨_, _, declared, _⟩
      rcases exists_of_perform_bind declared with ⟨_, _, _, failed⟩
      cases failed

mutual

/-- If an action on the schema of a draft succeeds, the namespace holds what the action makes of the draft. -/
theorem yields_act (around : List SchemaRef) : ∀ (action : Action), action.isOwn = true →
    ∀ {space : Namespace} {draft : Draft}, space.Spares draft →
      Yields number (act ⟨⟨.builder number, space.name⟩, draft.schema.path⟩ around action) (space.hold draft)
        (fun _ => True) (space.hold (draft.act space.name action))
  | .field name type optional, _, _, _, spares => yields_field spares name optional type
  | .member name word optional, _, _, _, spares => yields_member spares name optional word
  | .tagged name tag optional, _, _, _, spares => yields_tagged spares name optional tag
  | .reference name target optional, _, _, _, spares => yields_reference spares name optional target
  | .schema name address optional, _, _, _, spares => yields_schema spares name optional address
  | .inline name body optional, own, _, _, spares =>
      yields_inline spares around name body optional fun _ spared => yields_actAll _ body own spared
  | .key names, _, _, _, spares => yields_key spares names
  | .compact value, _, _, _, spares => yields_setCompact spares value
  | .giveUp _, _, _, _, _ => yields_throw _ rfl

/-- If actions succeed one after the other, the namespace holds what they make of the draft. -/
theorem yields_actAll (around : List SchemaRef) : ∀ (actions : List Action), Action.areOwn actions = true →
    ∀ {space : Namespace} {draft : Draft}, space.Spares draft →
      Yields number (actAll ⟨⟨.builder number, space.name⟩, draft.schema.path⟩ around actions) (space.hold draft)
        (fun _ => True) (space.hold (draft.actAll space.name actions))
  | [], _, _, _, _ => (yields_pure ()).weaken fun _ _ => trivial
  | action :: rest, own, space, draft, spares => by
      rw [Action.areOwn, Bool.and_eq_true] at own
      have follows := draft.follows_act space.name action
      refine (yields_act around action own.1 spares).bind rfl fun _ _ => ?_
      rw [← follows.path]
      exact yields_actAll around rest own.2 (spares.follows follows)

end

end Session

end SpecGraph
