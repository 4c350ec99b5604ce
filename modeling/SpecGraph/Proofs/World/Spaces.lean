import SpecGraph.Proofs.Graph.Problems
import SpecGraph.Proofs.World.Declare

/-!
# What declaring keeps of every namespace

A declaration makes a namespace without declarations, or changes one namespace: by a schema of a new path, by a
collection together with its schema, by a dispatch of a new path, by a field of a new name, by a key or a flag. A
property of namespaces that these changes keep is one of all namespaces at all times. The namespaces of a builder
have distinct names, and the default namespace is always among them.
-/

namespace SpecGraph

open Effect

/-- The changes that declarations make keep a property of namespaces, if what they are given is in the manner. -/
structure Namespace.Closed (manner : Manner) (each : Namespace → Prop) : Prop where
  /-- A namespace without declarations has the property. -/
  empty : ∀ {name : String}, manner.space name ∨ manner.loose name → each (Namespace.empty name)
  /-- A schema can be registered. -/
  addSchema : ∀ {space : Namespace} {path : String} {flag : Data}, each space →
    space.isTaken .schema path = false → manner.path path → manner.flag flag →
    each (space.addSchema (Schema.empty path flag false))
  /-- The schema of a field can be registered below another one. -/
  addNested : ∀ {space : Namespace} {outer name : String} {schema : Schema}, each space →
    space.schema? outer = some schema → space.isTaken .schema (outer ++ "/" ++ name) = false → manner.nested name →
    each (space.addSchema (Schema.empty (outer ++ "/" ++ name) (.bool false) false))
  /-- A collection can be registered together with its schema. -/
  addKeyed : ∀ {space : Namespace} {path : String}, each space → space.isTaken .schema path = false →
    space.isTaken .collection path = false → manner.path path →
    each ((space.addSchema (Schema.empty path (.bool false) true)).addCollection ⟨path, []⟩)
  /-- The schema of a collection can be registered alone, if its path is taken for the collection. -/
  addUnpaired : ∀ {space : Namespace} {path : String}, each space → space.isTaken .schema path = false →
    space.isTaken .collection path = true → manner.path path →
    each (space.addSchema (Schema.empty path (.bool false) true))
  /-- A dispatch can be registered. -/
  addDispatch : ∀ {space : Namespace} {path requestType : String}, each space →
    space.isTaken .dispatch path = false → manner.address requestType → each (space.addDispatch ⟨path, requestType⟩)
  /-- A field can be added. -/
  addField : ∀ {space : Namespace} {path : String} {schema : Schema} {name : Data} {type : String}, each space →
    space.schema? path = some schema → schema.hasField name = false → manner.name name →
    (FieldTag.isTag type = true ∨ manner.address type) →
    each (space.modifySchema path fun schema => schema.append ⟨name, type, true⟩)
  /-- A field can be made optional. -/
  relax : ∀ {space : Namespace} (path : String) (position : Nat), each space →
    each (space.modifySchema path fun schema => schema.relax position)
  /-- A key can be set. -/
  setKey : ∀ {space : Namespace} (path : String) {names : List Data}, each space →
    (∀ name ∈ names, manner.name name) →
    each (space.modifyCollection path fun collection => { collection with key := names })
  /-- A flag can be set. -/
  setCompact : ∀ {space : Namespace} (path : String) {flag : Data}, each space → manner.flag flag →
    each (space.modifySchema path fun schema => { schema with compact := flag })

/-- Declarations keep a property of namespaces, if what they are given is in the manner, and what they give to one
another is. -/
structure Namespace.Kept (manner : Manner) (each : Namespace → Prop) : Prop extends Namespace.Closed manner each where
  /-- The manner allows what the operations give to one another. -/
  fit : manner.IsFit
  /-- Where a namespace without a builder can be made, every address can be used. -/
  stray : ∀ {name : String}, manner.loose name → ∀ other : Name, manner.address other.format
  /-- The address of a schema can be used. -/
  address : ∀ {space : Namespace} {path : String} {schema : Schema}, each space →
    space.schema? path = some schema → manner.address (space.address path)

/-- What declarations keep of two properties they keep of both. -/
theorem Namespace.Closed.and {manner : Manner} {first second : Namespace → Prop} (left : Closed manner first)
    (right : Closed manner second) : Closed manner fun space => first space ∧ second space where
  empty allowed := ⟨left.empty allowed, right.empty allowed⟩
  addSchema has fresh isPath isFlag :=
    ⟨left.addSchema has.1 fresh isPath isFlag, right.addSchema has.2 fresh isPath isFlag⟩
  addNested has found fresh isNested :=
    ⟨left.addNested has.1 found fresh isNested, right.addNested has.2 found fresh isNested⟩
  addKeyed has fresh unpaired isPath :=
    ⟨left.addKeyed has.1 fresh unpaired isPath, right.addKeyed has.2 fresh unpaired isPath⟩
  addUnpaired has fresh paired isPath :=
    ⟨left.addUnpaired has.1 fresh paired isPath, right.addUnpaired has.2 fresh paired isPath⟩
  addDispatch has fresh request := ⟨left.addDispatch has.1 fresh request, right.addDispatch has.2 fresh request⟩
  addField has found fresh isName isType :=
    ⟨left.addField has.1 found fresh isName isType, right.addField has.2 found fresh isName isType⟩
  relax path position has := ⟨left.relax path position has.1, right.relax path position has.2⟩
  setKey path _ has areNames := ⟨left.setKey path has.1 areNames, right.setKey path has.2 areNames⟩
  setCompact path _ has isFlag := ⟨left.setCompact path has.1 isFlag, right.setCompact path has.2 isFlag⟩

/-- The namespaces of a graph have a property and distinct names, and the default one is among them. -/
structure Graph.Holds (each : Namespace → Prop) (graph : Graph) : Prop where
  /-- There is the default namespace. -/
  default : Name.defaultSpace ∈ graph.spaces.map Namespace.name
  /-- The names of the namespaces are told apart. -/
  names : (graph.spaces.map Namespace.name).Nodup
  /-- The namespaces have the property. -/
  spaces : ∀ space ∈ graph.spaces, each space

/-- All namespaces of a world have a property, and those without a builder have a name of the manner. -/
structure World.Holds (manner : Manner) (each : Namespace → Prop) (world : World) : Prop where
  /-- The namespaces of the builders have the property. -/
  graphs : ∀ builder ∈ world.builders, builder.graph.Holds each
  /-- The namespaces without a builder have it, and a name of the manner. -/
  loose : ∀ space ∈ world.loose, manner.loose space.name ∧ each space

variable {manner : Manner} {each : Namespace → Prop}

theorem World.holds_start (files : Files) : (World.start files).Holds manner each :=
  ⟨by simp [start], by simp [start]⟩

theorem Graph.holds_initial (kept : Namespace.Kept manner each) : Graph.initial.Holds each where
  default := List.mem_singleton_self _
  names := List.nodup_singleton _
  spaces := by
    have isSpace := (kept.fit.read ⟨Name.defaultSpace, "a"⟩ (by decide) (by decide)).1
    exact List.forall_mem_singleton.mpr (kept.empty (Or.inl isSpace))

/-- A namespace can be added under a new name. -/
theorem Graph.Holds.addSpace {graph : Graph} (holds : graph.Holds each) {name : String}
    (has : each (Namespace.empty name)) (fresh : graph.space? name = none) : (graph.addSpace name).Holds each where
  default := by
    rw [Graph.addSpace, List.map_append]
    exact List.mem_append_left _ holds.default
  names := nodup_map_concat holds.names fresh
  spaces := List.forall_mem_append.mpr ⟨holds.spaces, List.forall_mem_singleton.mpr has⟩

/-- A namespace can be changed if it keeps the property and its name. -/
theorem Graph.Holds.modifySpace {graph : Graph} (holds : graph.Holds each) {name : String}
    {change : Namespace → Namespace} (same : ∀ space, (change space).name = space.name)
    (changed : ∀ space, graph.space? name = some space → each space → each (change space)) :
    (graph.modifySpace name change).Holds each where
  default := by
    rw [Graph.modifySpace, map_replaceFirst same]
    exact holds.default
  names := by
    rw [Graph.modifySpace, map_replaceFirst same]
    exact holds.names
  spaces space spaceMem := by
    rcases mem_replaceFirst spaceMem with before | ⟨found, there, rfl⟩
    · exact holds.spaces space before
    · exact changed found there (holds.spaces found (List.mem_of_find?_eq_some there))

namespace World.Holds

variable {world : World} (holds : world.Holds manner each)
include holds

theorem withLog (log : List LogRecord) : (world.withLog log).Holds manner each := ⟨holds.graphs, holds.loose⟩

/-- A builder can be changed if its graph keeps the property. -/
theorem modifyBuilder {number : Nat} {change : Builder → Builder}
    (changed : ∀ builder, world.builders[number]? = some builder → builder.graph.Holds each →
      (change builder).graph.Holds each) :
    { world with builders := world.builders.modify number change : World }.Holds manner each := by
  refine ⟨fun builder builderMem => ?_, holds.loose⟩
  rcases mem_modify builderMem with before | ⟨found, there, rfl⟩
  · exact holds.graphs builder before
  · exact changed found there (holds.graphs found (List.mem_of_getElem? there))

/-- A namespace can be changed if it keeps the property and its name. -/
theorem modifySpace {ref : SpaceRef} {change : Namespace → Namespace}
    (same : ∀ space, (change space).name = space.name)
    (changed : ∀ space, world.space? ref = some space → each space → each (change space)) :
    (world.modifySpace ref change).Holds manner each := by
  unfold World.modifySpace
  unfold World.space? at changed
  cases owner : ref.owner with
  | builder number =>
      rw [owner] at changed
      refine holds.modifyBuilder fun builder here graphHolds => ?_
      refine graphHolds.modifySpace same fun space found => changed space ?_
      dsimp only
      rw [here]
      exact found
  | nobody number =>
      rw [owner] at changed
      refine ⟨holds.graphs, fun space spaceMem => ?_⟩
      rcases mem_modify spaceMem with before | ⟨found, there, rfl⟩
      · exact holds.loose space before
      · have both := holds.loose found (List.mem_of_getElem? there)
        exact ⟨by rw [same]; exact both.1, changed found there both.2⟩

/-- A namespace that is found has the property. -/
theorem each_of_space? {ref : SpaceRef} {space : Namespace} (found : world.space? ref = some space) : each space := by
  unfold World.space? at found
  cases owner : ref.owner with
  | builder number =>
      rw [owner] at found
      rcases Option.bind_eq_some_iff.mp found with ⟨builder, isBuilder, inGraph⟩
      exact (holds.graphs builder (List.mem_of_getElem? isBuilder)).spaces space (List.mem_of_find?_eq_some inGraph)
  | nobody number =>
      rw [owner] at found
      exact (holds.loose space (List.mem_of_getElem? found)).2

/-- The address of a schema that is found can be used. -/
theorem address (kept : Namespace.Kept manner each) {ref : SchemaRef} {schema : Schema}
    (found : world.schema? ref = some schema) : manner.address ref.address := by
  rcases Option.bind_eq_some_iff.mp found with ⟨space, isSpace, inSpace⟩
  have has := holds.each_of_space? isSpace
  unfold World.space? at isSpace
  cases owner : ref.space.owner with
  | builder number =>
      rw [owner] at isSpace
      rcases Option.bind_eq_some_iff.mp isSpace with ⟨builder, _, inGraph⟩
      have sameName : space.name = ref.space.name := by simpa using List.find?_some inGraph
      rw [SchemaRef.address, ← sameName]
      exact kept.address has inSpace
  | nobody number =>
      rw [owner] at isSpace
      exact kept.stray (holds.loose space (List.mem_of_getElem? isSpace)).1 _

end World.Holds

namespace Run

theorem holds_ofJob {α : Type} (job : Job α) : Keeps (World.Holds manner each) (ofJob job) := by
  intro world holds
  rw [perform_ofJob]
  exact ⟨holds.graphs, holds.loose⟩

theorem holds_modifySpace {ref : SpaceRef} {change : Namespace → Namespace}
    (same : ∀ space, (change space).name = space.name) (changed : ∀ space, each space → each (change space)) :
    Keeps (World.Holds manner each) (modifySpace ref change) := by
  intro world holds
  rw [perform_modifySpace]
  exact holds.modifySpace same fun space _ => changed space

theorem holds_ensureSpace (kept : Namespace.Kept manner each) (number : Nat) {name : String}
    (isSpace : manner.space name) : Keeps (World.Holds manner each) (ensureSpace number name) := by
  intro world holds
  refine (still_builder number).good_bind holds fun found performed => ?_
  dsimp only
  cases fresh : found.graph.space? name with
  | some other => exact holds
  | none =>
      refine (still_ensureBuilderOpen number).good_bind holds fun _ _ => ?_
      refine good_bind ?_ fun _ => keeps_bind (holds_ofJob _) fun _ => (still_pure _).keeps
      refine holds.modifyBuilder fun builder here graphHolds => ?_
      rw [builder_of_perform performed] at here
      obtain rfl := Option.some.inj here
      exact graphHolds.addSpace (kept.empty (Or.inl isSpace)) fresh

/-- Something can be registered if the namespace keeps the property with it. -/
theorem holds_register (ref : SpaceRef) (entry : Registration)
    (changed : ∀ space, entry.taken space = false → each space → each (entry.change space)) :
    Keeps (World.Holds manner each) (register ref entry) :=
  keeps_register (fun _ log holds => holds.withLog log) fun _ space holds found free =>
    holds.modifySpace entry.name_change fun other here has => by
      rw [found] at here
      obtain rfl := Option.some.inj here
      exact changed space free has

theorem holds_addSchema (kept : Namespace.Kept manner each) (ref : SpaceRef) {path : String} {flag : Data}
    (isPath : manner.path path) (isFlag : manner.flag flag) :
    Keeps (World.Holds manner each) (addSchema ref (Schema.empty path flag false)) := by
  rw [addSchema_eq]
  refine keeps_bind (holds_register ref _ fun space free has => ?_) fun _ => (still_pure _).keeps
  exact kept.addSchema has free isPath isFlag

/-- A schema and its collection are registered together, or neither is registered. -/
theorem holds_addKeyedSchema (kept : Namespace.Kept manner each) (ref : SpaceRef) {path : String}
    (isPath : manner.path path) : Keeps (World.Holds manner each) (addKeyedSchema ref path) := by
  intro world holds
  unfold addKeyedSchema
  rw [addSchema_eq, bind_assoc]
  have first := (Registration.ofSchema (Schema.empty path (.bool false) true)).name_change
  rcases register_cases ref (.ofSchema (Schema.empty path (.bool false) true)) world with
    ⟨error, failed⟩ | ⟨space, log, isOpen, found, free, done⟩
  · rw [perform_bind_of_error failed]
    exact holds
  · rw [perform_bind_of_ok done, pure_bind, addCollection_eq]
    have there := space?_registered (.ofSchema (Schema.empty path (.bool false) true)) found log
    have stillOpen := isOpen_registered (.ofSchema (Schema.empty path (.bool false) true)) isOpen log
    have onlyHere {change : Namespace → Namespace} (changed : each space → each (change space)) (other : Namespace)
        (here : world.space? ref = some other) (has : each other) : each (change other) := by
      rw [found] at here
      obtain rfl := Option.some.inj here
      exact changed has
    cases paired : space.isTaken .collection path with
    | true =>
        have isTaken : (Registration.ofCollection ⟨path, []⟩).taken
            (space.addSchema (Schema.empty path (.bool false) true)) = true := paired
        rw [perform_bind_of_error (perform_register_of_taken stillOpen there isTaken)]
        exact (holds.modifySpace first (onlyHere fun has => kept.addUnpaired has free paired isPath)).withLog log
    | false =>
        have isFree : (Registration.ofCollection ⟨path, []⟩).taken
            (space.addSchema (Schema.empty path (.bool false) true)) = false := paired
        rcases perform_register_of_free stillOpen there isFree with ⟨last, registered⟩
        rw [perform_bind_of_ok registered, World.modifySpace_withLog, World.modifySpace_modifySpace _ _ first]
        have both (other : Namespace) : ((Registration.ofCollection ⟨path, []⟩).change
            ((Registration.ofSchema (Schema.empty path (.bool false) true)).change other)).name = other.name := rfl
        exact ((holds.modifySpace both (onlyHere fun has =>
          kept.addKeyed has free paired isPath)).withLog log).withLog last

theorem holds_addDispatch (kept : Namespace.Kept manner each) (ref : SpaceRef) (path : String) {requestType : String}
    (request : manner.address requestType) :
    Keeps (World.Holds manner each) (addDispatch ref ⟨path, requestType⟩) :=
  holds_register ref (.ofDispatch ⟨path, requestType⟩) fun _ free has =>
    kept.addDispatch has free request

theorem holds_declareNested (kept : Namespace.Kept manner each) (ref : SchemaRef) {name : String}
    (isNested : manner.nested name) : Keeps (World.Holds manner each) (declareNested ref (.text name)) := by
  intro world holds
  refine (still_checkFieldName ref _).good_bind holds fun _ checked => ?_
  rcases exists_of_checkFieldName checked with ⟨schema, there, _⟩
  rcases Option.bind_eq_some_iff.mp there with ⟨space, isSpace, inSpace⟩
  dsimp only
  rw [addSchema_eq]
  refine good_bind ?_ fun _ => (still_pure _).keeps
  rcases register_cases ref.space (.ofSchema (Schema.empty (ref.path ++ "/" ++ name) (.bool false) false)) world with
    ⟨error, failed⟩ | ⟨other, log, _, found, free, done⟩
  · rw [failed]
    exact holds
  · rw [done]
    refine (holds.modifySpace (Registration.name_change _) fun last here has => ?_).withLog log
    rw [isSpace] at here found
    obtain rfl := Option.some.inj here
    obtain rfl := Option.some.inj found
    exact kept.addNested has inSpace free isNested

theorem holds_addField (kept : Namespace.Kept manner each) (ref : SchemaRef) {name : Data} {type : String}
    (isName : manner.name name) (isType : FieldTag.isTag type = true ∨ manner.address type) :
    Keeps (World.Holds manner each) (addField ref name type) := by
  intro world holds
  refine (still_checkFieldName ref _).good_bind holds fun _ checked => ?_
  rcases exists_of_checkFieldName checked with ⟨schema, there, fresh⟩
  rcases Option.bind_eq_some_iff.mp there with ⟨space, isSpace, inSpace⟩
  refine (still_schema ref).good_bind holds fun _ _ => ?_
  refine good_bind ?_ fun _ => (still_pure _).keeps
  rw [modifySchema, perform_modifySpace]
  refine holds.modifySpace (fun _ => rfl) fun other here has => ?_
  rw [isSpace] at here
  obtain rfl := Option.some.inj here
  exact kept.addField has inSpace fresh isName isType

theorem holds_setKey (kept : Namespace.Kept manner each) (ref : SchemaRef) {names : List Data}
    (areNames : ∀ name ∈ names, manner.name name) : Keeps (World.Holds manner each) (setKey ref names) := by
  refine keeps_bind (still_schema ref).keeps fun schema => ?_
  cases schema.keyed with
  | false => exact (still_throw _).keeps
  | true =>
      exact keeps_bind (still_ensureOpen _).keeps fun _ =>
        holds_modifySpace (fun _ => rfl) fun _ has => kept.setKey ref.path has areNames

theorem holds_addBuilder {builder : Builder} (graphHolds : builder.graph.Holds each) :
    Keeps (World.Holds manner each) (addBuilder builder) := by
  refine keeps_bind still_get.keeps fun _ => keeps_bind (keeps_modify fun world holds => ?_) fun _ =>
    (still_pure _).keeps
  exact ⟨List.forall_mem_append.mpr ⟨holds.graphs, List.forall_mem_singleton.mpr graphHolds⟩, holds.loose⟩

theorem holds_finalize (number : Nat) : Keeps (World.Holds manner each) (finalize number) := by
  intro world holds
  cases found : world.builders[number]? with
  | none => rwa [perform_finalize_of_none found]
  | some builder =>
      cases frozen : builder.frozen with
      | true => rwa [perform_finalize_of_frozen found frozen]
      | false =>
          rcases perform_finalize_of_open found frozen with ⟨log, finalized⟩
          rw [finalized]
          have later : (world.freeze number).Holds manner each := holds.modifyBuilder fun _ _ graphHolds => graphHolds
          exact ⟨later.graphs, later.loose⟩

end Run

/-- A property of namespaces that declarations keep is one of all namespaces at all times. -/
theorem Namespace.Kept.kept (kept : Namespace.Kept manner each) : World.Kept manner (World.Holds manner each) where
  fit := kept.fit
  found holds found := holds.address kept found
  reads _ := Run.holds_ofJob _
  writes job _ := Run.holds_ofJob job
  waiting _ _ _ holds := ⟨holds.graphs, holds.loose⟩
  seen _ _ holds := ⟨holds.graphs, holds.loose⟩
  readings _ _ holds := ⟨holds.graphs, holds.loose⟩
  addLoose isLoose := keeps_modify fun _ holds => ⟨holds.graphs,
    List.forall_mem_append.mpr ⟨holds.loose, List.forall_mem_singleton.mpr ⟨isLoose, kept.empty (Or.inr isLoose)⟩⟩⟩
  addBuilder _ _ _ := Run.holds_addBuilder (Graph.holds_initial kept)
  ensureSpace number _ isSpace := Run.holds_ensureSpace kept number isSpace
  addSchema ref _ _ isPath isFlag := Run.holds_addSchema kept ref isPath isFlag
  addKeyedSchema ref _ isPath := Run.holds_addKeyedSchema kept ref isPath
  declareNested ref _ isNested := Run.holds_declareNested kept ref isNested
  addDispatch ref path _ request := Run.holds_addDispatch kept ref path request
  addField ref _ _ isName isType := Run.holds_addField kept ref isName isType
  relax field := Run.holds_modifySpace (fun _ => rfl) fun _ has => kept.relax field.schema.path field.position has
  setKey ref _ areNames := Run.holds_setKey kept ref areNames
  setCompact ref _ isFlag := Run.holds_modifySpace (fun _ => rfl) fun _ has => kept.setCompact ref.path has isFlag
  finalize := Run.holds_finalize

/-! Paths without empty segments: the path of a schema is read from a name, or it is the path of another schema with the
name of a field below it. -/

namespace Namespace

theorem IsWhole.addSchema {space : Namespace} (whole : space.IsWhole) {schema : Schema}
    (isWhole : Name.IsWhole schema.path) : (space.addSchema schema).IsWhole :=
  List.forall_mem_append.mpr ⟨whole, List.forall_mem_singleton.mpr isWhole⟩

/-- A schema may be changed if its path stays. -/
theorem IsWhole.modifySchema {space : Namespace} (whole : space.IsWhole) {path : String} {change : Schema → Schema}
    (same : ∀ schema, (change schema).path = schema.path) : (space.modifySchema path change).IsWhole := by
  intro schema schemaMem
  rcases mem_replaceFirst schemaMem with before | ⟨found, there, rfl⟩
  · exact whole schema before
  · rw [same]
    exact whole found (List.mem_of_find?_eq_some there)

/-- A schema that is found has no empty segment in its path. -/
theorem IsWhole.path {space : Namespace} (whole : space.IsWhole) {path : String} {schema : Schema}
    (found : space.schema? path = some schema) : Name.IsWhole path := by
  have samePath : schema.path = path := by simpa using List.find?_some found
  exact samePath ▸ whole schema (List.mem_of_find?_eq_some found)

/-- Declarations add no path with an empty segment, if they are given none. -/
theorem closed_isWhole {manner : Manner} (paths : ∀ path, manner.path path → Name.IsWhole path)
    (nested : ∀ name, manner.nested name → Name.IsWhole name) : Namespace.Closed manner IsWhole where
  empty _ := List.forall_mem_nil _
  addSchema whole _ isPath _ := whole.addSchema (paths _ isPath)
  addNested whole found _ isNested := whole.addSchema ((whole.path found).below (nested _ isNested))
  addKeyed whole _ _ isPath := whole.addSchema (paths _ isPath)
  addUnpaired whole _ _ isPath := whole.addSchema (paths _ isPath)
  addDispatch whole _ _ := whole
  addField whole _ _ _ _ := whole.modifySchema fun _ => rfl
  relax _ _ whole := whole.modifySchema fun _ => rfl
  setKey _ _ whole _ := whole
  setCompact _ _ whole _ := whole.modifySchema fun _ => rfl

/-- Plain declarations keep the paths of schemas without empty segments, if the names of nested schemas have none. -/
theorem kept_isWhole : Namespace.Kept (.plain Name.IsWhole) IsWhole where
  toClosed := closed_isWhole (fun _ isPath => isPath) fun _ isNested => isNested
  fit := Manner.isFit_plain _
  stray _ := Name.startsFull_format
  address _ _ := Name.startsFull_format _

end Namespace

end SpecGraph
