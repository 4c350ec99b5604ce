import SpecGraph.Proofs.Session.Repeated

/-!
# Names that are none

A declaration whose own name is none is refused before anything is made, and so is a field whose reference is none. A
dispatch looks up its namespace before it reads the name of its schema: if that is none, the dispatch is refused, but a
namespace that was not there yet has been made.
-/

namespace SpecGraph

open Effect

/-- A call on the builder of an index gives a value that cannot be read as a name: for its own name, or for the schema
of a dispatch. -/
inductive Step.IsMisnamed (world : World) (index : BuilderIndex) (error : Error) : Step → Prop where
  | resolve {name : Data} (malformed : Reference.parse name = .error error) :
      IsMisnamed world index error (.command (.resolve index name))
  | schema {name compact : Data} {body : List Action} (malformed : Reference.parse name = .error error) :
      IsMisnamed world index error (.schema index name compact body)
  | collection {name : Data} {body : List Action} (malformed : Reference.parse name = .error error) :
      IsMisnamed world index error (.collection index name body)
  | dispatch {name : Data} {body : List Action} (malformed : Reference.parse name = .error error) :
      IsMisnamed world index error (.dispatch index name body)
  | dispatchTo {name target : Data} (malformed : Reference.parse name = .error error) :
      IsMisnamed world index error (.command (.dispatchTo index name target))
  | dispatchOf {name : Data} {schema : SchemaAddress} {ref : SchemaRef}
      (malformed : Reference.parse name = .error error)
      (found : perform (Run.findSchema schema) world = (.ok ref, world)) :
      IsMisnamed world index error (.command (.dispatchOf index name schema))
  | target {name : Data} {own : Name} {target : String} (isName : Reference.parse name = .ok own)
      (malformed : Reference.parse (.text target) = .error error) :
      IsMisnamed world index error (.command (.dispatchTo index name (.text target)))

/-- The namespace of a dispatch by reference, if it is not there yet. -/
def Step.opens (graph : Graph) : Step → Option String
  | .command (.dispatchTo _ name _) =>
      match Reference.parse name with
      | .ok own => if (graph.space? own.space).isNone then some own.space else none
      | .error _ => none
  | _ => none

namespace Run

variable {world : World} {number : Nat} {reference : Data} {error : Error}

theorem perform_resolve_of_malformed (malformed : Reference.parse reference = .error error) (number : Nat)
    (world : World) : perform (resolve number reference) world = (.error error, world) := by
  unfold resolve
  rw [malformed]
  rfl

theorem normalize_of_malformed (malformed : Reference.parse reference = .error error) :
    Reference.normalize reference = .error error := by
  unfold Reference.normalize
  rw [malformed]
  rfl

/-- In an open builder a name that is none is refused before its namespace is looked up. -/
theorem perform_openDispatch_of_malformed {builder : Builder} (isBuilder : world.builders[number]? = some builder)
    (isOpen : builder.frozen = false) (malformed : Reference.parse reference = .error error) :
    perform (openDispatch number reference) world = (.error error, world) := by
  unfold openDispatch
  rw [perform_bind_of_ok (perform_ensureBuilderOpen isBuilder isOpen)]
  exact perform_resolve_of_malformed malformed number world

/-- In a namespace that is there a dispatch is refused without a change, if the name of its schema is none. -/
theorem perform_declareDispatch_of_malformed {index : BuilderIndex} {own : Name} {space : Namespace} {target : String}
    (denotes : world.Denotes index reference number own space)
    (malformed : Reference.parse (.text target) = .error error) :
    perform (declareDispatch number reference (.text target)) world = (.error error, world) := by
  unfold declareDispatch
  rw [perform_bind_of_ok (perform_openDispatch denotes)]
  dsimp only
  rw [normalize_of_malformed malformed]
  rfl

/-- The name of the schema of a dispatch is read once there is a namespace for the dispatch. -/
theorem turns_declareDispatch_of_malformed {graph : Graph} {own : Name} {target : String}
    (isName : Reference.parse reference = .ok own) (malformed : Reference.parse (.text target) = .error error) :
    Turns number (declareDispatch number reference (.text target)) graph (.error error) (graph.ensure own.space) := by
  have opened : Turns number (openDispatch number reference) graph (.ok (⟨.builder number, own.space⟩, own.path))
      (graph.ensure own.space) := Turns.bind turns_ensureBuilderOpen (turns_resolve isName)
  refine Turns.bind opened ?_
  dsimp only
  rw [normalize_of_malformed malformed]
  exact turns_of_look fun world _ _ _ _ => perform_throw error world

end Run

namespace Session

open Run

variable {world : World} {index : BuilderIndex} {number : Nat} {builder : Builder}

section Calls

variable (isNumber : Effect.perform (numberOf index) world = (.ok number, world))
  (isBuilder : world.builders[number]? = some builder) (isOpen : builder.frozen = false)
include isNumber isBuilder isOpen

/-- A call that gives a value that is no name ends with the error of the value, and changes nothing but for the
namespace that a dispatch opens. -/
theorem misnamed_cases {step : Step} {error : Error} (misnamed : step.IsMisnamed world index error) :
    (step.opens builder.graph = none ∧ perform world step = (.error error, world)) ∨
      ∃ space log, step.opens builder.graph = some space ∧
        perform world step = (.error error, (world.withGraph number (builder.graph.addSpace space)).withLog log) := by
  have opening {name : Data} (malformed : Reference.parse name = .error error) :
      Effect.perform (openDispatch number name) world = (.error error, world) :=
    perform_openDispatch_of_malformed isBuilder isOpen malformed
  have ofDeclared {name target : Data} {later : World}
      (declared : Effect.perform (declareDispatch number name target) world = (.error error, later)) :
      perform world (.command (.dispatchTo index name target)) = (.error error, later) := by
    change Effect.perform (numberOf index >>= fun number => declareDispatch number name target >>= _) world = _
    rw [perform_bind_of_ok isNumber]
    exact perform_bind_of_error declared
  cases misnamed with
  | resolve malformed =>
      refine .inl ⟨rfl, ?_⟩
      change Effect.perform (numberOf index >>= fun number => resolve number _ >>= _) world = _
      rw [perform_bind_of_ok isNumber]
      exact perform_bind_of_error (perform_resolve_of_malformed malformed number world)
  | @schema name compact _ malformed =>
      refine .inl ⟨rfl, ?_⟩
      change Effect.perform (numberOf index >>= fun number => declareSchema number name compact >>= _) world = _
      rw [perform_bind_of_ok isNumber, declareSchema_eq, bind_assoc]
      exact perform_bind_of_error (opening malformed)
  | @collection name _ malformed =>
      refine .inl ⟨rfl, ?_⟩
      change Effect.perform (numberOf index >>= fun number => declareCollection number name >>= _) world = _
      rw [perform_bind_of_ok isNumber, declareCollection_eq, bind_assoc]
      exact perform_bind_of_error (opening malformed)
  | @dispatch name _ malformed =>
      refine .inl ⟨rfl, ?_⟩
      change Effect.perform (numberOf index >>= fun number => openDispatch number name >>= _) world = _
      rw [perform_bind_of_ok isNumber]
      exact perform_bind_of_error (opening malformed)
  | dispatchTo malformed =>
      refine .inl ⟨by simp [Step.opens, malformed], ?_⟩
      exact ofDeclared (perform_bind_of_error (opening malformed))
  | @dispatchOf name schema ref malformed found =>
      refine .inl ⟨rfl, ?_⟩
      change Effect.perform (numberOf index >>= fun number => findSchema schema >>= fun _ =>
        openDispatch number name >>= _) world = _
      rw [perform_bind_of_ok isNumber, perform_bind_of_ok found]
      exact perform_bind_of_error (opening malformed)
  | @target name own text isName malformed =>
      cases inGraph : builder.graph.space? own.space with
      | some space =>
          have denotes : world.Denotes index name number own space := {
            isNumber := isNumber
            isName := isName
            isOpen := World.isOpen_ofBuilder isBuilder isOpen _
            isThere := (World.space?_ofBuilder isBuilder _).trans inGraph }
          refine .inl ⟨by simp [Step.opens, isName, inGraph], ?_⟩
          exact ofDeclared (perform_declareDispatch_of_malformed denotes malformed)
      | none =>
          have opened : builder.graph.ensure own.space = builder.graph.addSpace own.space := by
            simp [Graph.ensure, inGraph]
          rcases turns_declareDispatch_of_malformed isName malformed world builder isBuilder isOpen rfl with
            ⟨log, refused⟩
          rw [opened] at refused
          exact .inr ⟨own.space, log, by simp [Step.opens, isName, inGraph], ofDeclared refused⟩

/-- At an open builder a call that gives a value that is no name, for the name of what it declares or for the schema of
a dispatch, ends with the error of the value. The world stays as it is, unless the call is a dispatch that is the first
to use its namespace: then the namespace is made, without declarations, and nothing else changes. A field whose
reference is no name is refused without a change. -/
theorem misnamed_refused :
    (∀ (step : Step) (error : Error), step.IsMisnamed world index error →
      (step.opens builder.graph = none → perform world step = (.error error, world)) ∧
      ∀ space, step.opens builder.graph = some space →
        ∃ log, perform world step =
          (.error error, (world.withGraph number (builder.graph.addSpace space)).withLog log)) ∧
    ∀ (ref : SchemaRef) (around : List SchemaRef) (name : Data) (target : String) (optional : Bool) (error : Error),
      Reference.parse (.text target) = .error error → Effect.perform (checkFieldName ref name) world = (.ok (), world) →
        Effect.perform (act ref around (.reference name (.text target) optional)) world = (.error error, world) := by
  constructor
  · intro step error misnamed
    rcases misnamed_cases isNumber isBuilder isOpen misnamed with ⟨isNone, refused⟩ | ⟨space, log, isSome, refused⟩
    · refine ⟨fun _ => refused, fun space isSome => ?_⟩
      cases isNone.symm.trans isSome
    · refine ⟨fun isNone => ?_, fun other isOther => ?_⟩
      · cases isNone.symm.trans isSome
      · cases isOther.symm.trans isSome
        exact ⟨log, refused⟩
  · intro ref around name target optional error malformed checked
    refine perform_bind_of_error ?_
    unfold addReference
    rw [perform_bind_of_ok checked]
    change Effect.perform (Run.ofExcept (Reference.normalize (.text target)) >>= _) world = _
    rw [normalize_of_malformed malformed]
    rfl

end Calls

/-- A builder without declarations. -/
def starting : List Step := [.command (.create ⟨.text "spec", [], [], none⟩)]

theorem misnamed_refused_starting :
    let world := after (World.start Files.empty) starting
    ∃ builder log, world.builders[0]? = some builder ∧
      perform world (.schema (.int 0) (.text "@/x") (.bool false) []) =
        (.error (.name (.text "@/x") .emptySpace), world) ∧
      perform world (.command (.dispatchTo (.int 0) (.text "@hello/change-name") (.text "@/oops"))) =
        (.error (.name (.text "@/oops") .emptySpace),
          (world.withGraph 0 (builder.graph.addSpace "hello")).withLog log) := by
  intro world
  have told : world.builders[0]?.map (fun builder => (builder.frozen, builder.graph.spaces.map Namespace.name)) =
      some (false, [Name.defaultSpace]) := by decide +kernel
  rcases Option.map_eq_some_iff.mp told with ⟨builder, isBuilder, isTold⟩
  have isOpen : builder.frozen = false := congrArg Prod.fst isTold
  have names : builder.graph.spaces.map Namespace.name = [Name.defaultSpace] := congrArg Prod.snd isTold
  have isNumber : Effect.perform (numberOf (.int 0)) world = (.ok 0, world) := perform_numberOf (by decide +kernel)
  have refused := (misnamed_refused isNumber isBuilder isOpen).1
  have absent : builder.graph.space? "hello" = none := by
    refine List.find?_eq_none.mpr fun space spaceMem => ?_
    have nameMem : space.name ∈ [Name.defaultSpace] := names ▸ List.mem_map_of_mem spaceMem
    rw [List.mem_singleton.mp nameMem]
    decide
  have isName : Reference.parse (.text "@hello/change-name") = .ok ⟨"hello", "change-name"⟩ := by rfl
  have opens : (Step.command (.dispatchTo (.int 0) (.text "@hello/change-name") (.text "@/oops"))).opens
      builder.graph = some "hello" := by
    simp [Step.opens, isName, absent]
  rcases (refused _ _ (.target isName rfl)).2 "hello" opens with ⟨log, isRefused⟩
  exact ⟨builder, log, isBuilder, (refused _ _ (.schema rfl)).1 rfl, isRefused⟩

/-- The number of namespaces that a builder tells. -/
def spacesTold (builder : Builder) : Option Nat :=
  (builder.toData.get? "namespaces").bind fun spaces => spaces.items.toOption.map List.length

/-- A dispatch whose reference is empty makes its namespace. -/
theorem space_left_starting :
    let world := after (World.start Files.empty) starting
    let step := Step.command (.dispatchTo (.int 0) (.text "@new/x") (.text ""))
    ∃ before later, world.builders[0]? = some before ∧ before.frozen = false ∧
      (perform world step).1 = .error (.name (.text "") .empty) ∧
      (perform world step).2.builders[0]? = some later ∧ later.toData ≠ before.toData := by
  intro world step
  have toldBefore : world.builders[0]?.map (fun builder => (builder.frozen, spacesTold builder)) =
      some (false, some 1) := by decide +kernel
  have toldLater : (perform world step).2.builders[0]?.map spacesTold = some (some 2) := by decide +kernel
  rcases Option.map_eq_some_iff.mp toldBefore with ⟨before, isBefore, isOne⟩
  rcases Option.map_eq_some_iff.mp toldLater with ⟨later, isLater, isTwo⟩
  refine ⟨before, later, isBefore, congrArg Prod.fst isOne, by cbv, isLater, fun same => ?_⟩
  have countOne : spacesTold before = some 1 := congrArg Prod.snd isOne
  unfold spacesTold at isTwo countOne
  rw [same, countOne] at isTwo
  cases isTwo

end Session

end SpecGraph
