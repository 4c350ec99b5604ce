import SpecGraph.Proofs.Session.Draft
import SpecGraph.Proofs.Session.Misnamed

/-!
# Bodies that fail

A body can fail at any depth of the bodies in it. Each schema was registered before its body was built, and a field is
appended only after its body was built. So the schemas of all bodies that were entered stay, each with the fields that
it had got, in the order in which they were entered and with what was nested in them before; but the fields whose bodies
were entered are not appended, and a dispatch is not registered. The error is that of the action that failed.
-/

namespace SpecGraph

/-- A body in which some actions succeed until one fails, in the body itself or in the body of a field. -/
inductive Unfinished where
  /-- The body fails with an action. -/
  | stop (done : List Action) (last : Action) (rest : List Action)
  /-- The body fails within the body of a field. -/
  | inside (done : List Action) (name : String) (optional : Bool) (inner : Unfinished) (rest : List Action)

namespace Unfinished

/-- The actions of the body. -/
def body : Unfinished → List Action
  | .stop done last rest => done ++ last :: rest
  | .inside done name optional inner rest => done ++ .inline (.text name) inner.body optional :: rest

/-- The actions of the body itself that succeed. -/
def done : Unfinished → List Action
  | .stop done _ _ => done
  | .inside done _ _ _ _ => done

/-- The paths of the schemas whose bodies were entered, from the outside in. -/
def paths (path : String) : Unfinished → List String
  | .stop .. => [path]
  | .inside _ name _ inner _ => path :: inner.paths (path ++ "/" ++ name)

/-- The actions that succeed act on their own schema alone. -/
def IsOwn : Unfinished → Prop
  | .stop done _ _ => Action.areOwn done = true
  | .inside done _ _ inner _ => Action.areOwn done = true ∧ inner.IsOwn

/-- In a world the actions that come first succeed, and the last one fails and leaves the world as it is. -/
def Fails (ref : SchemaRef) (around : List SchemaRef) (error : Error) : Unfinished → World → Prop
  | .stop done last _, world => ∃ after,
      Effect.perform (Session.actAll ref around done) world = (.ok (), after) ∧
        Effect.perform (Session.act ref around last) after = (.error error, after)
  | .inside done name _ inner _, world => ∃ after nested entered,
      Effect.perform (Session.actAll ref around done) world = (.ok (), after) ∧
        Effect.perform (Run.declareNested ref (.text name)) after = (.ok nested, entered) ∧
          inner.Fails nested (ref :: around) error entered

/-- The drafts of the bodies that were entered, from the outside in. -/
def drafts (space : String) : Draft → Unfinished → List Draft
  | draft, .stop done _ _ => [draft.actAll space done]
  | draft, .inside done name _ inner _ =>
      let after := draft.actAll space done
      after :: inner.drafts space (after.startField name)

/-- Each body that was entered has a draft. -/
theorem paths_drafts (space : String) (draft : Draft) (unfinished : Unfinished) :
    (unfinished.drafts space draft).map (fun draft => draft.schema.path) = unfinished.paths draft.schema.path := by
  induction unfinished generalizing draft with
  | stop done last rest => simp [drafts, paths, (draft.follows_actAll space done).path]
  | inside done name optional inner rest ih =>
      simp [drafts, paths, ih, Draft.startField, Draft.start, Schema.empty, (draft.follows_actAll space done).path]

end Unfinished

theorem Namespace.foldl_hold (space : Namespace) (drafts : List Draft) :
    drafts.foldl Namespace.hold space =
      { space with
        schemas := space.schemas ++ drafts.flatMap Draft.schemas
        collections := space.collections ++ drafts.flatMap Draft.collections } := by
  induction drafts generalizing space with
  | nil => simp
  | cons draft rest ih => simp [ih, hold]

/-- A declaration that takes a body. -/
inductive Heading where
  /-- A schema with a flag. -/
  | schema (compact : Data)
  /-- A collection. -/
  | collection
  /-- A dispatch with a schema of its own. -/
  | dispatch

namespace Heading

/-- The step that makes the declaration with a body. -/
def step (index : BuilderIndex) (name : Data) (body : List Action) : Heading → Step
  | .schema compact => .schema index name compact body
  | .collection => .collection index name body
  | .dispatch => .dispatch index name body

/-- What is registered in a namespace before the body is built. -/
def register (space : SpaceRef) (path : String) : Heading → Run SchemaRef
  | .schema compact => Run.addSchema space (Schema.empty path compact false)
  | .collection => Run.addKeyedSchema space path
  | .dispatch => Run.addSchema space (Schema.empty path (.bool false) false)

/-- What is done before the body is built. -/
def enter (number : Nat) (name : Data) (heading : Heading) : Run SchemaRef := do
  let (space, path) ← Run.openDispatch number name
  heading.register space path

/-- The draft that the body starts with. -/
def draft (path : String) : Heading → Draft
  | .schema compact => .start path compact false
  | .collection => .start path (.bool false) true
  | .dispatch => .start path (.bool false) false

end Heading

namespace Session

open Effect Run

variable {number : Nat} {builder : Builder} {world : World}

/-- A declaration that is entered is held by its namespace. -/
theorem yields_register (heading : Heading) (space : Namespace) (path : String) :
    Yields number (heading.register ⟨.builder number, space.name⟩ path) space
      (fun _ => space.Spares (heading.draft path)) (space.hold (heading.draft path)) := by
  have plain (compact : Data) : Yields number
      (addSchema ⟨.builder number, space.name⟩ (Schema.empty path compact false)) space
      (fun _ => space.Spares (.start path compact false)) (space.hold (.start path compact false)) := by
    have held : space.addSchema (Schema.empty path compact false) = space.hold (.start path compact false) := by
      simp [Namespace.addSchema, Namespace.hold, Draft.schemas, Draft.collections, Draft.start, Schema.empty]
    rw [← held]
    refine (yields_addSchema (Schema.empty path compact false)).weaken fun _ told => ⟨told.2, ?_⟩
    intro isKeyed
    cases isKeyed
  cases heading with
  | schema compact => exact plain compact
  | dispatch => exact plain (.bool false)
  | collection =>
      refine (yields_addSchema (Schema.empty path (.bool false) true)).bind rfl fun ref told => ?_
      refine (yields_addCollection ⟨path, []⟩).bind rfl fun _ fresh => ?_
      exact (yields_pure ref).weaken fun _ _ => ⟨told.2, fun _ => fresh⟩

/-- A declaration that is entered starts with the draft of its heading, in the namespace of its name. -/
theorem openAt_of_enter {heading : Heading} {name : Data} {spaceName path : String} {ref : SchemaRef} {entered : World}
    (isBuilder : world.builders[number]? = some builder) (isOpen : builder.frozen = false)
    (isName : Reference.parse name = .ok ⟨spaceName, path⟩)
    (begun : Effect.perform (heading.enter number name) world = (.ok ref, entered)) :
    ∃ space log, space.name = spaceName ∧ space.Spares (heading.draft path) ∧
      (builder.graph.ensure spaceName).space? spaceName = some space ∧
      let graph := (builder.graph.ensure spaceName).setSpace (space.hold (heading.draft path))
      entered = (world.withGraph number graph).withLog log ∧
        entered.OpenAt number { builder with graph } (space.hold (heading.draft path)) := by
  have opens : Turns number (openDispatch number name) builder.graph _ _ :=
    Turns.bind turns_ensureBuilderOpen (turns_resolve isName)
  rcases opens world builder isBuilder isOpen rfl with ⟨log, opened⟩
  obtain ⟨space, isThere⟩ : ∃ space, (builder.graph.ensure spaceName).space? spaceName = some space :=
    ⟨_, by rw [Graph.space?_ensure, if_pos rfl]⟩
  obtain rfl : space.name = spaceName := Graph.name_of_space? isThere
  let ensured : Builder := { builder with graph := builder.graph.ensure space.name }
  have openAt : ((world.withGraph number ensured.graph).withLog log).OpenAt number ensured space :=
    ⟨World.getElem?_withGraph isBuilder _, isOpen, isThere⟩
  rw [Heading.enter, perform_bind_of_ok opened] at begun
  rcases (yields_register heading space path).2 _ entered ensured ref openAt begun with ⟨spares, last, rfl⟩
  refine ⟨space, last, rfl, spares, isThere, ?_, openAt.fill (Namespace.name_hold space _) last⟩
  rw [World.fill, World.withGraph_withGraph]
  rfl

/-- A declaration that is entered ends with the error of its body. -/
theorem perform_step_of_enter {index : BuilderIndex} {name : Data} {heading : Heading} {ref : SchemaRef}
    {body : List Action} {entered after : World} {error : Error}
    (isNumber : Effect.perform (numberOf index) world = (.ok number, world))
    (begun : Effect.perform (heading.enter number name) world = (.ok ref, entered))
    (failed : Effect.perform (actAll ref [] body) entered = (.error error, after)) :
    perform world (heading.step index name body) = (.error error, after) := by
  cases heading with
  | schema compact =>
      change Effect.perform (numberOf index >>= fun number => declareSchema number name compact >>= fun ref => _) world = _
      rw [perform_bind_of_ok isNumber, declareSchema_eq]
      exact (perform_bind_of_ok begun).trans (perform_bind_of_error failed)
  | collection =>
      change Effect.perform (numberOf index >>= fun number => declareCollection number name >>= fun ref => _) world = _
      rw [perform_bind_of_ok isNumber, declareCollection_eq]
      exact (perform_bind_of_ok begun).trans (perform_bind_of_error failed)
  | dispatch =>
      rcases exists_of_perform_bind begun with ⟨place, middle, opened, registered⟩
      change Effect.perform (numberOf index >>= fun number => openDispatch number name >>= fun place => _) world = _
      rw [perform_bind_of_ok isNumber, perform_bind_of_ok opened]
      exact (perform_bind_of_ok registered).trans (perform_bind_of_error failed)

theorem eq_of_toOption_fst {α : Type} {performed : Except Error α × World} {value : α}
    (told : performed.1.toOption = some value) : performed = (.ok value, performed.2) :=
  Prod.ext (eq_ok_of_toOption told) rfl

theorem actAll_append (ref : SchemaRef) (around : List SchemaRef) (first rest : List Action) :
    actAll ref around (first ++ rest) = (actAll ref around first >>= fun _ => actAll ref around rest) := by
  induction first with
  | nil => simp [actAll]
  | cons action others ih => simp [actAll, ih]

/-- A body that fails leaves the drafts of the bodies that were entered, one after the other. -/
theorem perform_actAll_of_fails {error : Error} (unfinished : Unfinished) :
    ∀ {world : World} {builder : Builder} {space : Namespace} {draft : Draft} {around : List SchemaRef},
      world.OpenAt number builder (space.hold draft) → space.Spares draft → unfinished.IsOwn →
      unfinished.Fails ⟨⟨.builder number, space.name⟩, draft.schema.path⟩ around error world →
      ∃ log, Effect.perform (actAll ⟨⟨.builder number, space.name⟩, draft.schema.path⟩ around unfinished.body) world =
        (.error error, world.fill number builder ((unfinished.drafts space.name draft).foldl Namespace.hold space) log) := by
  induction unfinished with
  | stop done last rest =>
      intro world builder space draft around openAt spares isOwn fails
      rcases fails with ⟨after, isDone, failed⟩
      rcases (yields_actAll around done isOwn spares).2 world after builder () openAt isDone with ⟨_, log, rfl⟩
      refine ⟨log, ?_⟩
      rw [Unfinished.body, actAll_append, perform_bind_of_ok isDone]
      exact perform_bind_of_error failed
  | inside done name optional inner rest ih =>
      intro world builder space draft around openAt spares isOwn fails
      rcases fails with ⟨middle, nested, entered, isDone, declared, fails⟩
      rcases (yields_actAll around done isOwn.1 spares).2 world middle builder () openAt isDone with ⟨_, log, rfl⟩
      let after := draft.actAll space.name done
      have follows : draft.Follows after := draft.follows_actAll space.name done
      have spared := spares.follows follows
      rw [← follows.path] at isDone declared fails ⊢
      have declares : Yields number (declareNested _ (.text name)) (space.hold after) _ _ :=
        yields_declareNested (Namespace.schema?_hold spared) (.text name) rfl
      have openAfter := openAt.fill (Namespace.name_hold space after) log
      rcases declares.2 _ entered _ nested openAfter declared with ⟨⟨rfl, fresh⟩, more, rfl⟩
      have held := Namespace.addSchema_hold space after name
      change (space.hold after).addSchema (Schema.empty _ _ _) = _ at held
      rw [held] at declared fails
      -- The body of the field starts in the namespace that holds the draft around it.
      have openInner := openAfter.fill (Namespace.name_hold (space.hold after) (after.startField name)) more
      rcases ih openInner ⟨fresh, nofun⟩ isOwn.2 fails with ⟨last, failed⟩
      refine ⟨last, ?_⟩
      rw [Unfinished.body, actAll_append, perform_bind_of_ok isDone, actAll]
      refine perform_bind_of_error ?_
      rw [act, perform_bind_of_ok declared]
      refine perform_bind_of_error (failed.trans ?_)
      rw [World.OpenAt.fill_fill _ _ _ (by simp [Namespace.foldl_hold]),
        World.OpenAt.fill_fill _ _ _ (by simp [Namespace.foldl_hold])]
      rfl

/-- A declaration whose body fails ends with the error of the action that failed, and leaves the drafts of the bodies
that were entered. -/
theorem failed_body_leaves {entered : World} {index : BuilderIndex} {name : Data} {spaceName path : String}
    {heading : Heading} {unfinished : Unfinished} {error : Error}
    (isNumber : Effect.perform (numberOf index) world = (.ok number, world))
    (isBuilder : world.builders[number]? = some builder) (isOpen : builder.frozen = false)
    (isName : Reference.parse name = .ok ⟨spaceName, path⟩)
    (begun : Effect.perform (heading.enter number name) world = (.ok ⟨⟨.builder number, spaceName⟩, path⟩, entered))
    (isOwn : unfinished.IsOwn) (fails : unfinished.Fails ⟨⟨.builder number, spaceName⟩, path⟩ [] error entered) :
    let drafts := unfinished.drafts spaceName (heading.draft path)
    (drafts.map fun draft => draft.schema.path) = unfinished.paths path ∧
      ∃ log, perform world (heading.step index name unfinished.body) =
        (.error error, (world.withGraph number (builder.graph.put
          ⟨spaceName, drafts.flatMap Draft.schemas, drafts.flatMap Draft.collections, [], []⟩)).withLog log) := by
  intro drafts
  have isPath : (heading.draft path).schema.path = path := by cases heading <;> rfl
  constructor
  · rw [Unfinished.paths_drafts, isPath]
  rcases openAt_of_enter isBuilder isOpen isName begun with ⟨space, log, rfl, spares, isThere, rfl, openAt⟩
  let piece : Namespace := ⟨space.name, drafts.flatMap Draft.schemas, drafts.flatMap Draft.collections, [], []⟩
  have put : drafts.foldl Namespace.hold space = space.put piece := by
    simp [Namespace.foldl_hold, Namespace.put, piece]
  have same : builder.graph.put piece = (builder.graph.ensure space.name).setSpace (space.put piece) :=
    Graph.put_eq_setSpace isThere
  have stops (fails : unfinished.Fails ⟨⟨.builder number, space.name⟩, (heading.draft path).schema.path⟩ [] error _) :=
    perform_actAll_of_fails unfinished openAt spares isOwn fails
  rw [isPath] at stops
  rcases stops fails with ⟨last, failed⟩
  refine ⟨last, (perform_step_of_enter isNumber begun failed).trans ?_⟩
  have named : (drafts.foldl Namespace.hold space).name = (space.hold (heading.draft path)).name := by simp [put]
  rw [World.fill, World.withGraph_withGraph, same, ← put]
  exact congrArg (fun graph => (_, (world.withGraph number graph).withLog last)) (Graph.setSpace_setSpace named _)

/-- A body that fails in the body of its second field that has one. -/
def halfway : Unfinished :=
  .inside
    [.field (.text "id") (.text "uint") false, .key (.list [.text "id"]),
      .inline (.text "name") [.field (.text "first") (.text "string") false] true]
    "home" false
    (.stop [.field (.text "city") (.text "string") true] (.giveUp "no") [.field (.text "street") (.text "string") true])
    [.compact (.bool true)]

theorem failed_body_leaves_halfway :
    let world := after (World.start Files.empty) starting
    ∃ builder log, world.builders[0]? = some builder ∧
      perform world (.collection (.int 0) (.text "@hello/world") halfway.body) =
        (.error (.callback "no"), (world.withGraph 0 (builder.graph.put
          ⟨"hello",
            [⟨"world", .bool false,
                [⟨.text "id", "uint", true⟩, ⟨.text "name", "@hello/world/name", false⟩], true⟩,
              ⟨"world/name", .bool false, [⟨.text "first", "string", true⟩], false⟩,
              ⟨"world/home", .bool false, [⟨.text "city", "string", false⟩], false⟩],
            [⟨"world", [.text "id"]⟩], [], []⟩)).withLog log) := by
  intro world
  have told : world.builders[0]?.map Builder.frozen = some false := by decide +kernel
  rcases Option.map_eq_some_iff.mp told with ⟨builder, isBuilder, isOpen⟩
  have isNumber : Effect.perform (numberOf (.int 0)) world = (.ok 0, world) := perform_numberOf (by decide +kernel)
  have isName : Reference.parse (.text "@hello/world") = .ok ⟨"hello", "world"⟩ := by rfl
  let ref : SchemaRef := ⟨⟨.builder 0, "hello"⟩, "world"⟩
  let nested : SchemaRef := ⟨⟨.builder 0, "hello"⟩, "world/home"⟩
  let entered := Effect.perform (Heading.enter 0 (.text "@hello/world") .collection) world
  have isEntered : entered.1.toOption = some ref := by decide +kernel
  let done := Effect.perform (actAll ref [] halfway.done) entered.2
  have isDone : done.1.toOption = some () := by decide +kernel
  let declared := Effect.perform (declareNested ref (.text "home")) done.2
  have isDeclared : declared.1.toOption = some nested := by decide +kernel
  let last := Effect.perform (actAll nested [ref] [.field (.text "city") (.text "string") true]) declared.2
  have isLast : last.1.toOption = some () := by decide +kernel
  have fails : halfway.Fails ref [] (.callback "no") entered.2 :=
    ⟨done.2, nested, declared.2, eq_of_toOption_fst isDone, eq_of_toOption_fst isDeclared, last.2,
      eq_of_toOption_fst isLast, perform_throw _ _⟩
  have drafts : halfway.drafts "hello" (Heading.collection.draft "world") =
      [⟨⟨"world", .bool false, [⟨.text "id", "uint", true⟩, ⟨.text "name", "@hello/world/name", false⟩], true⟩,
          [.text "id"], [⟨"world/name", .bool false, [⟨.text "first", "string", true⟩], false⟩]⟩,
        ⟨⟨"world/home", .bool false, [⟨.text "city", "string", false⟩], false⟩, [], []⟩] := by
    cbv
  have isOwn : halfway.IsOwn := ⟨rfl, rfl⟩
  have failed := failed_body_leaves isNumber isBuilder isOpen isName (eq_of_toOption_fst isEntered) isOwn fails
  rw [drafts] at failed
  rcases failed.2 with ⟨log, failed⟩
  exact ⟨builder, log, isBuilder, failed⟩

end Session

end SpecGraph
