import SpecGraph.Proofs.World.Kept

/-!
# Declaring keeps the world plain

A declaration looks whether it can be made and then changes one namespace, by a schema, a collection or a
dispatch of a new path, a field of a new name, a flag or a key. So the namespace stays plain. Finalizing a
builder adds calls with the graph that the builder has at the time. So all operations that are given plain
values keep the world plain.
-/

namespace SpecGraph

namespace Run

open Effect

section Declarations

variable {files : Files} {made : List StageCall}

theorem exists_of_checkFieldName {ref : SchemaRef} {name : Data} {world after : World}
    (performed : perform (checkFieldName ref name) world = (.ok (), after)) :
    ∃ schema, world.schema? ref = some schema ∧ schema.hasField name = false := by
  unfold checkFieldName at performed
  rw [perform_bind] at performed
  have still := still_ensureOpen ref.space world
  rcases looked : perform (ensureOpen ref.space) world with ⟨outcome, later⟩
  rw [looked] at performed still
  obtain rfl : later = world := still
  cases outcome with
  | error error => cases performed
  | ok =>
      dsimp only at performed
      rw [perform_bind] at performed
      rcases found : perform (Run.schema ref) later with ⟨outcome, last⟩
      rw [found] at performed
      cases outcome with
      | error error => cases performed
      | ok schema =>
          refine ⟨schema, schema?_of_perform found, ?_⟩
          dsimp only at performed
          cases has : schema.hasField name with
          | false => rfl
          | true =>
              rw [has] at performed
              cases performed

theorem keeps_ensureSpace (number : Nat) {name : String} (isSpace : Name.IsSpace name) :
    Keeps (World.IsPlain files made) (ensureSpace number name) := by
  intro world plain
  refine (still_builder number).good_bind plain fun found performed => ?_
  dsimp only
  cases fresh : found.graph.space? name with
  | some other => exact plain
  | none =>
      refine (still_ensureBuilderOpen number).good_bind plain fun _ _ => ?_
      refine good_bind ?_ fun _ => keeps_bind (keeps_record _ _ _) fun _ => (still_pure _).keeps
      refine isPlain_modify plain (fun _ _ _ _ => rfl) fun builder here isPlain => ?_
      rw [builder_of_perform performed] at here
      obtain rfl := Option.some.inj here
      exact isPlain.addSpace isSpace fresh

/-- Something can be registered if the namespace stays plain with it. -/
theorem keeps_registerPlain {ref : SpaceRef} {entry : Registration}
    (each : ∀ space, entry.taken space = false → space.IsPlain → (entry.change space).IsPlain) :
    Keeps (World.IsPlain files made) (register ref entry) := by
  refine keeps_register (fun world log plain => ⟨plain.graphs, plain.calls, plain.files, plain.kept⟩) ?_
  intro world space plain found free
  have changed := isPlain_modifySpace plain entry.name_change fun other here otherPlain => by
    rw [found] at here
    obtain rfl := Option.some.inj here
    exact each space free otherPlain
  rwa [perform_modifySpace] at changed

/-- A schema can be registered. -/
theorem keeps_addSchema (ref : SpaceRef) {schema : Schema} (isPlain : schema.IsPlain) :
    Keeps (World.IsPlain files made) (addSchema ref schema) := by
  rw [addSchema_eq]
  refine keeps_bind (keeps_registerPlain fun space free spacePlain => ?_) fun _ => (still_pure _).keeps
  exact spacePlain.addSchema isPlain (Namespace.schema?_of_isTaken free)

/-- A collection can be registered. -/
theorem keeps_addCollection (ref : SpaceRef) {collection : Collection}
    (texts : ∀ name ∈ collection.key, ∃ text, name = .text text) :
    Keeps (World.IsPlain files made) (addCollection ref collection) := by
  rw [addCollection_eq]
  exact keeps_registerPlain fun _ free spacePlain =>
    spacePlain.addCollection texts (Namespace.collection?_of_isTaken free)

/-- A collection can be registered together with its schema. -/
theorem keeps_addKeyedSchema (ref : SpaceRef) (path : String) :
    Keeps (World.IsPlain files made) (addKeyedSchema ref path) :=
  keeps_bind (keeps_addSchema ref (Schema.isPlain_empty path false true)) fun _ =>
    keeps_bind (keeps_addCollection ref (by simp)) fun _ => (still_pure _).keeps

/-- A dispatch can be registered. -/
theorem keeps_addDispatch (ref : SpaceRef) {dispatch : Dispatch}
    (request : Name.StartsFull dispatch.requestType) :
    Keeps (World.IsPlain files made) (addDispatch ref dispatch) := by
  rw [addDispatch_eq]
  exact keeps_registerPlain fun _ free spacePlain =>
    spacePlain.addDispatch request (Namespace.dispatch?_of_isTaken free)

/-- A field can be added if its name is a text and its type is primitive or starts as full names do. -/
theorem keeps_addField (ref : SchemaRef) (name : String) {type : String}
    (isType : FieldTag.isTag type = true ∨ Name.StartsFull type) :
    Keeps (World.IsPlain files made) (addField ref (.text name) type) := by
  intro world plain
  refine (still_checkFieldName ref _).good_bind plain fun _ checked => ?_
  obtain ⟨schema, there, fresh⟩ := exists_of_checkFieldName checked
  refine (still_schema ref).good_bind plain fun _ _ => ?_
  refine good_bind ?_ fun _ => (still_pure _).keeps
  refine isPlain_modifySchema plain (fun _ => rfl) fun other here isPlain => ?_
  rw [there] at here
  obtain rfl := Option.some.inj here
  exact isPlain.append ⟨⟨name, rfl⟩, isType⟩ fresh

/-- The schema of a field can be declared. -/
theorem keeps_declareNested (ref : SchemaRef) (name : Data) :
    Keeps (World.IsPlain files made) (declareNested ref name) := by
  refine keeps_bind (still_checkFieldName ref name).keeps fun _ => ?_
  cases name with
  | text name => exact keeps_addSchema _ (Schema.isPlain_empty _ false false)
  | _ => exact (still_throw _).keeps

theorem keeps_relax (field : FieldRef) : Keeps (World.IsPlain files made) (relax field) :=
  fun _ plain => isPlain_modifySchema plain (fun _ => rfl) fun _ _ isPlain =>
    isPlain.relax field.position

theorem keeps_setKey (ref : SchemaRef) {names : List Data}
    (texts : ∀ name ∈ names, ∃ text, name = .text text) :
    Keeps (World.IsPlain files made) (setKey ref names) := by
  refine keeps_bind (still_schema ref).keeps fun schema => ?_
  have last : Keeps (World.IsPlain files made) (do
      ensureOpen ref.space
      modifySpace ref.space fun space =>
        space.modifyCollection ref.path fun collection => { collection with key := names }) :=
    keeps_bind (still_ensureOpen _).keeps fun _ _ plain =>
      isPlain_modifySpace plain (fun _ => rfl) fun _ _ isPlain => isPlain.setKey texts
  cases schema.keyed with
  | false => exact (still_throw _).keeps
  | true => exact last

theorem keeps_setCompact (ref : SchemaRef) (flag : Bool) :
    Keeps (World.IsPlain files made) (setCompact ref (.bool flag)) :=
  fun _ plain => isPlain_modifySchema plain (fun _ => rfl) fun _ _ isPlain =>
    ⟨⟨flag, rfl⟩, isPlain.fields, isPlain.distinct⟩

end Declarations

section Builders

variable {files : Files} {made : List StageCall}

theorem keeps_addBuilder {builder : Builder} (isPlain : builder.graph.IsPlain) :
    Keeps (World.IsPlain files made) (addBuilder builder) := by
  refine keeps_bind still_get.keeps fun _ => keeps_bind (keeps_modify fun world plain => ?_) fun _ =>
    (still_pure _).keeps
  exact { plain with
    graphs := List.forall_mem_append.mpr ⟨plain.graphs, by simpa using isPlain⟩
    calls := fun call callMem => by
      obtain ⟨builder, builderMem, isCall⟩ := plain.calls call callMem
      exact ⟨builder, List.mem_append_left _ builderMem, isCall⟩ }

/-- Finalizing adds calls for the graph that the builder has. -/
theorem keeps_finalize (number : Nat) : Keeps (World.IsPlain files made) (finalize number) := by
  intro world plain
  cases found : world.builders[number]? with
  | none => rwa [perform_finalize_of_none found]
  | some builder =>
      cases frozen : builder.frozen with
      | true => rwa [perform_finalize_of_frozen found frozen]
      | false =>
          obtain ⟨log, finalized⟩ := perform_finalize_of_open found frozen
          rw [finalized]
          have later : (world.freeze number).IsPlain files made :=
            isPlain_modify plain (fun _ _ _ _ => rfl) fun _ _ isPlain => isPlain
          have isThere : (world.freeze number).builders[number]? = some { builder with frozen := true } := by
            rw [World.freeze, List.getElem?_modify_eq, found]
            rfl
          exact {
            graphs := later.graphs
            calls := fun call callMem => by
              rcases List.mem_append.mp callMem with before | added
              · exact later.calls call before
              · have callMem := (StageCall.runAll_prefix _ _).subset added
                obtain ⟨stage, rfl⟩ : ∃ stage, call = builder.call number stage := by
                  simp only [Builder.calls, List.mem_cons, List.not_mem_nil, or_false] at callMem
                  rcases callMem with rfl | rfl | rfl <;> exact ⟨_, rfl⟩
                exact ⟨_, List.mem_of_getElem? isThere, builder.graph, number, stage,
                  plain.graphs builder (List.mem_of_getElem? found), rfl⟩
            files := by
              change (StageCall.runAll (builder.calls number) world.workspace.files).2.2 =
                StageCall.replay files (world.calls ++ _)
              rw [StageCall.replay_append, ← plain.files, StageCall.replay_runAll]
            kept := plain.kept.trans (List.prefix_append _ _) }

/-- A job that only reads the file tree keeps the world plain. -/
theorem keeps_ofJob {α : Type} {job : Job α} {result : Files → Except Error α} (tells : job.Tells result) :
    Keeps (World.IsPlain files made) (ofJob job) := by
  intro world plain
  rw [perform_ofJob]
  have same : (perform job world.workspace).2.files = world.workspace.files :=
    congrArg Prod.snd (tells world.workspace)
  exact ⟨plain.graphs, plain.calls, same.trans plain.files, plain.kept⟩

end Builders

end Run

/-- Names are texts, flags are truth values, and addresses start as full names do. What nested schemas can be
named is left open. -/
def Manner.plain (nested : String → Prop) : Manner where
  space := Name.IsSpace
  loose _ := True
  path := Name.IsWhole
  name value := ∃ text, value = .text text
  nested := nested
  address := Name.StartsFull
  flag value := ∃ flag, value = .bool flag
  files := False

theorem Manner.isFit_plain (nested : String → Prop) : (plain nested).IsFit where
  read name isSpace isWhole := ⟨isSpace, isWhole, name.startsFull_format⟩
  off := ⟨false, rfl⟩

/-- All operations keep the world plain, if what they are given is plain. -/
theorem World.kept_isPlain {files : Files} {made : List StageCall} {nested : String → Prop} :
    World.Kept (.plain nested) (World.IsPlain files made) where
  fit := Manner.isFit_plain nested
  found _ _ := Name.startsFull_format _
  reads := Run.keeps_ofJob
  writes _ touched := touched.elim
  waiting _ _ _ plain := ⟨plain.graphs, plain.calls, plain.files, plain.kept⟩
  seen _ _ plain := ⟨plain.graphs, plain.calls, plain.files, plain.kept⟩
  readings _ _ plain := ⟨plain.graphs, plain.calls, plain.files, plain.kept⟩
  addLoose _ := Effect.keeps_modify fun _ plain => ⟨plain.graphs, plain.calls, plain.files, plain.kept⟩
  addBuilder _ _ _ := Run.keeps_addBuilder Graph.isPlain_initial
  ensureSpace number _ isSpace := Run.keeps_ensureSpace number isSpace
  addSchema ref path _ _ isFlag := by
    rcases isFlag with ⟨flag, rfl⟩
    exact Run.keeps_addSchema ref (Schema.isPlain_empty path flag false)
  addKeyedSchema ref path _ := Run.keeps_addKeyedSchema ref path
  declareNested ref name _ := Run.keeps_declareNested ref (.text name)
  addDispatch ref _ _ request := Run.keeps_addDispatch ref request
  addField ref _ _ isName isType := by
    rcases isName with ⟨name, rfl⟩
    exact Run.keeps_addField ref name isType
  relax := Run.keeps_relax
  setKey ref _ texts := Run.keeps_setKey ref texts
  setCompact ref _ isFlag := by
    rcases isFlag with ⟨flag, rfl⟩
    exact Run.keeps_setCompact ref flag
  finalize := Run.keeps_finalize

end SpecGraph
