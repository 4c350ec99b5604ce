import SpecGraph.Proofs.Document.Valid
import SpecGraph.Proofs.Session.Sound
import SpecGraph.Proofs.World.Spaces

/-!
# Every schema is found by its address

The address of a schema is read as the namespace and the path of the schema, if no segment of the path is empty. So
every schema is found by its own address as long as the names of the fields of nested schemas have no empty segment:
the name of a field is not checked when its nested schema is registered below the schema around it. All references
can be read then as well, so a graph can be asked for its problems.
-/

namespace SpecGraph

/-- A field with a text for its name, and a type that is primitive or can be read as a name. -/
structure Field.IsLegible (field : Field) : Prop where
  /-- The name is a text. -/
  name : ∃ text, field.name = .text text
  /-- The type is primitive or can be read as a name. -/
  type : FieldTag.isTag field.type = true ∨ Name.IsLegible field.type

/-- A namespace with a name that can be read, and with texts and references that can be read. -/
structure Namespace.IsLegible (space : Namespace) : Prop where
  /-- The name is one that a namespace can have. -/
  name : Name.IsSpace space.name
  /-- The fields are legible. -/
  fields : ∀ schema ∈ space.schemas, ∀ field ∈ schema.fields, field.IsLegible
  /-- The keys of the collections are texts. -/
  keys : ∀ collection ∈ space.collections, ∀ name ∈ collection.key, ∃ text, name = .text text
  /-- The request types can be read as names. -/
  requests : ∀ dispatch ∈ space.dispatches, Name.IsLegible dispatch.requestType

/-- A namespace with texts for the names of its fields and for its keys. -/
structure Namespace.IsTexted (space : Namespace) : Prop where
  /-- The names of the fields are texts. -/
  names : ∀ schema ∈ space.schemas, ∀ field ∈ schema.fields, ∃ text, field.name = .text text
  /-- The keys of the collections are texts. -/
  keys : ∀ collection ∈ space.collections, ∀ name ∈ collection.key, ∃ text, name = .text text

theorem Namespace.IsLegible.isTexted {space : Namespace} (legible : space.IsLegible) : space.IsTexted where
  names schema schemaMem field fieldMem := (legible.fields schema schemaMem field fieldMem).name
  keys := legible.keys

/-- Names are texts, those of namespaces and references can be read, and no path has an empty segment. -/
def Manner.legible : Manner where
  space := Name.IsSpace
  loose _ := False
  path := Name.IsWhole
  name value := ∃ text, value = .text text
  nested := Name.IsWhole
  address := Name.IsLegible
  flag _ := True
  files := True

namespace Namespace

theorem isLegible_empty {name : String} (isSpace : Name.IsSpace name) : (empty name).IsLegible :=
  ⟨isSpace, List.forall_mem_nil _, List.forall_mem_nil _, List.forall_mem_nil _⟩

theorem IsLegible.addSchema {space : Namespace} (legible : space.IsLegible) (path : String) (flag : Data)
    (keyed : Bool) : (space.addSchema (Schema.empty path flag keyed)).IsLegible :=
  { legible with
    fields := List.forall_mem_append.mpr ⟨legible.fields, List.forall_mem_singleton.mpr (List.forall_mem_nil _)⟩ }

theorem IsLegible.modifySchema {space : Namespace} (legible : space.IsLegible) {path : String}
    {change : Schema → Schema} (fields : ∀ schema : Schema, (∀ field ∈ schema.fields, field.IsLegible) →
      ∀ field ∈ (change schema).fields, field.IsLegible) : (space.modifySchema path change).IsLegible :=
  { legible with
    fields := fun schema schemaMem => by
      rcases mem_replaceFirst schemaMem with before | ⟨found, there, rfl⟩
      · exact legible.fields schema before
      · exact fields found (legible.fields found (List.mem_of_find?_eq_some there)) }

theorem IsLegible.setKey {space : Namespace} (legible : space.IsLegible) (path : String) {names : List Data}
    (texts : ∀ name ∈ names, ∃ text, name = .text text) :
    (space.modifyCollection path fun collection => { collection with key := names }).IsLegible :=
  { legible with
    keys := fun collection collectionMem => by
      rcases mem_replaceFirst collectionMem with before | ⟨found, _, rfl⟩
      · exact legible.keys collection before
      · exact texts }

/-- Declarations keep a namespace legible, if what they are given is. -/
theorem closed_isLegible : Namespace.Closed .legible IsLegible where
  empty allowed := isLegible_empty (allowed.resolve_right id)
  addSchema legible _ _ _ := legible.addSchema _ _ _
  addNested legible _ _ _ := legible.addSchema _ _ _
  addKeyed legible _ _ _ :=
    { legible.addSchema _ _ _ with
      keys := List.forall_mem_append.mpr ⟨legible.keys, List.forall_mem_singleton.mpr (List.forall_mem_nil _)⟩ }
  addUnpaired legible _ _ _ := legible.addSchema _ _ _
  addDispatch legible _ request :=
    { legible with
      requests := List.forall_mem_append.mpr ⟨legible.requests, List.forall_mem_singleton.mpr request⟩ }
  addField legible _ _ isName isType := legible.modifySchema fun _ fields =>
    List.forall_mem_append.mpr ⟨fields, List.forall_mem_singleton.mpr ⟨isName, isType⟩⟩
  relax _ position legible := legible.modifySchema fun schema fields field fieldMem => by
    rcases mem_modify fieldMem with before | ⟨found, there, rfl⟩
    · exact fields field before
    · exact ⟨(fields found (List.mem_of_getElem? there)).name, (fields found (List.mem_of_getElem? there)).type⟩
  setKey path _ legible texts := legible.setKey path texts
  setCompact _ _ legible _ := legible.modifySchema fun _ fields => fields

/-- The address of a schema is read as its namespace and its path. -/
theorem IsLegible.parse_address {space : Namespace} (legible : space.IsLegible) (whole : space.IsWhole)
    {path : String} {schema : Schema} (found : space.schema? path = some schema) :
    Name.parse (space.address path) = .ok ⟨space.name, path⟩ :=
  Name.parse_format legible.name (whole.path found)

/-- A namespace in which nothing is declared twice and everything can be read. -/
def IsReadable (space : Namespace) : Prop := space.IsSound ∧ space.IsWhole ∧ space.IsLegible

theorem kept_isReadable : Namespace.Kept .legible IsReadable where
  toClosed := (closed_isSound .legible).and ((closed_isWhole (fun _ => id) fun _ => id).and closed_isLegible)
  fit := ⟨fun name isSpace isWhole => ⟨isSpace, isWhole, name, Name.parse_format isSpace isWhole⟩, trivial⟩
  stray isLoose := isLoose.elim
  address readable found := ⟨_, readable.2.2.parse_address readable.2.1 found⟩

end Namespace

section Documents

mutual

/-- The names of the fields of nested schemas in a field and inside it. -/
def FieldDecl.nestedNames : FieldDecl → List String
  | .plain .. => []
  | .inline name _ _ fields => name.text?.toList ++ FieldDecl.allNestedNames fields

/-- The names of the fields of nested schemas in fields and inside them. -/
def FieldDecl.allNestedNames : List FieldDecl → List String
  | [] => []
  | field :: rest => field.nestedNames ++ FieldDecl.allNestedNames rest

end

/-- The names of the fields of nested schemas in a document. -/
def Document.nestedNames (document : Document) : List String :=
  document.schemas.flatMap (fun schema => FieldDecl.allNestedNames schema.fields) ++
    document.collections.flatMap (fun collection => FieldDecl.allNestedNames collection.fields) ++
    document.dispatches.flatMap fun dispatch => FieldDecl.allNestedNames (dispatch.fields.getD [])

mutual

theorem FieldDecl.obeys_of_isValid : ∀ field : FieldDecl, field.IsValid →
    (field.Obeys .legible ↔ ∀ name ∈ field.nestedNames, Name.IsWhole name)
  | .plain name type struct optional, valid => by
      rcases valid with ⟨⟨text, rfl, _⟩, alternative⟩
      refine ⟨fun _ => List.forall_mem_nil _, fun _ => ⟨⟨text, rfl⟩, fun isNull noText => ?_⟩⟩
      rcases alternative with ⟨tag, isTag, _⟩ | ⟨_, struct, rfl, _⟩
      · rw [isTag] at isNull
        cases isNull
      · cases noText
  | .inline name type optional fields, valid => by
      rcases valid with ⟨⟨text, rfl, _⟩, _, areValid⟩
      have inner := FieldDecl.allObey_of_areValid fields areValid
      rw [nestedNames, List.forall_mem_append, ← inner]
      constructor
      · intro obeys
        exact ⟨List.forall_mem_singleton.mpr (obeys.2.1 text rfl), obeys.2.2⟩
      · rintro ⟨whole, allObey⟩
        refine ⟨⟨text, rfl⟩, fun other same => ?_, allObey⟩
        cases same
        exact List.forall_mem_singleton.mp whole

theorem FieldDecl.allObey_of_areValid : ∀ fields : List FieldDecl, FieldDecl.AreValid fields →
    (FieldDecl.AllObey .legible fields ↔ ∀ name ∈ FieldDecl.allNestedNames fields, Name.IsWhole name)
  | [], _ => ⟨fun _ => List.forall_mem_nil _, fun _ => trivial⟩
  | field :: rest, valid => by
      rw [allNestedNames, List.forall_mem_append, ← FieldDecl.obeys_of_isValid field valid.1,
        ← FieldDecl.allObey_of_areValid rest valid.2.2]
      rfl

end

/-- A document without problems is legible exactly if the names of the fields of its nested schemas have no empty
segment. -/
theorem Document.obeys_legible_iff {value : Data} {document : Document} (read : Document.ofData value = .ok document)
    (valid : document.problems = .ok []) :
    document.Obeys .legible ↔ ∀ name ∈ document.nestedNames, Name.IsWhole name := by
  have isValid := isValid_of_problems (isRead_of_ofData read) valid
  have schemas (schema : SchemaDecl) (schemaMem : schema ∈ document.schemas) :=
    FieldDecl.allObey_of_areValid schema.fields (isValid.schemaFields schema schemaMem)
  have collections (collection : CollectionDecl) (collectionMem : collection ∈ document.collections) :=
    FieldDecl.allObey_of_areValid collection.fields (isValid.collectionFields collection collectionMem)
  have dispatches (dispatch : DispatchDecl) (dispatchMem : dispatch ∈ document.dispatches) :=
    FieldDecl.allObey_of_areValid (dispatch.fields.getD []) (isValid.dispatches dispatch dispatchMem).fields
  rw [nestedNames, List.forall_mem_append, List.forall_mem_append]
  constructor
  · intro obeys
    refine ⟨⟨fun name nameMem => ?_, fun name nameMem => ?_⟩, fun name nameMem => ?_⟩
    · rcases List.mem_flatMap.mp nameMem with ⟨schema, schemaMem, inSchema⟩
      exact (schemas schema schemaMem).mp (obeys.schemas schema schemaMem) name inSchema
    · rcases List.mem_flatMap.mp nameMem with ⟨collection, collectionMem, inCollection⟩
      exact (collections collection collectionMem).mp (obeys.collections collection collectionMem) name inCollection
    · rcases List.mem_flatMap.mp nameMem with ⟨dispatch, dispatchMem, inDispatch⟩
      exact (dispatches dispatch dispatchMem).mp (obeys.dispatches dispatch dispatchMem) name inDispatch
  · rintro ⟨⟨inSchemas, inCollections⟩, inDispatches⟩
    exact {
      flags := fun _ _ => trivial
      schemas := fun schema schemaMem => (schemas schema schemaMem).mpr fun name nameMem =>
        inSchemas name (List.mem_flatMap.mpr ⟨schema, schemaMem, nameMem⟩)
      keys := isValid.keys
      collections := fun collection collectionMem => (collections collection collectionMem).mpr fun name nameMem =>
        inCollections name (List.mem_flatMap.mpr ⟨collection, collectionMem, nameMem⟩)
      dispatches := fun dispatch dispatchMem => (dispatches dispatch dispatchMem).mpr fun name nameMem =>
        inDispatches name (List.mem_flatMap.mpr ⟨dispatch, dispatchMem, nameMem⟩) }

end Documents

namespace Graph

variable (graph : Graph)

theorem exists_fieldProblems {field : Field} (legible : field.IsLegible) (address : String) :
    ∃ problems, graph.fieldProblems address field = .ok problems := by
  unfold fieldProblems
  split
  · exact ⟨[], rfl⟩
  next notTag =>
    rcases legible.type.resolve_left notTag with ⟨name, read⟩
    unfold referenceProblem?
    rw [Reference.parse_text.mpr read]
    exact ⟨_, rfl⟩

theorem exists_collectionProblems {space : Namespace} (texted : space.IsTexted) {collection : Collection}
    (collectionMem : collection ∈ space.collections) :
    ∃ problems, collectionProblems space collection = .ok problems := by
  have isKey {value : Data} (isText : ∃ text, value = .text text) : value.isKey = true := by
    rcases isText with ⟨text, rfl⟩
    rfl
  have fields : ∀ name ∈ ((space.schema? collection.path).map Schema.fieldNames).getD [], name.isKey = true := by
    cases found : space.schema? collection.path with
    | none => exact List.forall_mem_nil _
    | some schema =>
        intro name nameMem
        rcases List.mem_map.mp nameMem with ⟨field, fieldMem, rfl⟩
        exact isKey (texted.names schema (List.mem_of_find?_eq_some found) field fieldMem)
  have keys : ∀ name ∈ collection.key, name.isKey = true :=
    fun name nameMem => isKey (texted.keys collection collectionMem name nameMem)
  unfold collectionProblems
  dsimp only
  rw [List.all_eq_true.mpr (List.forall_mem_append.mpr ⟨fields, keys⟩)]
  exact ⟨_, rfl⟩

theorem exists_dispatchProblems {dispatch : Dispatch} (legible : Name.IsLegible dispatch.requestType)
    (space : Namespace) : ∃ problems, graph.dispatchProblems space dispatch = .ok problems := by
  rcases legible with ⟨name, read⟩
  unfold dispatchProblems referenceProblem?
  rw [Reference.parse_text.mpr read]
  exact ⟨_, rfl⟩

/-- Something is found for every element of a list if it is found for each of them. -/
theorem exists_mapM_ok {α β ε : Type} {image : α → Except ε β} {elements : List α}
    (each : ∀ element ∈ elements, ∃ result, image element = .ok result) :
    ∃ results, elements.mapM image = .ok results := by
  have related (element : α) (elementMem : element ∈ elements) :
      ∃ result, image element = .ok result ∧ image element = .ok result :=
    (each element elementMem).imp fun _ found => ⟨found, found⟩
  rcases exists_mapM related with ⟨results, mapped, _⟩
  exact ⟨results, mapped⟩

/-- A legible graph can be asked for its problems. -/
theorem exists_problems (legible : ∀ space ∈ graph.spaces, space.IsLegible) :
    ∃ problems, graph.problems = .ok problems := by
  have ofSpace (space : Namespace) (spaceMem : space ∈ graph.spaces) :
      ∃ problems, graph.spaceProblems space = .ok problems := by
    have isLegible := legible space spaceMem
    have ofSchema (schema : Schema) (schemaMem : schema ∈ space.schemas) :
        ∃ problems, (do return (← schema.fields.mapM (graph.fieldProblems (space.address schema.path))).flatten :
          Except Error (List String)) = .ok problems := by
      rcases exists_mapM_ok fun field fieldMem =>
        graph.exists_fieldProblems (isLegible.fields schema schemaMem field fieldMem)
          (space.address schema.path) with ⟨problems, found⟩
      exact ⟨problems.flatten, by rw [found]; rfl⟩
    rcases exists_mapM_ok ofSchema with ⟨ofSchemas, areSchemas⟩
    rcases exists_mapM_ok fun collection => exists_collectionProblems isLegible.isTexted with ⟨ofCollections, areCollections⟩
    rcases exists_mapM_ok fun dispatch dispatchMem =>
      graph.exists_dispatchProblems (isLegible.requests dispatch dispatchMem) space with
      ⟨ofDispatches, areDispatches⟩
    refine ⟨ofSchemas.flatten ++ ofCollections.flatten ++ ofDispatches.flatten, ?_⟩
    unfold spaceProblems
    rw [areSchemas, areCollections, areDispatches]
    rfl
  rcases exists_mapM_ok ofSpace with ⟨problems, found⟩
  exact ⟨problems.flatten, by rw [Graph.problems, found]; rfl⟩

/-- In a readable graph a schema is found by its address. -/
theorem schema?_of_parse {graph : Graph} (holds : graph.Holds Namespace.IsReadable) {space : Namespace}
    (spaceMem : space ∈ graph.spaces) {schema : Schema} (schemaMem : schema ∈ space.schemas) :
    Name.parse (space.address schema.path) = .ok ⟨space.name, schema.path⟩ ∧
      graph.schema? ⟨space.name, schema.path⟩ = some schema := by
  rcases holds.spaces space spaceMem with ⟨sound, whole, legible⟩
  have isSpace : graph.space? space.name = some space := find?_of_nodup_map holds.names spaceMem
  have isSchema : space.schema? schema.path = some schema := find?_of_nodup_map (sound.nodup_paths .schema) schemaMem
  exact ⟨legible.parse_address whole isSchema, by rw [schema?, isSpace, Option.bind_some, isSchema]⟩

end Graph

namespace Run

open Effect

/-- The schema that a reference denotes is looked up by what is read of the reference. -/
theorem perform_schema? {world : World} {number : Nat} {builder : Builder}
    (found : world.builders[number]? = some builder) {text : String} {name : Name} (read : Name.parse text = .ok name)
    {schema : Schema} (isSchema : builder.graph.schema? name = some schema) :
    perform (schema? number (.text text)) world = (.ok (some ⟨⟨.builder number, name.space⟩, name.path⟩), world) := by
  unfold schema?
  rw [Reference.parse_text.mpr read]
  change perform (Run.builder number >>= _) world = _
  rw [perform_bind_of_ok (perform_builder found), isSchema]
  rfl

end Run

namespace Session

open Effect

/-- At every moment of a legible session every schema of a builder is found by its own address, and the builder can
be asked for its problems. -/
theorem schemas_found {steps : List Step} (files : Files) (legible : Step.AllObey .legible steps) :
    ∀ world ∈ World.start files :: moments (World.start files) steps, ∀ (number : Nat) (builder : Builder),
      world.builders[number]? = some builder →
        (∀ space ∈ builder.graph.spaces, ∀ schema ∈ space.schemas,
          Effect.perform (Run.schema? number (.text (space.address schema.path))) world =
              (.ok (some ⟨⟨.builder number, space.name⟩, schema.path⟩), world) ∧
            world.schema? ⟨⟨.builder number, space.name⟩, schema.path⟩ = some schema) ∧
        ∃ problems, builder.graph.problems = .ok problems := by
  have kept := Namespace.kept_isReadable.kept
  have start : (World.start files).Holds .legible Namespace.IsReadable := World.holds_start files
  intro world worldMem number builder found
  have holds : world.Holds .legible Namespace.IsReadable := by
    rcases List.mem_cons.mp worldMem with rfl | isMoment
    · exact start
    · exact good_of_mem_moments kept legible start world isMoment
  have graphHolds := holds.graphs builder (List.mem_of_getElem? found)
  refine ⟨fun space spaceMem schema schemaMem => ?_,
    builder.graph.exists_problems fun space spaceMem => (graphHolds.spaces space spaceMem).2.2⟩
  rcases Graph.schema?_of_parse graphHolds spaceMem schemaMem with ⟨read, isSchema⟩
  exact ⟨Run.perform_schema? found read isSchema, by rw [World.schema?_ofBuilder found, isSchema]⟩

/-- A document that declares a schema with a nested one. -/
def nestingDocument : Data :=
  .object [("schemas", .list [.object [("name", .text "c"), ("fields", .list [.object [("name", .text "d"),
    ("struct", .object [("fields", .list [])])]])]])]

/-- A schema with a nested one is declared, and then a document that does the same. -/
def nesting : List Step :=
  [.command (.create ⟨.text "spec", [], [], none⟩),
    .schema (.int 0) (.text "a") (.bool false) [.inline (.text "b") [.field (.text "x") (.text "uint") false] false],
    .command (.apply (.int 0) (.data nestingDocument))]

theorem schemas_found_nesting :
    ∃ builder, (after (World.start Files.empty) nesting).builders[0]? = some builder ∧
      builder.graph.count Namespace.schemas = 4 ∧
      (∀ space ∈ builder.graph.spaces, ∀ schema ∈ space.schemas,
        Effect.perform (Run.schema? 0 (.text (space.address schema.path))) (after (World.start Files.empty) nesting) =
            (.ok (some ⟨⟨.builder 0, space.name⟩, schema.path⟩), after (World.start Files.empty) nesting) ∧
          (after (World.start Files.empty) nesting).schema? ⟨⟨.builder 0, space.name⟩, schema.path⟩ = some schema) ∧
      ∃ problems, builder.graph.problems = .ok problems := by
  have ofDocument (document : Document) (told : Document.ofData nestingDocument = .ok document)
      (valid : document.problems = .ok []) : document.Obeys .legible := by
    have names : (Document.ofData nestingDocument).toOption.map Document.nestedNames = some ["d"] := by decide +kernel
    rw [told] at names
    rw [Document.obeys_legible_iff told valid, Option.some.inj names]
    decide
  have ofBody : Action.AllObey .legible
      [.inline (.text "b") [.field (.text "x") (.text "uint") false] false] := by
    refine ⟨⟨⟨"b", rfl⟩, fun text same => ?_, ⟨"x", rfl⟩, trivial⟩, trivial⟩
    cases same
    change Name.IsWhole "b"
    decide
  have legible : Step.AllObey .legible nesting := ⟨trivial, ⟨trivial, ofBody⟩, ofDocument, trivial⟩
  have counted : (after (World.start Files.empty) nesting).builders[0]?.map (fun builder =>
      builder.graph.count Namespace.schemas) = some 4 := by decide +kernel
  rcases Option.map_eq_some_iff.mp counted with ⟨builder, found, count⟩
  exact ⟨builder, found, count,
    schemas_found Files.empty legible _ (after_take_mem 3 nesting (World.start Files.empty)) 0 builder found⟩

/-- The field of a nested schema has the empty text for its name. -/
def nameless : List Step :=
  [.command (.create ⟨.text "spec", [], [], none⟩),
    .schema (.int 0) (.text "a") (.bool false) [.inline (.text "") [] false]]

/-- A nested schema without a name is registered, but it cannot be looked up by its address, and the builder cannot be
asked for its problems. -/
theorem schema_lost_nameless :
    ∃ builder space schema, (after (World.start Files.empty) nameless).builders[0]? = some builder ∧
      space ∈ builder.graph.spaces ∧ schema ∈ space.schemas ∧ space.address schema.path = "@default/a/" ∧
      (∃ error, (Effect.perform (Run.schema? 0 (.text (space.address schema.path)))
        (after (World.start Files.empty) nameless)).1 = .error error) ∧
      ∃ error, builder.graph.problems = .error error := by
  have lost : ((after (World.start Files.empty) nameless).builders[0]?.any fun builder =>
      (builder.graph.spaces.any fun space => space.schemas.any fun schema =>
        space.address schema.path == "@default/a/" &&
          !(Effect.perform (Run.schema? 0 (.text (space.address schema.path)))
            (after (World.start Files.empty) nameless)).1.isOk) && !builder.graph.problems.isOk) = true := by
    decide +kernel
  have failed {α : Type} {outcome : Except Error α} (notOk : (!outcome.isOk) = true) :
      ∃ error, outcome = .error error := by
    cases outcome with
    | error error => exact ⟨error, rfl⟩
    | ok value => cases notOk
  rcases (Option.any_eq_true _ _).mp lost with ⟨builder, found, lost⟩
  rw [Bool.and_eq_true] at lost
  rcases List.any_eq_true.mp lost.1 with ⟨space, spaceMem, inSpace⟩
  rcases List.any_eq_true.mp inSpace with ⟨schema, schemaMem, isLost⟩
  rw [Bool.and_eq_true] at isLost
  exact ⟨builder, space, schema, found, spaceMem, schemaMem, beq_iff_eq.mp isLost.1, failed isLost.2, failed lost.2⟩

end Session

end SpecGraph
