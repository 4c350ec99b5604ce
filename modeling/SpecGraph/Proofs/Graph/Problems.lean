import SpecGraph.Graph.Check
import SpecGraph.Proofs.Graph.Sources
import SpecGraph.Proofs.Manifest.Accept

/-!
# Graphs without problems

A plain graph has no problems exactly if every reference of its sources is resolved among its own schemas, in
the sense in which the stages resolve references among the schemas of a manifest. A reference is read as a name
and looked up by namespace and path here, and compared with full names there. The two agree since a text that
starts as full names do is the full name of what is read of it, and since the full name of a schema is read as
its namespace and path if no segment of the path is empty.
-/

namespace SpecGraph

/-- No schema has an empty segment in its path. -/
def Namespace.IsWhole (space : Namespace) : Prop := ∀ schema ∈ space.schemas, Name.IsWhole schema.path

/-- No schema of a graph has an empty segment in its path. -/
def Graph.IsWhole (graph : Graph) : Prop := ∀ space ∈ graph.spaces, space.IsWhole

/-- If names are told apart, an element is the first one of its name. -/
theorem find?_of_nodup_map {α β : Type} [BEq β] [LawfulBEq β] {elements : List α} {name : α → β}
    (distinct : (elements.map name).Nodup) {element : α} (elementMem : element ∈ elements) :
    elements.find? (fun other => name other == name element) = some element := by
  cases found : elements.find? fun other => name other == name element with
  | none => exact (List.find?_eq_none.mp found element elementMem (beq_self_eq_true _)).elim
  | some other =>
      have same : name other = name element := by simpa using List.find?_some found
      rw [List.inj_on_of_nodup_map distinct (List.mem_of_find?_eq_some found) elementMem same]

/-- Nothing is found in any item exactly if nothing is found in all of them together. -/
theorem mapM_flatten_eq_nil {ε α β : Type} {items : List α} {find : α → Except ε (List β)} :
    (do return (← items.mapM find).flatten) = (.ok [] : Except ε (List β)) ↔ ∀ item ∈ items, find item = .ok [] := by
  induction items with
  | nil => simp [pure, Except.pure, bind, Except.bind]
  | cons item rest ih =>
      rw [List.forall_mem_cons, ← ih, List.mapM_cons]
      cases find item with
      | error error => simp [bind, Except.bind]
      | ok first =>
          cases rest.mapM find with
          | error error => simp [bind, Except.bind]
          | ok others => simp [bind, Except.bind, pure, Except.pure, List.append_eq_nil_iff]

/-- Three lists together are empty exactly if each of them is. -/
theorem bind_append_eq_nil {ε β : Type} {first second third : Except ε (List β)} :
    (do return (← first) ++ (← second) ++ (← third)) = (.ok [] : Except ε (List β)) ↔
      first = .ok [] ∧ second = .ok [] ∧ third = .ok [] := by
  cases first <;> cases second <;> cases third <;>
    simp [bind, Except.bind, pure, Except.pure, List.append_eq_nil_iff]

namespace Graph

variable {graph : Graph} (plain : graph.IsPlain)
include plain

/-- A schema is found by its namespace and its path. -/
theorem IsPlain.isSome_schema?_iff {name : Name} :
    (graph.schema? name).isSome = true ↔
      ∃ space ∈ graph.spaces, ∃ schema ∈ space.schemas, name = ⟨space.name, schema.path⟩ := by
  constructor
  · intro found
    rcases Option.isSome_iff_exists.mp found with ⟨schema, isSchema⟩
    rcases Option.bind_eq_some_iff.mp isSchema with ⟨space, isSpace, inSpace⟩
    have sameSpace : space.name = name.space := by simpa using List.find?_some isSpace
    have samePath : schema.path = name.path := by simpa using List.find?_some inSpace
    refine ⟨space, List.mem_of_find?_eq_some isSpace, schema, List.mem_of_find?_eq_some inSpace, ?_⟩
    rw [sameSpace, samePath]
  · rintro ⟨space, spaceMem, schema, schemaMem, rfl⟩
    have isSpace : graph.space? space.name = some space := find?_of_nodup_map plain.names spaceMem
    have isSchema : space.schema? schema.path = some schema :=
      find?_of_nodup_map (plain.spaces space spaceMem).schemaPaths schemaMem
    simp [schema?, isSpace, isSchema]

/-- A reference that starts as full names do has no problem exactly if it is the full name of a schema. -/
theorem IsPlain.referenceProblem?_eq_none_iff (whole : graph.IsWhole) {reference : String}
    (starts : Name.StartsFull reference) :
    graph.referenceProblem? reference = .ok none ↔
      reference ∈ (graph.schemaSources.map SchemaSource.form).map SchemaForm.address := by
  have listed : reference ∈ (graph.schemaSources.map SchemaSource.form).map SchemaForm.address ↔
      ∃ space ∈ graph.spaces, ∃ schema ∈ space.schemas, reference = Name.format ⟨space.name, schema.path⟩ := by
    simp only [schemaSources, List.map_map, List.mem_map, List.mem_flatMap]
    constructor
    · rintro ⟨_, ⟨space, spaceMem, schema, schemaMem, rfl⟩, rfl⟩
      exact ⟨space, spaceMem, schema, schemaMem, rfl⟩
    · rintro ⟨space, spaceMem, schema, schemaMem, rfl⟩
      exact ⟨_, ⟨space, spaceMem, schema, schemaMem, rfl⟩, rfl⟩
  rw [listed]
  unfold referenceProblem?
  cases read : Reference.parse (.text reference) with
  | error error =>
      refine iff_of_false (fun found => ?_) ?_
      · cases found
      · rintro ⟨space, spaceMem, schema, schemaMem, rfl⟩
        have isRead : Name.parse (Name.format ⟨space.name, schema.path⟩) = .ok ⟨space.name, schema.path⟩ :=
          Name.parse_format (plain.spaces space spaceMem).name (whole space spaceMem schema schemaMem)
        rw [Reference.parse_text.mpr isRead] at read
        cases read
  | ok name =>
      have isName : name.format = reference := Name.format_of_parse starts (Reference.parse_text.mp read)
      have known : (graph.schema? name).isSome = true ↔ ∃ space ∈ graph.spaces, ∃ schema ∈ space.schemas,
          reference = Name.format ⟨space.name, schema.path⟩ := by
        rw [plain.isSome_schema?_iff]
        constructor
        · rintro ⟨space, spaceMem, schema, schemaMem, rfl⟩
          exact ⟨space, spaceMem, schema, schemaMem, isName.symm⟩
        · rintro ⟨space, spaceMem, schema, schemaMem, same⟩
          refine ⟨space, spaceMem, schema, schemaMem, ?_⟩
          exact Name.format_inj (Reference.isSpace_of_parse read).2 (plain.spaces space spaceMem).name.2
            (isName.trans same)
      rw [← known]
      change Except.ok (if (graph.schema? name).isSome then _ else _) = _ ↔ _
      cases (graph.schema? name).isSome with
      | true => simp
      | false => simp

/-- The type of a field of a plain schema has no problem exactly if it is primitive or the full name of a schema. -/
theorem IsPlain.fieldProblems_eq_nil_iff (whole : graph.IsWhole) (address : String) {field : Field}
    (isPlain : field.IsPlain) :
    graph.fieldProblems address field = .ok [] ↔ FieldTag.isTag field.type = true ∨
      field.type ∈ (graph.schemaSources.map SchemaSource.form).map SchemaForm.address := by
  unfold fieldProblems
  rcases isPlain.type with isTag | starts
  · simp [isTag, pure, Except.pure]
  · rw [← plain.referenceProblem?_eq_none_iff whole starts]
    cases FieldTag.isTag field.type with
    | true => simp [pure, Except.pure]
    | false =>
        cases graph.referenceProblem? field.type with
        | error error => simp [bind, Except.bind]
        | ok problem => cases problem <;> simp [bind, Except.bind, pure, Except.pure]

theorem IsPlain.dispatchProblems_eq_nil_iff (whole : graph.IsWhole) (space : Namespace) {dispatch : Dispatch}
    (starts : Name.StartsFull dispatch.requestType) :
    graph.dispatchProblems space dispatch = .ok [] ↔
      (dispatch.source space.name).form.ResolvedIn (graph.schemaSources.map SchemaSource.form) := by
  have resolved : (dispatch.source space.name).form.ResolvedIn (graph.schemaSources.map SchemaSource.form) ↔
      dispatch.requestType ∈ (graph.schemaSources.map SchemaSource.form).map SchemaForm.address :=
    List.mem_map.symm
  rw [resolved, ← plain.referenceProblem?_eq_none_iff whole starts]
  unfold dispatchProblems
  cases graph.referenceProblem? dispatch.requestType with
  | error error => simp [bind, Except.bind]
  | ok problem => cases problem <;> simp [bind, Except.bind, pure, Except.pure]

/-- A collection refers to the schema of its own path in its namespace. -/
theorem IsPlain.resolvedIn_collection_iff {space : Namespace} (spaceMem : space ∈ graph.spaces)
    (collection : Collection) :
    (collection.source space.name).form.ResolvedIn (graph.schemaSources.map SchemaSource.form) ↔
      ∃ schema, space.schema? collection.path = some schema ∧ (collection.source space.name).key ≠ [] ∧
        ∀ name ∈ (collection.source space.name).key, name ∈ (schema.source space.name).fields.map FieldForm.name := by
  constructor
  · rintro ⟨form, formMem, same, some_, names⟩
    rcases List.mem_map.mp formMem with ⟨source, sourceMem, rfl⟩
    rcases List.mem_flatMap.mp sourceMem with ⟨other, otherMem, inOther⟩
    rcases List.mem_map.mp inOther with ⟨schema, schemaMem, rfl⟩
    have sameName := Name.format_inj (plain.spaces other otherMem).name.2 (plain.spaces space spaceMem).name.2 same
    obtain rfl := List.inj_on_of_nodup_map plain.names otherMem spaceMem (congrArg Name.space sameName)
    refine ⟨schema, ?_, some_, names⟩
    rw [← show schema.path = collection.path from congrArg Name.path sameName]
    exact find?_of_nodup_map (plain.spaces other otherMem).schemaPaths schemaMem
  · rintro ⟨schema, found, some_, names⟩
    have samePath : schema.path = collection.path := by simpa using List.find?_some found
    refine ⟨(schema.source space.name).form, List.mem_map_of_mem ?_, ?_, some_, names⟩
    · exact List.mem_flatMap.mpr ⟨space, spaceMem, List.mem_map_of_mem (List.mem_of_find?_eq_some found)⟩
    · exact congrArg (fun path => Name.format ⟨space.name, path⟩) samePath

/-- The key of a collection has no problem exactly if it names fields of the schema of the collection. -/
theorem IsPlain.collectionProblems_eq_nil_iff {space : Namespace} (spaceMem : space ∈ graph.spaces)
    {collection : Collection} (collectionMem : collection ∈ space.collections) :
    collectionProblems space collection = .ok [] ↔
      (collection.source space.name).form.ResolvedIn (graph.schemaSources.map SchemaSource.form) := by
  have isPlain := plain.spaces space spaceMem
  have key : collection.key = (collection.source space.name).key.map .text :=
    congrArg (fun entry => entry.spec.key)
      (collection.entry_source (isPlain.keys collection collectionMem) space.name).symm
  obtain ⟨names, areNames, isResolved⟩ : ∃ names : List String,
      ((space.schema? collection.path).map Schema.fieldNames).getD [] = names.map .text ∧
      ((collection.source space.name).form.ResolvedIn (graph.schemaSources.map SchemaSource.form) ↔
        (collection.source space.name).key ≠ [] ∧ ∀ name ∈ (collection.source space.name).key, name ∈ names) := by
    rw [plain.resolvedIn_collection_iff spaceMem]
    cases found : space.schema? collection.path with
    | none =>
        refine ⟨[], rfl, iff_of_false (by simp) ?_⟩
        rintro ⟨some_, all⟩
        exact some_ (List.eq_nil_iff_forall_not_mem.mpr fun name nameMem => List.not_mem_nil (all name nameMem))
    | some schema =>
        exact ⟨_, (isPlain.schemas schema (List.mem_of_find?_eq_some found)).fieldNames_source space.name,
          by simp⟩
  rw [isResolved]
  generalize (collection.source space.name).key = key' at key ⊢
  have isKey : (names.map Data.text ++ key'.map Data.text).all Data.isKey = true := by simp
  unfold collectionProblems
  simp only [areNames, key, isKey]
  simp [pure, Except.pure, List.append_eq_nil_iff]

omit plain in
/-- A namespace has no problems exactly if none of its declarations has one. -/
theorem spaceProblems_eq_nil_iff (space : Namespace) :
    graph.spaceProblems space = .ok [] ↔
      (∀ schema ∈ space.schemas, ∀ field ∈ schema.fields,
        graph.fieldProblems (space.address schema.path) field = .ok []) ∧
      (∀ collection ∈ space.collections, collectionProblems space collection = .ok []) ∧
      ∀ dispatch ∈ space.dispatches, graph.dispatchProblems space dispatch = .ok [] := by
  have parts : graph.spaceProblems space = (do
      let ofSchemas ← (do return (← space.schemas.mapM fun schema => do
        return (← schema.fields.mapM (graph.fieldProblems (space.address schema.path))).flatten).flatten)
      let ofCollections ← (do return (← space.collections.mapM (collectionProblems space)).flatten)
      let ofDispatches ← (do return (← space.dispatches.mapM (graph.dispatchProblems space)).flatten)
      return ofSchemas ++ ofCollections ++ ofDispatches) := by
    simp [spaceProblems]
  have schemas : (∀ schema ∈ space.schemas, ∀ field ∈ schema.fields,
      graph.fieldProblems (space.address schema.path) field = .ok []) ↔
      ∀ schema ∈ space.schemas, (do
        return (← schema.fields.mapM (graph.fieldProblems (space.address schema.path))).flatten) =
          (.ok [] : Except Error (List String)) := forall₂_congr fun _ _ => mapM_flatten_eq_nil.symm
  rw [parts, schemas, ← mapM_flatten_eq_nil, ← mapM_flatten_eq_nil, ← mapM_flatten_eq_nil, bind_append_eq_nil]

/-- A plain graph has no problems exactly if all references of its sources are resolved among its schemas. -/
theorem IsPlain.problems_eq_nil_iff (whole : graph.IsWhole) :
    graph.problems = .ok [] ↔
      Manifest.AreResolved (graph.schemaSources.map SchemaSource.form) ∧
      (∀ source ∈ graph.collectionSources, source.form.ResolvedIn (graph.schemaSources.map SchemaSource.form)) ∧
      ∀ source ∈ graph.dispatchSources, source.form.ResolvedIn (graph.schemaSources.map SchemaSource.form) := by
  have fields : (∀ space ∈ graph.spaces, ∀ schema ∈ space.schemas, ∀ field ∈ schema.fields,
      graph.fieldProblems (space.address schema.path) field = .ok []) ↔
      Manifest.AreResolved (graph.schemaSources.map SchemaSource.form) := by
    unfold Manifest.AreResolved
    nth_rewrite 1 [schemaSources]
    simp only [List.forall_mem_map, List.forall_mem_flatMap]
    refine forall₂_congr fun space spaceMem => forall₂_congr fun schema schemaMem => ?_
    change _ ↔ ∀ field ∈ schema.fields.map Field.form, _
    rw [List.forall_mem_map]
    exact forall₂_congr fun field fieldMem => plain.fieldProblems_eq_nil_iff whole _
      (((plain.spaces space spaceMem).schemas schema schemaMem).fields field fieldMem)
  have collections : (∀ space ∈ graph.spaces, ∀ collection ∈ space.collections,
      collectionProblems space collection = .ok []) ↔ ∀ source ∈ graph.collectionSources,
        source.form.ResolvedIn (graph.schemaSources.map SchemaSource.form) := by
    rw [collectionSources, List.forall_mem_flatMap]
    refine forall₂_congr fun space spaceMem => ?_
    rw [List.forall_mem_map]
    exact forall₂_congr fun collection collectionMem =>
      plain.collectionProblems_eq_nil_iff spaceMem collectionMem
  have dispatches : (∀ space ∈ graph.spaces, ∀ dispatch ∈ space.dispatches,
      graph.dispatchProblems space dispatch = .ok []) ↔ ∀ source ∈ graph.dispatchSources,
        source.form.ResolvedIn (graph.schemaSources.map SchemaSource.form) := by
    rw [dispatchSources, List.forall_mem_flatMap]
    refine forall₂_congr fun space spaceMem => ?_
    rw [List.forall_mem_map]
    exact forall₂_congr fun dispatch dispatchMem =>
      plain.dispatchProblems_eq_nil_iff whole space ((plain.spaces space spaceMem).requests dispatch dispatchMem)
  rw [problems, mapM_flatten_eq_nil, ← fields, ← collections, ← dispatches, ← forall₂_and, ← forall₂_and]
  exact forall₂_congr fun space _ => spaceProblems_eq_nil_iff space

end Graph

end SpecGraph
