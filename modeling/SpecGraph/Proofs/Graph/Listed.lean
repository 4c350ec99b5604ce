import SpecGraph.Proofs.Graph.Flattened
import SpecGraph.Proofs.Graph.Told

/-!
# Declarations one after the other

What is declared in plain namespaces is told by the full names and by what else a manifest is compared by. So the
declarations of two graphs, as JSON makes them, are the same up to their order exactly if they say the same.
-/

namespace SpecGraph

open Manifest (layout)

section Images

variable {α β γ : Type} {lefts rights : List α}

/-- Two lists are the same up to their order under any image that is told by one under which they are. -/
theorem perm_map_of_tells [DecidableEq β] {first : α → β} {second : α → γ}
    (tells : ∀ left ∈ lefts ++ rights, ∀ right ∈ lefts ++ rights, first left = first right → second left = second right)
    (same : (lefts.map first).Perm (rights.map first)) : (lefts.map second).Perm (rights.map second) := by
  let image (value : β) : Option γ := ((lefts ++ rights).find? fun element => first element = value).map second
  have told : ∀ element ∈ lefts ++ rights, image (first element) = some (second element) := by
    intro element elementMem
    cases isFound : (lefts ++ rights).find? fun other => decide (first other = first element) with
    | none => simpa using List.find?_eq_none.mp isFound element elementMem
    | some other =>
        have sameFirst : first other = first element := by simpa using List.find?_some isFound
        have sameSecond := tells other (List.mem_of_find?_eq_some isFound) element elementMem sameFirst
        simp only [image, isFound, Option.map_some, sameSecond]
  have images (elements : List α) (inside : ∀ element ∈ elements, element ∈ lefts ++ rights) :
      (elements.map second).map some = (elements.map first).map image := by
    rw [List.map_map, List.map_map]
    exact List.map_congr_left fun element elementMem => (told element (inside element elementMem)).symm
  have mapped := same.map image
  rw [← images lefts fun _ inLefts => List.mem_append_left _ inLefts,
    ← images rights fun _ inRights => List.mem_append_right _ inRights] at mapped
  exact (List.map_perm_map_iff (Option.some_injective γ)).mp mapped

/-- What is declared is told by what is said: it is the same up to the order exactly if the same is said. -/
theorem perm_told_iff {Form : Type} [DecidableEq Form] {form : α → Form} {told : α → Data} (of? : Data → Option Form)
    (shows : ∀ source ∈ lefts ++ rights, of? (told source) = some (form source))
    (inj : ∀ left ∈ lefts ++ rights, ∀ right ∈ lefts ++ rights, form left = form right → left = right) :
    (lefts.map form).Perm (rights.map form) ↔ (lefts.map told).Perm (rights.map told) := by
  refine ⟨perm_map_of_tells fun left leftMem right rightMem same => congrArg told (inj left leftMem right rightMem same),
    fun same => ?_⟩
  have forms (sources : List α) (inside : ∀ source ∈ sources, source ∈ lefts ++ rights) :
      (sources.map form).map some = (sources.map told).map of? := by
    rw [List.map_map, List.map_map]
    exact List.map_congr_left fun source sourceMem => (shows source (inside source sourceMem)).symm
  have mapped := same.map of?
  rw [← forms lefts fun _ inLefts => List.mem_append_left _ inLefts,
    ← forms rights fun _ inRights => List.mem_append_right _ inRights] at mapped
  exact (List.map_perm_map_iff (Option.some_injective Form)).mp mapped

end Images

section Told

/-! A declaration as the data of its graph has it, with the name of its namespace. -/

def SchemaSource.told (source : SchemaSource) : Data :=
  .object [("name", .text source.path), ("fqn", .text (Name.format ⟨source.space, source.path⟩)),
    ("compact", .bool source.compact),
    ("fields", .list (source.fields.map fun field => .object field.toSpec.members)), ("namespace", .text source.space)]

def CollectionSource.told (source : CollectionSource) : Data :=
  .object [("name", .text source.path), ("fqn", .text (Name.format ⟨source.space, source.path⟩)),
    ("schema", .text source.schema), ("key", .list (source.key.map .text)), ("namespace", .text source.space)]

def DispatchSource.told (source : DispatchSource) : Data :=
  .object [("name", .text source.path), ("fqn", .text (Name.format ⟨source.space, source.path⟩)),
    ("request_type", .text source.requestType), ("namespace", .text source.space)]

/-! It is read back as what it says, with its texts joined. -/

theorem FieldForm.of?_reread_members (field : FieldForm) :
    FieldForm.of? (Json.reread layout (.object field.toSpec.members)) = some field.joined := by
  have found := Json.get?_reread field.toSpec.members (show Json.AreKeys ["name", "type", "required"] from
    Json.areKeys_of_subset (by decide) (by decide))
    layout
  refine FieldForm.of?_eq_some.mpr ⟨?_, ?_, ?_⟩
  all_goals
    rw [found]
    simp [List.lookup_cons, FieldSpec.members, FieldForm.toSpec, FieldForm.joined]

theorem SchemaSource.of?_told (source : SchemaSource) :
    SchemaForm.of? (Json.reread layout source.told) = some source.form.joined := by
  have keys : Json.AreKeys ["name", "fqn", "compact", "fields", "namespace"] :=
    Json.areKeys_of_subset (by decide) (by decide)
  refine SchemaForm.of?_eq_some.mpr ⟨?_, ?_, (source.fields.map fun field => Json.reread layout
    (.object field.toSpec.members)), ?_, ?_⟩
  case refine_4 =>
    rw [List.forall₂_map_left_iff]
    exact List.forall₂_map_right_iff.mpr (List.forall₂_same.mpr fun field _ => field.of?_reread_members)
  all_goals
    rw [told, Json.get?_reread _ (by exact keys)]
    simp [List.lookup_cons, form, SchemaForm.joined, Function.comp_def]

theorem CollectionSource.of?_told (source : CollectionSource) :
    CollectionForm.of? (Json.reread layout source.told) = some source.form.joined := by
  have keys : Json.AreKeys ["name", "fqn", "schema", "key", "namespace"] :=
    Json.areKeys_of_subset (by decide) (by decide)
  refine CollectionForm.of?_eq_some.mpr ⟨?_, ?_, ?_⟩
  all_goals
    rw [told, Json.get?_reread _ (by exact keys)]
    simp [List.lookup_cons, form, CollectionForm.joined, Function.comp_def]

theorem DispatchSource.of?_told (source : DispatchSource) :
    DispatchForm.of? (Json.reread layout source.told) = some source.form.joined := by
  have keys : Json.AreKeys ["name", "fqn", "request_type", "namespace"] :=
    Json.areKeys_of_subset (by decide) (by decide)
  refine DispatchForm.of?_eq_some.mpr ⟨?_, ?_⟩
  all_goals
    rw [told, Json.get?_reread _ (by exact keys)]
    simp [List.lookup_cons, form, DispatchForm.joined]

/-! In namespaces without a slash in their names it is told by what it says. -/

theorem SchemaSource.eq_of_form {left right : SchemaSource} (leftSpace : '/' ∉ left.space.toList)
    (rightSpace : '/' ∉ right.space.toList) (same : left.form = right.form) : left = right := by
  rcases left with ⟨space, path, compact, fields⟩
  rcases right with ⟨_, _, _, _⟩
  simp only [form, SchemaForm.mk.injEq] at same
  rcases same with ⟨sameAddress, rfl, rfl⟩
  cases Name.format_inj leftSpace rightSpace sameAddress
  rfl

theorem CollectionSource.eq_of_form {left right : CollectionSource} (leftSpace : '/' ∉ left.space.toList)
    (rightSpace : '/' ∉ right.space.toList) (same : left.form = right.form) : left = right := by
  rcases left with ⟨space, path, schema, key⟩
  rcases right with ⟨_, _, _, _⟩
  simp only [form, CollectionForm.mk.injEq] at same
  rcases same with ⟨sameAddress, rfl, rfl⟩
  cases Name.format_inj leftSpace rightSpace sameAddress
  rfl

theorem DispatchSource.eq_of_form {left right : DispatchSource} (leftSpace : '/' ∉ left.space.toList)
    (rightSpace : '/' ∉ right.space.toList) (same : left.form = right.form) : left = right := by
  rcases left with ⟨space, path, requestType⟩
  rcases right with ⟨_, _, _⟩
  simp only [form, DispatchForm.mk.injEq] at same
  rcases same with ⟨sameAddress, rfl⟩
  cases Name.format_inj leftSpace rightSpace sameAddress
  rfl

end Told

namespace Graph

section Plain

variable {graph : Graph} (plain : graph.IsPlain)
include plain

/-! The declarations of a plain graph. -/

theorem IsPlain.declarations_schemas_told :
    graph.toData.declarations "schemas" = graph.schemaSources.map SchemaSource.told := by
  rw [declarations_schemas, schemaSources, List.map_flatMap]
  refine List.flatMap_congr fun space spaceMem => ?_
  rw [List.map_map]
  refine List.map_congr_left fun schema schemaMem => ?_
  have isPlain := (plain.spaces space spaceMem).schemas schema schemaMem
  have fields : schema.fields.map Field.toData =
      (schema.fields.map Field.form).map fun field => .object field.toSpec.members := by
    rw [List.map_map]
    refine List.map_congr_left fun field fieldMem => ?_
    rw [Function.comp_apply, (isPlain.fields field fieldMem).toSpec_form]
    rfl
  rcases isPlain.compact with ⟨flag, isFlag⟩
  rw [Schema.toData, Data.withMember_object, isFlag, fields]
  simp [SchemaSource.told, Schema.source, isFlag, Data.bool?]

theorem IsPlain.declarations_collections_told :
    graph.toData.declarations "collections" = graph.collectionSources.map CollectionSource.told := by
  rw [declarations_collections, collectionSources, List.map_flatMap]
  refine List.flatMap_congr fun space spaceMem => ?_
  rw [List.map_map]
  refine List.map_congr_left fun collection collectionMem => ?_
  have key : collection.key = (collection.key.map fun name => (name.text?).getD "").map Data.text := by
    rw [List.map_map]
    refine (List.map_id _).symm.trans (List.map_congr_left fun name nameMem => ?_)
    rcases (plain.spaces space spaceMem).keys collection collectionMem name nameMem with ⟨text, rfl⟩
    rfl
  rw [Collection.toData, Data.withMember_object, key]
  simp [CollectionSource.told, Collection.source]

omit plain in
theorem declarations_dispatches_told :
    graph.toData.declarations "dispatches" = graph.dispatchSources.map DispatchSource.told := by
  rw [declarations_dispatches, dispatchSources, List.map_flatMap]
  refine List.flatMap_congr fun space _ => ?_
  rw [List.map_map]
  rfl

/-- Sources that tell their namespaces are in namespaces without a slash in their names. -/
theorem IsPlain.noSlash {α σ : Type} {part : Namespace → List α} {source : α → String → σ} {space : σ → String}
    (placed : ∀ declaration name, space (source declaration name) = name) :
    ∀ declared ∈ graph.spaces.flatMap fun space => (part space).map fun declaration => source declaration space.name,
      '/' ∉ (space declared).toList := by
  rw [List.forall_mem_flatMap]
  intro space spaceMem
  rw [List.forall_mem_map]
  intro declaration _
  rw [placed]
  exact (plain.spaces space spaceMem).name.2

theorem IsPlain.noSlash_schemas : ∀ source ∈ graph.schemaSources, '/' ∉ source.space.toList :=
  @IsPlain.noSlash _ plain _ _ _ Schema.source SchemaSource.space fun _ _ => rfl

theorem IsPlain.noSlash_collections : ∀ source ∈ graph.collectionSources, '/' ∉ source.space.toList :=
  @IsPlain.noSlash _ plain _ _ _ Collection.source CollectionSource.space fun _ _ => rfl

theorem IsPlain.noSlash_dispatches : ∀ source ∈ graph.dispatchSources, '/' ∉ source.space.toList :=
  @IsPlain.noSlash _ plain _ _ _ Dispatch.source DispatchSource.space fun _ _ => rfl

end Plain

section Permuted

variable {first second : Graph} (firstPlain : first.IsPlain) (secondPlain : second.IsPlain)
  (firstSettled : first.toData.allTexts Text.isSettled = true)
  (secondSettled : second.toData.allTexts Text.isSettled = true)
include firstPlain secondPlain firstSettled secondSettled

/-! What is said is the same up to the order exactly if the declarations are. -/

theorem perm_schemas_iff : (first.schemaSources.map SchemaSource.form).Perm (second.schemaSources.map SchemaSource.form) ↔
    ((first.toData.declarations "schemas").map (Json.reread layout)).Perm
      ((second.toData.declarations "schemas").map (Json.reread layout)) := by
  rw [firstPlain.declarations_schemas_told, secondPlain.declarations_schemas_told, List.map_map, List.map_map]
  have settled := List.forall_mem_append.mpr ⟨joined_schemaSources firstSettled firstPlain,
    joined_schemaSources secondSettled secondPlain⟩
  have noSlash := List.forall_mem_append.mpr ⟨firstPlain.noSlash_schemas, secondPlain.noSlash_schemas⟩
  refine perm_told_iff SchemaForm.of? (fun source sourceMem => ?_) fun left leftMem right rightMem same => ?_
  · exact source.of?_told.trans (congrArg some (settled source sourceMem))
  · exact SchemaSource.eq_of_form (noSlash left leftMem) (noSlash right rightMem) same

theorem perm_collections_iff :
    (first.collectionSources.map CollectionSource.form).Perm (second.collectionSources.map CollectionSource.form) ↔
      ((first.toData.declarations "collections").map (Json.reread layout)).Perm
        ((second.toData.declarations "collections").map (Json.reread layout)) := by
  rw [firstPlain.declarations_collections_told, secondPlain.declarations_collections_told, List.map_map, List.map_map]
  have settled := List.forall_mem_append.mpr ⟨joined_collectionSources firstSettled firstPlain,
    joined_collectionSources secondSettled secondPlain⟩
  have noSlash := List.forall_mem_append.mpr ⟨firstPlain.noSlash_collections, secondPlain.noSlash_collections⟩
  refine perm_told_iff CollectionForm.of? (fun source sourceMem => ?_) fun left leftMem right rightMem same => ?_
  · exact source.of?_told.trans (congrArg some (settled source sourceMem))
  · exact CollectionSource.eq_of_form (noSlash left leftMem) (noSlash right rightMem) same

theorem perm_dispatches_iff :
    (first.dispatchSources.map DispatchSource.form).Perm (second.dispatchSources.map DispatchSource.form) ↔
      ((first.toData.declarations "dispatches").map (Json.reread layout)).Perm
        ((second.toData.declarations "dispatches").map (Json.reread layout)) := by
  rw [declarations_dispatches_told, declarations_dispatches_told, List.map_map, List.map_map]
  have settled := List.forall_mem_append.mpr ⟨joined_dispatchSources firstSettled, joined_dispatchSources secondSettled⟩
  have noSlash := List.forall_mem_append.mpr ⟨firstPlain.noSlash_dispatches, secondPlain.noSlash_dispatches⟩
  refine perm_told_iff DispatchForm.of? (fun source sourceMem => ?_) fun left leftMem right rightMem same => ?_
  · exact source.of?_told.trans (congrArg some (settled source sourceMem))
  · exact DispatchSource.eq_of_form (noSlash left leftMem) (noSlash right rightMem) same

end Permuted

end Graph

end SpecGraph
