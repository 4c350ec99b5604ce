import SpecGraph.Proofs.Data.Same
import SpecGraph.Proofs.Graph.Sources

/-!
# What the data of a graph tells

The stages are given all that the data of a graph has, so graphs with the same data are written alike. If no text of
the data has the halves of a code point, then each declaration is read back as it was declared.
-/

namespace SpecGraph

theorem map_eq_of_map_eq {α β γ : Type} {first : α → β} {second : α → γ} [Nonempty γ]
    (tells : ∀ {left right}, first left = first right → second left = second right) {lefts rights : List α}
    (same : lefts.map first = rights.map first) : lefts.map second = rights.map second := by
  rcases (Function.factorsThrough_iff second).mp fun _ _ => tells with ⟨through, rfl⟩
  rw [← List.map_map, same, List.map_map]

theorem Data.object_inj {entries others : List (String × Data)} (same : object entries = object others) :
    entries = others := by
  have injective : Function.Injective fun entry : String × Data => (Data.text entry.1, entry.2) := by
    intro first second same
    simpa [Prod.ext_iff] using same
  exact injective.list_map (Data.map.inj same)

/-! The records that a stage is given are told by the data. -/

theorem Field.toSpec_of_toData {first second : Field} (same : first.toData = second.toData) :
    first.toSpec = second.toSpec := by
  have members := Data.object_inj same
  simp only [List.cons.injEq, Prod.mk.injEq, Data.text.injEq, Data.bool.injEq, true_and, and_true] at members
  simp [toSpec, members]

theorem Schema.toSpec_of_toData {space : String} {first second : Schema}
    (same : first.toData space = second.toData space) : first.toSpec = second.toSpec := by
  have members := Data.object_inj same
  simp only [List.cons.injEq, Prod.mk.injEq, Data.text.injEq, Data.list.injEq, true_and, and_true] at members
  rcases members with ⟨path, _, flag, fields⟩
  simp [toSpec, path, flag, map_eq_of_map_eq Field.toSpec_of_toData fields]

theorem Collection.toSpec_of_toData {space : String} {first second : Collection}
    (same : first.toData space = second.toData space) : first.toSpec space = second.toSpec space := by
  have members := Data.object_inj same
  simp only [List.cons.injEq, Prod.mk.injEq, Data.text.injEq, Data.list.injEq, true_and, and_true] at members
  simp [toSpec, members]

theorem Dispatch.toSpec_of_toData {space : String} {first second : Dispatch}
    (same : first.toData space = second.toData space) : first.toSpec = second.toSpec := by
  have members := Data.object_inj same
  simp only [List.cons.injEq, Prod.mk.injEq, Data.text.injEq, true_and, and_true] at members
  simp [toSpec, members]

/-- Namespaces with the same data have the same records. -/
theorem Namespace.specs_of_toData {first second : Namespace} (same : first.toData = second.toData) :
    first.name = second.name ∧ first.schemas.map Schema.toSpec = second.schemas.map Schema.toSpec ∧
      (first.collections.map fun collection => collection.toSpec first.name) =
        (second.collections.map fun collection => collection.toSpec second.name) ∧
      first.dispatches.map Dispatch.toSpec = second.dispatches.map Dispatch.toSpec := by
  have members := Data.object_inj same
  simp only [List.cons.injEq, Prod.mk.injEq, Data.text.injEq, Data.list.injEq, true_and, and_true] at members
  rcases members with ⟨name, schemas, collections, dispatches⟩
  rw [name] at schemas collections dispatches ⊢
  exact ⟨rfl, map_eq_of_map_eq Schema.toSpec_of_toData schemas,
    map_eq_of_map_eq Collection.toSpec_of_toData collections, map_eq_of_map_eq Dispatch.toSpec_of_toData dispatches⟩

namespace Graph

section Specs

variable {first second : Graph} (same : first.toData = second.toData)
include same

theorem schemaSpecs_of_toData : first.schemaSpecs = second.schemaSpecs := by
  refine map_eq_of_map_eq (fun same => ?_) (Data.list.inj same)
  rcases Namespace.specs_of_toData same with ⟨name, schemas, _⟩
  rw [name, schemas]

theorem collectionSpecs_of_toData : first.collectionSpecs = second.collectionSpecs := by
  refine map_eq_of_map_eq (fun same => ?_) (Data.list.inj same)
  rcases Namespace.specs_of_toData same with ⟨name, _, collections, _⟩
  rw [collections, name]

theorem dispatchSpecs_of_toData : first.dispatchSpecs = second.dispatchSpecs := by
  refine map_eq_of_map_eq (fun same => ?_) (Data.list.inj same)
  rcases Namespace.specs_of_toData same with ⟨name, _, _, dispatches⟩
  rw [name, dispatches]

end Specs

section Settled

variable {graph : Graph} (settled : graph.toData.allTexts Text.isSettled = true)
include settled

/-- A graph has settled texts in each declaration. -/
theorem allTexts_parts : ∀ space ∈ graph.spaces,
    (∀ schema ∈ space.schemas, (schema.toData space.name).allTexts Text.isSettled = true) ∧
      (∀ collection ∈ space.collections, (collection.toData space.name).allTexts Text.isSettled = true) ∧
      ∀ dispatch ∈ space.dispatches, (dispatch.toData space.name).allTexts Text.isSettled = true := by
  simp only [toData, Data.allTexts_list, List.forall_mem_map, Namespace.toData, Data.allTexts_object,
    List.forall_mem_cons] at settled
  intro space spaceMem
  have parts := settled space spaceMem
  exact ⟨parts.2.1.2, parts.2.2.1.2, parts.2.2.2.1.2⟩

theorem joined_schemaSources (plain : graph.IsPlain) :
    ∀ source ∈ graph.schemaSources, source.form.joined = source.form := by
  rw [schemaSources, List.forall_mem_flatMap]
  intro space spaceMem
  rw [List.forall_mem_map]
  intro schema schemaMem
  have isPlain := (plain.spaces space spaceMem).schemas schema schemaMem
  have texts := (allTexts_parts settled space spaceMem).1 schema schemaMem
  simp only [Schema.toData, Data.allTexts_object, List.forall_mem_cons, Data.allTexts_text, Data.allTexts_list,
    List.forall_mem_map] at texts
  have address : Text.joined (Name.format ⟨space.name, schema.path⟩) = Name.format ⟨space.name, schema.path⟩ :=
    beq_iff_eq.mp texts.2.1.2
  have fields : (schema.fields.map Field.form).map FieldForm.joined = schema.fields.map Field.form := by
    rw [List.map_map]
    refine List.map_congr_left fun field fieldMem => ?_
    rcases (isPlain.fields field fieldMem).name with ⟨name, isName⟩
    have ofField := texts.2.2.2.1.2 field fieldMem
    simp only [Field.toData, isName, Data.allTexts_object, List.forall_mem_cons, Data.allTexts_text, Text.isSettled,
      beq_iff_eq] at ofField
    simp [FieldForm.joined, Field.form, isName, Data.text?, ofField]
  simp [SchemaForm.joined, SchemaSource.form, Schema.source, address, fields]

theorem joined_collectionSources (plain : graph.IsPlain) :
    ∀ source ∈ graph.collectionSources, source.form.joined = source.form := by
  rw [collectionSources, List.forall_mem_flatMap]
  intro space spaceMem
  rw [List.forall_mem_map]
  intro collection collectionMem
  have texts := (allTexts_parts settled space spaceMem).2.1 collection collectionMem
  simp only [Collection.toData, Data.allTexts_object, List.forall_mem_cons, Data.allTexts_text, Data.allTexts_list,
    Text.isSettled, beq_iff_eq] at texts
  have key : ((collection.key.map fun name => (name.text?).getD "").map Text.joined) =
      collection.key.map fun name => (name.text?).getD "" := by
    rw [List.map_map]
    refine List.map_congr_left fun name nameMem => ?_
    rcases (plain.spaces space spaceMem).keys collection collectionMem name nameMem with ⟨text, rfl⟩
    exact beq_iff_eq.mp (texts.2.2.2.1.2 _ nameMem)
  simp [CollectionForm.joined, CollectionSource.form, Collection.source, texts, key]

theorem joined_dispatchSources : ∀ source ∈ graph.dispatchSources, source.form.joined = source.form := by
  rw [dispatchSources, List.forall_mem_flatMap]
  intro space spaceMem
  rw [List.forall_mem_map]
  intro dispatch dispatchMem
  have texts := (allTexts_parts settled space spaceMem).2.2 dispatch dispatchMem
  simp only [Dispatch.toData, Data.allTexts_object, List.forall_mem_cons, Data.allTexts_text, Text.isSettled,
    beq_iff_eq] at texts
  simp [DispatchForm.joined, DispatchSource.form, Dispatch.source, texts]

end Settled

end Graph

end SpecGraph
