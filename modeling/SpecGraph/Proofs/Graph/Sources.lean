import SpecGraph.Graph.View
import SpecGraph.Proofs.Graph.Plain
import SpecGraph.Proofs.Manifest.Record

/-!
# The sources of a plain graph

A plain graph has a source for each of its declarations, so that the stages can make records of them. The
full names of the sources of a kind are told apart, since a full name has its namespace up to the first slash.
-/

namespace SpecGraph

/-- What a field says. -/
def Field.form (field : Field) : FieldForm :=
  ⟨(field.name.text?).getD "", field.type, field.required⟩

/-- A schema with the name of its namespace. -/
def Schema.source (schema : Schema) (space : String) : SchemaSource :=
  ⟨space, schema.path, (schema.compact.bool?).getD false, schema.fields.map Field.form⟩

/-- A collection with the name of its namespace. -/
def Collection.source (collection : Collection) (space : String) : CollectionSource :=
  ⟨space, collection.path, Name.format ⟨space, collection.path⟩,
    collection.key.map fun name => (name.text?).getD ""⟩

/-- A dispatch with the name of its namespace. -/
def Dispatch.source (dispatch : Dispatch) (space : String) : DispatchSource :=
  ⟨space, dispatch.path, dispatch.requestType⟩

theorem Field.IsPlain.toSpec_form {field : Field} (plain : field.IsPlain) :
    field.form.toSpec = field.toSpec := by
  obtain ⟨text, isName⟩ := plain.name
  simp [FieldForm.toSpec, form, toSpec, isName, Data.text?]

theorem Schema.IsPlain.entry_source {schema : Schema} (plain : schema.IsPlain) (space : String) :
    (schema.source space).entry = ⟨.text space, schema.toSpec⟩ := by
  obtain ⟨flag, isFlag⟩ := plain.compact
  have fields : (schema.fields.map Field.form).map FieldForm.toSpec = schema.fields.map Field.toSpec := by
    rw [List.map_map]
    exact List.map_congr_left fun field fieldMem => (plain.fields field fieldMem).toSpec_form
  simp only [SchemaSource.entry, source, toSpec, fields, isFlag, Data.bool?, Option.getD_some]

theorem Schema.IsPlain.fieldNames_source {schema : Schema} (plain : schema.IsPlain) (space : String) :
    schema.fieldNames = ((schema.source space).fields.map FieldForm.name).map Data.text := by
  rw [fieldNames, source, List.map_map, List.map_map]
  refine List.map_congr_left fun field fieldMem => ?_
  obtain ⟨text, isName⟩ := (plain.fields field fieldMem).name
  simp [Field.form, isName, Data.text?]

theorem Collection.entry_source {collection : Collection}
    (texts : ∀ name ∈ collection.key, ∃ text, name = .text text) (space : String) :
    (collection.source space).entry = ⟨.text space, collection.toSpec space⟩ := by
  have key : (collection.key.map fun name => (name.text?).getD "").map Data.text = collection.key := by
    rw [List.map_map]
    refine (List.map_congr_left fun name nameMem => ?_).trans (List.map_id _)
    obtain ⟨text, rfl⟩ := texts name nameMem
    rfl
  simp only [CollectionSource.entry, source, toSpec, key]

namespace Name

/-- What stands before the first mark and what stands after it are told by the whole. -/
theorem append_cons_inj {mark : Char} {front back rest tail : List Char} (inFront : mark ∉ front)
    (inBack : mark ∉ back) (same : front ++ mark :: rest = back ++ mark :: tail) :
    front = back ∧ rest = tail := by
  induction front generalizing back with
  | nil =>
      cases back with
      | nil => exact ⟨rfl, (List.cons.inj same).2⟩
      | cons first others =>
          obtain ⟨rfl, _⟩ := List.cons.inj same
          exact (inBack List.mem_cons_self).elim
  | cons first others ih =>
      cases back with
      | nil =>
          obtain ⟨rfl, _⟩ := List.cons.inj same
          exact (inFront List.mem_cons_self).elim
      | cons head more =>
          obtain ⟨rfl, sameRest⟩ := List.cons.inj same
          obtain ⟨rfl, rfl⟩ := ih (fun there => inFront (List.mem_cons_of_mem _ there))
            (fun there => inBack (List.mem_cons_of_mem _ there)) sameRest
          exact ⟨rfl, rfl⟩

/-- Full names are told apart by their namespaces and paths. -/
theorem format_inj {first second : Name} (firstSpace : '/' ∉ first.space.toList)
    (secondSpace : '/' ∉ second.space.toList) (same : first.format = second.format) : first = second := by
  have texts := congrArg String.toList same
  simp only [format, String.toList_append] at texts
  change '@' :: first.space.toList ++ ['/'] ++ first.path.toList =
    '@' :: second.space.toList ++ ['/'] ++ second.path.toList at texts
  simp only [List.append_assoc, List.cons_append, List.nil_append, List.cons.injEq, true_and] at texts
  obtain ⟨spaces, paths⟩ := append_cons_inj firstSpace secondSpace texts
  rcases first with ⟨firstName, firstPath⟩
  rcases second with ⟨secondName, secondPath⟩
  exact Name.mk.injEq .. ▸ ⟨String.toList_inj.mp spaces, String.toList_inj.mp paths⟩

end Name

namespace Graph

/-- The schemas in the order of the namespaces. -/
def schemaSources (graph : Graph) : List SchemaSource :=
  graph.spaces.flatMap fun space => space.schemas.map fun schema => schema.source space.name

/-- The collections in the order of the namespaces. -/
def collectionSources (graph : Graph) : List CollectionSource :=
  graph.spaces.flatMap fun space => space.collections.map fun collection => collection.source space.name

/-- The dispatches in the order of the namespaces. -/
def dispatchSources (graph : Graph) : List DispatchSource :=
  graph.spaces.flatMap fun space => space.dispatches.map fun dispatch => dispatch.source space.name

/-- No two declarations of a kind have one full name if the namespaces have distinct names without a slash, and in each
of them no two have one path. -/
theorem addresses_nodup {graph : Graph} (names : (graph.spaces.map Namespace.name).Nodup)
    (noSlash : ∀ space ∈ graph.spaces, '/' ∉ space.name.toList) {α : Type} {part : Namespace → List α} {path : α → String}
    (paths : ∀ space ∈ graph.spaces, ((part space).map path).Nodup) :
    (graph.spaces.flatMap fun space => (part space).map fun declaration =>
      Name.format ⟨space.name, path declaration⟩).Nodup := by
  refine List.nodup_flatMap.mpr ⟨fun space spaceMem => ?_, ?_⟩
  · have images : ((part space).map fun declaration => Name.format ⟨space.name, path declaration⟩) =
        ((part space).map path).map fun text => Name.format ⟨space.name, text⟩ := by
      rw [List.map_map]
      rfl
    rw [images]
    refine (paths space spaceMem).map fun first second same => ?_
    exact congrArg Name.path (Name.format_inj (noSlash space spaceMem) (noSlash space spaceMem) same)
  · refine (List.pairwise_map.mp names).imp_of_mem fun {first second} firstMem secondMem apart => ?_
    intro address inFirst inSecond
    obtain ⟨one, _, rfl⟩ := List.mem_map.mp inFirst
    obtain ⟨other, _, same⟩ := List.mem_map.mp inSecond
    exact apart (congrArg Name.space
      (Name.format_inj (noSlash second secondMem) (noSlash first firstMem) same)).symm

variable {graph : Graph} (plain : graph.IsPlain)
include plain

theorem IsPlain.entries_schemaSpecs :
    graph.schemaSpecs.entries = graph.schemaSources.map SchemaSource.entry := by
  rw [Grouped.entries, schemaSpecs, List.flatMap_map, schemaSources, List.map_flatMap]
  refine List.flatMap_congr fun space spaceMem => ?_
  dsimp only
  rw [List.map_map, List.map_map]
  exact List.map_congr_left fun schema schemaMem =>
    (((plain.spaces space spaceMem).schemas schema schemaMem).entry_source space.name).symm

theorem IsPlain.entries_collectionSpecs :
    graph.collectionSpecs.entries = graph.collectionSources.map CollectionSource.entry := by
  rw [Grouped.entries, collectionSpecs, List.flatMap_map, collectionSources, List.map_flatMap]
  refine List.flatMap_congr fun space spaceMem => ?_
  dsimp only
  rw [List.map_map, List.map_map]
  exact List.map_congr_left fun collection collectionMem =>
    (collection.entry_source ((plain.spaces space spaceMem).keys collection collectionMem)
      space.name).symm

omit plain in
theorem entries_dispatchSpecs :
    graph.dispatchSpecs.entries = graph.dispatchSources.map DispatchSource.entry := by
  rw [Grouped.entries, dispatchSpecs, List.flatMap_map, dispatchSources, List.map_flatMap]
  refine List.flatMap_congr fun space _ => ?_
  dsimp only
  rw [List.map_map, List.map_map]
  rfl

/-- No two fields of a schema have one name. -/
theorem IsPlain.fieldsDistinct (source : SchemaSource) (sourceMem : source ∈ graph.schemaSources) :
    (source.fields.map FieldForm.name).Nodup := by
  obtain ⟨space, spaceMem, inSpace⟩ := List.mem_flatMap.mp sourceMem
  obtain ⟨schema, schemaMem, rfl⟩ := List.mem_map.mp inSpace
  have isPlain := (plain.spaces space spaceMem).schemas schema schemaMem
  have distinct := isPlain.distinct
  rw [isPlain.fieldNames_source space.name] at distinct
  exact List.Nodup.of_map _ distinct

/-- No two declarations of a kind have one full name if in each namespace no two have one path. -/
theorem IsPlain.addresses_nodup {α : Type} {part : Namespace → List α} {path : α → String}
    (paths : ∀ space ∈ graph.spaces, ((part space).map path).Nodup) :
    (graph.spaces.flatMap fun space => (part space).map fun declaration =>
      Name.format ⟨space.name, path declaration⟩).Nodup :=
  Graph.addresses_nodup plain.names (fun space spaceMem => (plain.spaces space spaceMem).name.2) paths

/-- The full names of the schemas are told apart. -/
theorem IsPlain.schemaAddresses_nodup : (graph.schemaSources.map fun source => source.form.address).Nodup := by
  have distinct := plain.addresses_nodup fun space spaceMem => (plain.spaces space spaceMem).schemaPaths
  rw [schemaSources, List.map_flatMap]
  simp only [List.map_map]
  exact distinct

/-- The full names of the collections are told apart. -/
theorem IsPlain.collectionAddresses_nodup :
    (graph.collectionSources.map fun source => source.form.address).Nodup := by
  have distinct := plain.addresses_nodup fun space spaceMem => (plain.spaces space spaceMem).collectionPaths
  rw [collectionSources, List.map_flatMap]
  simp only [List.map_map]
  exact distinct

/-- The full names of the dispatches are told apart. -/
theorem IsPlain.dispatchAddresses_nodup :
    (graph.dispatchSources.map fun source => source.form.address).Nodup := by
  have distinct := plain.addresses_nodup fun space spaceMem => (plain.spaces space spaceMem).dispatchPaths
  rw [dispatchSources, List.map_flatMap]
  simp only [List.map_map]
  exact distinct

end Graph

end SpecGraph
