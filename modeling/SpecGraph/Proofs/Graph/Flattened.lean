import SpecGraph.Graph.View
import SpecGraph.Proofs.Graph.Plain
import SpecGraph.Proofs.Manifest.Planned

/-!
# Flattened graphs

A graph as plain data has its declarations by namespace. Flattened, it has those of a kind one after the other, in the
order of the namespaces and in each of these in the order of declaration, and each tells its namespace. The entries of
a plan are these, with more numbers: one for each declaration in the same order, and none besides them.
-/

namespace SpecGraph

open Json (Carries AreKeys areKeys_of_subset)
open Manifest (IsVersionedField IsVersionedSchema IsNumbered)

namespace Data

/-- A mapping with one more member. -/
def withMember (value : Data) (name : String) (member : Data) : Data :=
  match value with
  | .map entries => .map (entries ++ [(.text name, member)])
  | other => other

theorem withMember_object (entries : List (String × Data)) (name : String) (member : Data) :
    (object entries).withMember name member = object (entries ++ [(name, member)]) := by
  rw [object, object, List.map_append]
  rfl

theorem allTexts_withMember {such : String → Bool} {value member : Data} {name : String} (isSuch : such name = true)
    (ofMember : member.allTexts such = true) (ofValue : value.allTexts such = true) :
    (value.withMember name member).allTexts such = true := by
  cases value with
  | map entries =>
      rw [allTexts_map] at ofValue
      rw [withMember, allTexts_map, List.forall_mem_append]
      exact ⟨ofValue, by simp [isSuch, ofMember]⟩
  | _ => exact ofValue

/-- The declarations of a kind in some namespaces, each with the name of its namespace. -/
def declarations (kind : String) (spaces : Data) : List Data :=
  ((spaces.list?).getD []).flatMap fun space =>
    (((space.get? kind).bind list?).getD []).map fun declaration =>
      declaration.withMember "namespace" ((space.get? "name").getD .null)

end Data

/-- The declarations that a stage writes, as they are called in a namespace. -/
def Stage.kind : Stage → String
  | .schema => "schemas"
  | .storage => "collections"
  | .dispatch => "dispatches"

/-- The member of its manifest in which a stage writes them. -/
def Stage.section_ : Stage → String
  | .schema => "schema"
  | .storage => "collections"
  | .dispatch => "dispatches"

namespace Graph

variable (graph : Graph)

/-- The schemas of a graph one after the other. -/
theorem declarations_schemas : graph.toData.declarations "schemas" = graph.spaces.flatMap fun space =>
    space.schemas.map fun schema => (schema.toData space.name).withMember "namespace" (.text space.name) := by
  simp [Data.declarations, toData, Data.list?, List.flatMap_map, Namespace.toData, List.lookup_cons,
    Function.comp_def]

/-- The collections of a graph one after the other. -/
theorem declarations_collections : graph.toData.declarations "collections" = graph.spaces.flatMap fun space =>
    space.collections.map fun collection =>
      (collection.toData space.name).withMember "namespace" (.text space.name) := by
  simp [Data.declarations, toData, Data.list?, List.flatMap_map, Namespace.toData, List.lookup_cons,
    Function.comp_def]

/-- The dispatches of a graph one after the other. -/
theorem declarations_dispatches : graph.toData.declarations "dispatches" = graph.spaces.flatMap fun space =>
    space.dispatches.map fun dispatch =>
      (dispatch.toData space.name).withMember "namespace" (.text space.name) := by
  simp [Data.declarations, toData, Data.list?, List.flatMap_map, Namespace.toData, List.lookup_cons,
    Function.comp_def]

variable {graph} {such : String → Bool}

/-- If all texts of a graph are such texts, then so are those of its declarations one after the other. -/
theorem allTexts_declarations (isSuch : such "namespace" = true) (all : graph.toData.allTexts such = true)
    (stage : Stage) : ∀ declaration ∈ graph.toData.declarations stage.kind, declaration.allTexts such = true := by
  simp only [toData, Data.allTexts_list, List.forall_mem_map, Namespace.toData, Data.allTexts_object,
    List.forall_mem_cons, Data.allTexts_text] at all
  cases stage with
  | schema =>
      rw [Stage.kind, declarations_schemas]
      simp only [List.forall_mem_flatMap, List.forall_mem_map]
      intro space spaceMem schema schemaMem
      have parts := all space spaceMem
      exact Data.allTexts_withMember isSuch parts.1.2 (parts.2.1.2 schema schemaMem)
  | storage =>
      rw [Stage.kind, declarations_collections]
      simp only [List.forall_mem_flatMap, List.forall_mem_map]
      intro space spaceMem collection collectionMem
      have parts := all space spaceMem
      exact Data.allTexts_withMember isSuch parts.1.2 (parts.2.2.1.2 collection collectionMem)
  | dispatch =>
      rw [Stage.kind, declarations_dispatches]
      simp only [List.forall_mem_flatMap, List.forall_mem_map]
      intro space spaceMem dispatch dispatchMem
      have parts := all space spaceMem
      exact Data.allTexts_withMember isSuch parts.1.2 (parts.2.2.2.1.2 dispatch dispatchMem)

end Graph

namespace Manifest

/-- The members of a manifest and of its entries that have numbers. -/
def numberNames : List String := ["version", "id"]

end Manifest

section Carries

variable {levels : Nat} {value : Data}

theorem carries_list {names : List String} {items others : List Data}
    (each : List.Forall₂ (Carries names levels) items others) :
    Carries names (levels + 1) (.list items) (.list others) := by
  rcases exists_pairs each with ⟨pairs, rfl, rfl, carries⟩
  exact .list carries

/-- A plain field with a version. -/
theorem Field.IsPlain.carries {field : Field} (plain : field.IsPlain)
    (versioned : IsVersionedField levels value field.toSpec) :
    Carries Manifest.numberNames (levels + 1) value field.toData := by
  rcases versioned with ⟨kept, rfl, carried⟩
  rcases plain.name with ⟨name, isName⟩
  rw [FieldSpec.members, toSpec, toData, isName]
  refine .object [("name", .text name, .text name), ("type", .text field.type, .text field.type),
    ("required", .bool field.required, .bool field.required)] [("version", kept)] (.refl _) (.refl _)
    (show AreKeys ["name", "type", "required", "version"] from
      areKeys_of_subset (by decide) (by decide)) ?_
    (show ∀ name ∈ ["name", "type", "required"], name ∉ Manifest.numberNames by decide)
    (show ∀ name ∈ ["version"], name ∈ Manifest.numberNames by decide) ?_
  · simp [Carries.text, Carries.bool]
  · simpa using carried

/-- A plain schema with its versions. -/
theorem Schema.IsPlain.carries {schema : Schema} (plain : schema.IsPlain) (space : String)
    (versioned : IsVersionedSchema levels value ⟨.text space, schema.toSpec⟩) :
    Carries Manifest.numberNames (levels + 3) value
      ((schema.toData space).withMember "namespace" (.text space)) := by
  rcases versioned with ⟨fields, own, rfl, carried, each⟩
  rcases plain.compact with ⟨flag, isFlag⟩
  have ofFields : Carries Manifest.numberNames (levels + 2) (.list fields) (.list (schema.fields.map Field.toData)) := by
    apply carries_list
    rw [List.forall₂_map_right_iff]
    have each : List.Forall₂ (fun value field => IsVersionedField levels value (Field.toSpec field)) fields
        schema.fields := List.forall₂_map_right_iff.mp each
    have plainEach := (List.forall₂_and_left _ _).mpr ⟨plain.fields, each.flip⟩
    exact (plainEach.imp fun field value both => both.1.carries both.2).flip
  rw [toData, isFlag, Data.withMember_object]
  refine .object [("name", .text schema.path, .text schema.path), ("namespace", .text space, .text space),
    ("fqn", .text (Name.format ⟨space, schema.path⟩), .text (Name.format ⟨space, schema.path⟩)),
    ("compact", .bool flag, .bool flag), ("fields", .list fields, .list (schema.fields.map Field.toData))]
    [("version", own)] ?_ ?_
    (show AreKeys ["name", "namespace", "fqn", "compact", "fields", "version"] from
      areKeys_of_subset (by decide) (by decide)) ?_
    (show ∀ name ∈ ["name", "namespace", "fqn", "compact", "fields"], name ∉ Manifest.numberNames by decide)
    (show ∀ name ∈ ["version"], name ∈ Manifest.numberNames by decide) ?_
  · rw [toSpec, isFlag]
    exact .refl _
  · exact .cons _ (@List.perm_append_comm _ _ [_])
  · simp [Carries.text, Carries.bool, ofFields]
  · simpa using carried

/-- A collection whose key has texts, with its id. -/
theorem Collection.carries {collection : Collection} (texts : ∀ name ∈ collection.key, ∃ text, name = .text text)
    (space : String)
    (numbered : IsNumbered Manifest.collections (levels + 2) value ⟨.text space, collection.toSpec space⟩) :
    Carries Manifest.numberNames (levels + 3) value
      ((collection.toData space).withMember "namespace" (.text space)) := by
  rcases numbered with ⟨id, rfl, carried⟩
  have ofKey : Carries Manifest.numberNames (levels + 2) (.list collection.key) (.list collection.key) := by
    apply carries_list
    rw [List.forall₂_same]
    intro name nameMem
    rcases texts name nameMem with ⟨text, rfl⟩
    exact .text
  rw [toData, Data.withMember_object]
  refine .object [("name", .text collection.path, .text collection.path),
    ("namespace", .text space, .text space),
    ("fqn", .text (Name.format ⟨space, collection.path⟩), .text (Name.format ⟨space, collection.path⟩)),
    ("schema", .text (Name.format ⟨space, collection.path⟩), .text (Name.format ⟨space, collection.path⟩)),
    ("key", .list collection.key, .list collection.key)] [("id", id)] (.refl _) ?_
    (show AreKeys ["name", "namespace", "fqn", "schema", "key", "id"] from
      areKeys_of_subset (by decide) (by decide)) ?_
    (show ∀ name ∈ ["name", "namespace", "fqn", "schema", "key"], name ∉ Manifest.numberNames by decide)
    (show ∀ name ∈ ["id"], name ∈ Manifest.numberNames by decide) ?_
  · exact .cons _ (@List.perm_append_comm _ _ [_])
  · simp [Carries.text, ofKey]
  · simpa using carried

/-- A dispatch with its id. -/
theorem Dispatch.carries (dispatch : Dispatch) (space : String)
    (numbered : IsNumbered Manifest.dispatches (levels + 2) value ⟨.text space, dispatch.toSpec⟩) :
    Carries Manifest.numberNames (levels + 3) value
      ((dispatch.toData space).withMember "namespace" (.text space)) := by
  rcases numbered with ⟨id, rfl, carried⟩
  rw [toData, Data.withMember_object]
  refine .object [("name", .text dispatch.path, .text dispatch.path),
    ("namespace", .text space, .text space),
    ("fqn", .text (Name.format ⟨space, dispatch.path⟩), .text (Name.format ⟨space, dispatch.path⟩)),
    ("request_type", .text dispatch.requestType, .text dispatch.requestType)] [("id", id)] (.refl _) ?_
    (show AreKeys ["name", "namespace", "fqn", "request_type", "id"] from
      areKeys_of_subset (by decide) (by decide)) ?_
    (show ∀ name ∈ ["name", "namespace", "fqn", "request_type"], name ∉ Manifest.numberNames by decide)
    (show ∀ name ∈ ["id"], name ∈ Manifest.numberNames by decide) ?_
  · exact .cons _ (@List.perm_append_comm _ _ [_])
  · simp [Carries.text]
  · simpa using carried

end Carries

section Entries

variable {α : Type} {part : Namespace → List α}

/-- What is related to the declarations of a kind in some namespaces, one after the other. -/
theorem forall₂_flatMap_imp {β γ : Type} {First : Data → β → Prop} {Second : Data → γ → Prop}
    {spaces : List Namespace} {before : Namespace → α → β} {after : Namespace → α → γ} {items : List Data}
    (each : ∀ space ∈ spaces, ∀ declaration ∈ part space, ∀ item, First item (before space declaration) →
      Second item (after space declaration))
    (all : List.Forall₂ First items (spaces.flatMap fun space => (part space).map (before space))) :
    List.Forall₂ Second items (spaces.flatMap fun space => (part space).map (after space)) := by
  have placed {δ : Type} (image : Namespace → α → δ) : (spaces.flatMap fun space => (part space).map (image space)) =
      (spaces.flatMap fun space => (part space).map (Prod.mk space)).map fun place => image place.1 place.2 := by
    rw [List.map_flatMap]
    simp only [List.map_map]
    rfl
  rw [placed, List.forall₂_map_right_iff] at all
  rw [placed, List.forall₂_map_right_iff]
  have inside : ∀ place ∈ spaces.flatMap fun space => (part space).map (Prod.mk space),
      place.1 ∈ spaces ∧ place.2 ∈ part place.1 := by
    intro place placeMem
    rcases List.mem_flatMap.mp placeMem with ⟨space, spaceMem, inSpace⟩
    rcases List.mem_map.mp inSpace with ⟨declaration, declarationMem, rfl⟩
    exact ⟨spaceMem, declarationMem⟩
  have both := (List.forall₂_and_left _ _).mpr ⟨inside, all.flip⟩
  exact (both.imp fun place item there => each place.1 there.1.1 place.2 there.1.2 item there.2).flip

end Entries

end SpecGraph
