import SpecGraph.Proofs.Graph.Flattened
import SpecGraph.Proofs.Graph.Told
import SpecGraph.Proofs.Manifest.Again
import SpecGraph.Proofs.Manifest.History
import SpecGraph.Proofs.Manifest.Keyed

/-!
# Addresses of declarations

A stage makes an entry of each declaration, with its address: the name of its namespace and its path. The entries that
a manifest is compared with have the addresses as they were declared, and the entries of the manifest that is read back
have the addresses with their halves joined.
-/

namespace SpecGraph

open Json (areKeys_of_subset)
open Manifest (IsAddressed IndexesAll KnowsAll IsVersionedSchema IsNumbered)

namespace Graph

variable (graph : Graph)

/-- The addresses of the declarations that a stage writes, in their order. -/
def addresses : Stage → List String
  | .schema => graph.spaces.flatMap fun space => space.schemas.map fun schema => space.address schema.path
  | .storage => graph.spaces.flatMap fun space =>
      space.collections.map fun collection => space.address collection.path
  | .dispatch => graph.spaces.flatMap fun space => space.dispatches.map fun dispatch => space.address dispatch.path

/-! The entries of a stage have the addresses. -/

theorem addresses_schemaSpecs :
    graph.addresses .schema = graph.schemaSpecs.entries.map fun entry => addressOf entry.space entry.spec.name := by
  rw [Grouped.entries, schemaSpecs, List.flatMap_map, List.map_flatMap]
  refine List.flatMap_congr fun space _ => ?_
  rw [List.map_map, List.map_map]
  rfl

theorem addresses_collectionSpecs :
    graph.addresses .storage = graph.collectionSpecs.entries.map fun entry =>
      addressOf entry.space entry.spec.name := by
  rw [Grouped.entries, collectionSpecs, List.flatMap_map, List.map_flatMap]
  refine List.flatMap_congr fun space _ => ?_
  rw [List.map_map, List.map_map]
  rfl

theorem addresses_dispatchSpecs :
    graph.addresses .dispatch = graph.dispatchSpecs.entries.map fun entry =>
      addressOf entry.space entry.spec.name := by
  rw [Grouped.entries, dispatchSpecs, List.flatMap_map, List.map_flatMap]
  refine List.flatMap_congr fun space _ => ?_
  rw [List.map_map, List.map_map]
  rfl

/-- Where no text changes when its halves are joined, no address does. -/
theorem joined_addresses {graph : Graph} (plain : graph.IsPlain)
    (settled : graph.toData.allTexts Text.isSettled = true) (stage : Stage) :
    (graph.addresses stage).map Text.joined = graph.addresses stage := by
  have ofSources {σ : Type} {sources : List σ} {address : σ → String}
      (same : ∀ source ∈ sources, Text.joined (address source) = address source) :
      (sources.map address).map Text.joined = sources.map address := by
    rw [List.map_map]
    exact List.map_congr_left same
  cases stage with
  | schema =>
      have sources : graph.addresses .schema = graph.schemaSources.map fun source => source.form.address := by
        rw [schemaSources, List.map_flatMap]
        simp only [List.map_map]
        rfl
      rw [sources]
      exact ofSources fun source sourceMem =>
        congrArg SchemaForm.address (joined_schemaSources settled plain source sourceMem)
  | storage =>
      have sources : graph.addresses .storage = graph.collectionSources.map fun source => source.form.address := by
        rw [collectionSources, List.map_flatMap]
        simp only [List.map_map]
        rfl
      rw [sources]
      exact ofSources fun source sourceMem =>
        congrArg CollectionForm.address (joined_collectionSources settled plain source sourceMem)
  | dispatch =>
      have sources : graph.addresses .dispatch = graph.dispatchSources.map fun source => source.form.address := by
        rw [dispatchSources, List.map_flatMap]
        simp only [List.map_map]
        rfl
      rw [sources]
      exact ofSources fun source sourceMem =>
        congrArg DispatchForm.address (joined_dispatchSources settled source sourceMem)

end Graph

/-! An entry has the address of its declaration, and the entry that is read back has it with its halves joined. -/

theorem isAddressed_placeMembers (space name : Data) (rest : List (String × Data)) :
    IsAddressed (.object (placeMembers space name ++ rest)) (addressOf space name) := by
  rw [IsAddressed, Data.get?_object]
  simp [placeMembers, List.lookup_cons]

theorem isAddressed_reread (space name : Data) {rest : List (String × Data)}
    (keys : Json.AreKeys ((placeMembers space name ++ rest).map Prod.fst)) :
    IsAddressed (Json.reread Manifest.layout (.object (placeMembers space name ++ rest)))
      (Text.joined (addressOf space name)) := by
  rw [IsAddressed, Json.get?_reread _ keys]
  simp [placeMembers, List.lookup_cons]

namespace StageRequest

/-- What is read back of the entries of a plan has the addresses with their halves joined. -/
theorem IsPlanned.addressed {levels : Nat} {request : StageRequest} {items : List Data}
    (planned : request.IsPlanned levels items) :
    List.Forall₂ IsAddressed (items.map (Json.reread Manifest.layout)) (request.addresses.map Text.joined) := by
  rw [List.forall₂_map_left_iff, List.forall₂_map_right_iff]
  cases request with
  | schema groups root =>
      rw [addresses, List.forall₂_map_right_iff]
      refine planned.imp fun item entry versioned => ?_
      rcases versioned with ⟨fields, own, rfl, _, _⟩
      rw [schemaMembers, List.append_assoc]
      exact isAddressed_reread _ _ (show Json.AreKeys ["name", "namespace", "fqn", "compact", "fields", "version"] from
        areKeys_of_subset (by decide) (by decide))
  | storage groups schemaRoot root =>
      rw [addresses, List.forall₂_map_right_iff]
      refine planned.imp fun item entry numbered => ?_
      rcases numbered with ⟨id, rfl, _⟩
      change IsAddressed (Json.reread _ (.object (collectionMembers entry ++ _))) _
      rw [collectionMembers, List.append_assoc]
      exact isAddressed_reread _ _ (show Json.AreKeys ["name", "namespace", "fqn", "schema", "key", "id"] from
        areKeys_of_subset (by decide) (by decide))
  | dispatch groups schemaRoot root =>
      rw [addresses, List.forall₂_map_right_iff]
      refine planned.imp fun item entry numbered => ?_
      rcases numbered with ⟨id, rfl, _⟩
      change IsAddressed (Json.reread _ (.object (dispatchMembers entry ++ _))) _
      rw [dispatchMembers, List.append_assoc]
      exact isAddressed_reread _ _ (show Json.AreKeys ["name", "namespace", "fqn", "request_type", "id"] from
        areKeys_of_subset (by decide) (by decide))

/-- What is read back of the entries of a plan for collections or dispatches has ids. -/
theorem IsPlanned.numbered {levels : Nat} {request : StageRequest} {items : List Data}
    (planned : request.IsPlanned levels items) (notSchemas : request.stage ≠ .schema) :
    ∀ item ∈ items.map (Json.reread Manifest.layout), ∃ id, item.get? "id" = some id := by
  have ofEntry {α : Type} {kind : Manifest.Numbered α} {entries : List (Entry α)}
      (each : List.Forall₂ (IsNumbered kind (levels + 2)) items entries)
      (keys : ∀ entry id, Json.AreKeys ((kind.members entry ++ [("id", id)]).map Prod.fst)) :
      ∀ item ∈ items.map (Json.reread Manifest.layout), ∃ id, item.get? "id" = some id := by
    rw [List.forall_mem_map]
    intro item itemMem
    rcases Json.forall₂_exists_of_mem each itemMem with ⟨entry, _, id, rfl, _⟩
    rw [Json.get?_reread _ (keys entry id)]
    cases found : (kind.members entry ++ [("id", id)]).lookup "id" with
    | none => exact absurd (by simp) (Table.lookup_eq_none.mp found)
    | some id => exact ⟨_, rfl⟩
  cases request with
  | schema groups root => exact absurd rfl notSchemas
  | storage groups schemaRoot root =>
      exact ofEntry planned fun _ _ => show Json.AreKeys ["name", "namespace", "fqn", "schema", "key", "id"] from
        areKeys_of_subset (by decide) (by decide)
  | dispatch groups schemaRoot root =>
      exact ofEntry planned fun _ _ => show Json.AreKeys ["name", "namespace", "fqn", "request_type", "id"] from
        areKeys_of_subset (by decide) (by decide)

end StageRequest

end SpecGraph
