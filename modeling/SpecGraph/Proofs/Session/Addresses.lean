import SpecGraph.Proofs.Graph.Addresses
import SpecGraph.Proofs.Session.Counting
import SpecGraph.Proofs.Session.Sound

/-!
# Addresses are told apart

In a namespace no two declarations of a kind have one path, but paths may have slashes in them, and the address of a
declaration is the name of its namespace, a slash and its path. A name of a namespace that was read has no slash, so
the first slash of an address ends the name, and no two declarations of a kind in a builder have one address. The
tables that are made of the declarations by address never lose an entry then.

A table that is made of a manifest has the addresses as they are read back. The two halves of a code point that escapes
name one by one are read back as the code point, so such a table has all entries exactly if the addresses are still
told apart when their halves are joined.
-/

namespace SpecGraph

open Manifest (IndexesAll KnowsAll GivesAll IsAddressed index)

/-- The names of namespaces can be read. Everything else may be given. -/
def Manner.spaced : Manner where
  space := Name.IsSpace
  loose := Name.IsSpace
  path _ := True
  name _ := True
  nested _ := True
  address _ := True
  flag _ := True
  files := True

/-- No declaration changes the name of a namespace. -/
theorem Namespace.closed_isSpace : Namespace.Closed .spaced fun space => Name.IsSpace space.name where
  empty allowed := allowed.elim id id
  addSchema isSpace _ _ _ := isSpace
  addNested isSpace _ _ _ := isSpace
  addKeyed isSpace _ _ _ := isSpace
  addUnpaired isSpace _ _ _ := isSpace
  addDispatch isSpace _ _ := isSpace
  addField isSpace _ _ _ _ := isSpace
  relax _ _ isSpace := isSpace
  setKey _ _ isSpace _ := isSpace
  setCompact _ _ isSpace _ := isSpace

theorem Namespace.kept_spaced : Namespace.Kept .spaced fun space => space.IsSound ∧ Name.IsSpace space.name where
  toClosed := (closed_isSound .spaced).and closed_isSpace
  fit := ⟨fun _ isSpace _ => ⟨isSpace, trivial, trivial⟩, trivial⟩
  stray _ _ := trivial
  address _ _ := trivial

/-- In sound namespaces whose names can be read no two declarations of a kind have one address. -/
theorem Graph.Holds.nodup_addresses {graph : Graph}
    (holds : graph.Holds fun space => space.IsSound ∧ Name.IsSpace space.name) (stage : Stage) :
    (graph.addresses stage).Nodup := by
  have noSlash (space : Namespace) (spaceMem : space ∈ graph.spaces) : '/' ∉ space.name.toList :=
    (holds.spaces space spaceMem).2.2
  have distinct (kind : DeclarationKind) (space : Namespace) (spaceMem : space ∈ graph.spaces) :
      (space.paths kind).Nodup := (holds.spaces space spaceMem).1.nodup_paths kind
  cases stage with
  | schema => exact addresses_nodup holds.names noSlash (distinct .schema)
  | storage => exact addresses_nodup holds.names noSlash (distinct .collection)
  | dispatch => exact addresses_nodup holds.names noSlash (distinct .dispatch)

namespace Builder

variable (builder : Builder)

/-- What was declared, as a manifest of a stage. -/
def newManifest : Stage → Data
  | .schema => builder.newSchemas
  | .storage => builder.newCollections
  | .dispatch => builder.newDispatches

theorem request_addresses (stage : Stage) : (builder.request stage).addresses = builder.graph.addresses stage := by
  cases stage with
  | schema => exact builder.graph.addresses_schemaSpecs.symm
  | storage => exact builder.graph.addresses_collectionSpecs.symm
  | dispatch => exact builder.graph.addresses_dispatchSpecs.symm

/-- The entries that a manifest is compared with have the addresses of the declarations. -/
theorem exists_addressed (stage : Stage) :
    ∃ entries, (builder.newManifest stage).get? stage.section_ = some (.list entries) ∧
      List.Forall₂ IsAddressed entries (builder.graph.addresses stage) := by
  have ofEntries {α : Type} (entries : List (Entry α)) {data : Entry α → Data} {name : α → Data}
      (addressed : ∀ entry, IsAddressed (data entry) (addressOf entry.space (name entry.spec))) :
      List.Forall₂ IsAddressed (entries.map data) (entries.map fun entry => addressOf entry.space (name entry.spec)) := by
    rw [List.forall₂_map_left_iff, List.forall₂_map_right_iff, List.forall₂_same]
    exact fun entry _ => addressed entry
  cases stage with
  | schema =>
      refine ⟨_, by rw [newManifest, newSchemas, Data.get?_object]; rfl, ?_⟩
      rw [Graph.addresses_schemaSpecs]
      exact ofEntries _ fun entry => isAddressed_placeMembers _ _ _
  | storage =>
      refine ⟨_, by rw [newManifest, newCollections, Data.get?_object]; rfl, ?_⟩
      rw [Graph.addresses_collectionSpecs]
      exact ofEntries _ fun entry => isAddressed_placeMembers _ _ _
  | dispatch =>
      refine ⟨_, by rw [newManifest, newDispatches, Data.get?_object]; rfl, ?_⟩
      rw [Graph.addresses_dispatchSpecs]
      exact ofEntries _ fun entry => isAddressed_placeMembers _ _ _

end Builder

namespace Compile

/-- The manifest that a compile finds holds the text of a file. -/
def FindsText (compile : Compile) : Prop :=
  ∀ text, compile.before.find? compile.request.file = some (.file text) → Text.IsPlain text.toList

variable {compile : Compile} {builder : Builder} {stage : Stage} (asks : compile.request = builder.request stage)
  {version : Int} {items : List Data} (writes : compile.Writes version items)
include asks writes

/-- A manifest is read back with its entries, and these have the addresses of the declarations with their halves
joined. -/
theorem Writes.exists_addressed :
    ∃ manifest entries, compile.manifest? = some manifest ∧ manifest.get? stage.section_ = some (.list entries) ∧
      List.Forall₂ IsAddressed entries ((builder.graph.addresses stage).map Text.joined) ∧
      (stage ≠ .schema → ∀ entry ∈ entries, ∃ id, entry.get? "id" = some id) := by
  have keys : Json.AreKeys ["version", compile.request.member] := by
    rw [asks, Builder.member_request]
    exact stage.areKeys
  have isStage : compile.request.stage = stage := by
    rw [asks]
    cases stage <;> rfl
  refine ⟨_, items.map (Json.reread Manifest.layout), writes.manifest?_eq, ?_, ?_, fun notSchemas => ?_⟩
  · rw [← builder.member_request stage, ← asks]
    exact Manifest.get?_section_reread keys version items
  · rw [← builder.request_addresses, ← asks]
    exact writes.isPlanned.addressed
  · exact writes.isPlanned.numbered (by rwa [isStage])

end Compile

/-- At every moment of every session no two declarations of a kind in a builder have one address, and no table that is
made of the declarations by address loses an entry. A table that is made of the manifest that a stage of a populated
builder left has all entries exactly if the addresses stay told apart when their halves are joined. -/
theorem addresses_told_apart :
    (∀ (files : Files) (steps : List Step), Step.AllObey .spaced steps →
      ∀ world ∈ World.start files :: Session.moments (World.start files) steps, ∀ builder ∈ world.builders, ∀ stage,
        (builder.graph.addresses stage).Nodup ∧
        IndexesAll (builder.newManifest stage) stage.section_ (builder.graph.addresses stage) ∧
        ∀ previous, GivesAll previous stage.section_ (builder.graph.addresses stage)) ∧
    ∀ (compile : Compile) (builder : Builder) (stage : Stage), compile.request = builder.request stage →
      builder.graph.IsPopulated → compile.FindsText → ∃ manifest, compile.manifest? = some manifest ∧
        (IndexesAll manifest stage.section_ ((builder.graph.addresses stage).map Text.joined) ↔
          ((builder.graph.addresses stage).map Text.joined).Nodup) ∧
        (builder.graph.toData.allTexts Text.isSettled = true →
          IndexesAll manifest stage.section_ (builder.graph.addresses stage) ∧
          (stage ≠ .schema → KnowsAll manifest stage.section_ (builder.graph.addresses stage))) := by
  constructor
  · intro files steps obeys world worldMem builder builderMem stage
    have start : (World.start files).Holds .spaced fun space => space.IsSound ∧ Name.IsSpace space.name :=
      World.holds_start files
    have holds : world.Holds .spaced fun space => space.IsSound ∧ Name.IsSpace space.name := by
      rcases List.mem_cons.mp worldMem with rfl | isMoment
      · exact start
      · exact Session.good_of_mem_moments Namespace.kept_spaced.kept obeys start world isMoment
    have distinct := (holds.graphs builder builderMem).nodup_addresses stage
    rcases builder.exists_addressed stage with ⟨entries, there, addressed⟩
    exact ⟨distinct, (Manifest.indexesAll_iff there addressed).mpr distinct,
      fun previous => Manifest.givesAll previous stage.section_ distinct⟩
  · intro compile builder stage asks populated finds
    rcases Compile.exists_writes asks populated.isPlain fun _ isLoaded => Manifest.isValue_loaded finds isLoaded with
      ⟨version, items, writes⟩
    rcases writes.exists_addressed asks with ⟨manifest, entries, isManifest, there, addressed, numbered⟩
    have iff := Manifest.indexesAll_iff there addressed
    refine ⟨manifest, isManifest, iff, fun settled => ?_⟩
    have distinct : (builder.graph.addresses stage).Nodup := by
      have apart := builder.addresses_request populated.isPlain stage
      rwa [builder.request_addresses] at apart
    rw [Graph.joined_addresses populated.isPlain settled] at iff addressed
    exact ⟨iff.mpr distinct, fun notSchemas => Manifest.knowsAll there addressed (numbered notSchemas) distinct⟩

section Examples

open Session (Declares declared)
open History

/-- The schemas of a builder are written where nothing was built yet. -/
theorem exists_of_schema {steps : List Step} {number : Nat} {builder : Builder}
    (ready : Session.Ready steps number builder)
    (done : ((builder.request .schema).runOn? true .empty).map Prod.fst = some true) :
    ∃ compile : Compile, compile.request = builder.request .schema ∧ compile.FindsText ∧
      compile.manifest? = ((builder.request .schema).nextOn true .empty).schema := by
  have isPlain := Builder.isPlain_request builder ready.populated.isPlain .schema
  rw [ready.roots] at isPlain
  rcases Manifests.heldBy_empty.exists_compile isPlain done with ⟨compile, asks, before, held⟩
  have file : compile.request.file = specRoots.file .schema := by
    rw [asks, ← ready.roots]
    rfl
  refine ⟨compile, asks, fun text found => ?_, ?_⟩
  · rw [before] at found
    cases Files.textAt?_of_find? found
  · rw [Compile.manifest?, file, held.loaded_eq]
    rfl

/-- Schemas of one path in two namespaces, one of them nested below a schema whose path has slashes, and a field that
fails. -/
def crossing : List Step :=
  [making, .schema (.int 0) (.text "@x/a/b") (.bool false) [.inline (.text "c/") [] false],
    .schema (.int 0) (.text "x/a/b") .null [.field (.text "d") (.text "uint") false, .field (.text "d") (.text "uint") false]]

theorem addresses_told_apart_crossing :
    Step.AllObey .spaced crossing ∧
      (∃ builder ∈ (Session.after (World.start Files.empty) crossing).builders,
        builder.graph.addresses .schema = ["@default/x/a/b", "@x/a/b", "@x/a/b/c/"] ∧
        (builder.graph.addresses .schema).Nodup ∧
        IndexesAll (builder.newManifest .schema) "schema" (builder.graph.addresses .schema)) ∧
      ∃ (compile : Compile) (builder : Builder), compile.request = builder.request .schema ∧
        builder.graph.IsPopulated ∧ compile.FindsText ∧ builder.graph.toData.allTexts Text.isSettled = true ∧
        ∃ manifest, compile.manifest? = some manifest ∧
          IndexesAll manifest "schema" (builder.graph.addresses .schema) := by
  have obeys : Step.AllObey .spaced crossing := by
    simp [crossing, making, Step.AllObey, Step.Obeys, Action.AllObey, Action.Obeys, Manner.spaced, Command.Obeys]
  refine ⟨obeys, ?_, ?_⟩
  · have evaluated : (Session.after (World.start Files.empty) crossing).builders[0]?.map (fun builder =>
        builder.graph.addresses .schema) = some ["@default/x/a/b", "@x/a/b", "@x/a/b/c/"] := by
      decide +kernel
    rcases Option.map_eq_some_iff.mp evaluated with ⟨builder, found, areAddresses⟩
    have builderMem := List.mem_of_getElem? found
    have isMoment := Session.after_take_mem 3 crossing (World.start Files.empty)
    have told := addresses_told_apart.1 Files.empty crossing obeys _ isMoment builder builderMem .schema
    exact ⟨builder, builderMem, areAddresses, told.1, told.2.1⟩
  · rcases declares_growing.exists_ready (by decide : 1 < 2) with ⟨builder, ready⟩
    have evaluated : (declared growing).builders[1]?.any (fun builder =>
        ((builder.request .schema).runOn? true .empty).map Prod.fst = some true ∧
          builder.graph.toData.allTexts Text.isSettled = true) = true := by
      decide +kernel
    rw [ready.found, Option.any_some, decide_eq_true_iff] at evaluated
    rcases evaluated with ⟨done, settled⟩
    rcases exists_of_schema ready done with ⟨compile, asks, finds, _⟩
    rcases addresses_told_apart.2 compile builder .schema asks ready.populated finds with ⟨manifest, isManifest, _, whole⟩
    exact ⟨compile, builder, asks, ready.populated, finds, settled, manifest, isManifest, (whole settled).1⟩

/-- Two schemas are declared, one with the name of a code point and one with its two halves. -/
def meeting : List Step :=
  [making, .schema (.int 0) (.text "😀") (.bool false) [], .schema (.int 0) halves (.bool false) []]

theorem meeting_told : Declares meeting 1 ∧
    (declared meeting).builders[0]?.any (fun builder =>
      (((builder.request .schema).runOn? true .empty).map Prod.fst = some true ∧
        (builder.graph.addresses .schema).Nodup ∧ (builder.graph.addresses .schema).length = 2) ∧
      ((builder.request .schema).nextOn true .empty).schema.any (fun manifest =>
        (index manifest "schema").toOption.any fun table => table.length == 1) = true) = true := by
  decide +kernel

/-- The two schemas are under one address in the table that is made of their manifest. -/
theorem entry_lost_meeting :
    ∃ (compile : Compile) (builder : Builder), compile.request = builder.request .schema ∧
      builder.graph.IsPopulated ∧ compile.FindsText ∧ (builder.graph.addresses .schema).Nodup ∧
      (builder.graph.addresses .schema).length = 2 ∧
      ∃ manifest table, compile.manifest? = some manifest ∧ index manifest "schema" = .ok table ∧ table.length = 1 := by
  rcases meeting_told with ⟨declares, evaluated⟩
  rcases declares.exists_ready Nat.zero_lt_one with ⟨builder, ready⟩
  rw [ready.found, Option.any_some, decide_eq_true_iff] at evaluated
  rcases evaluated with ⟨⟨done, distinct, areTwo⟩, lost⟩
  rcases exists_of_schema ready done with ⟨compile, asks, finds, isManifest⟩
  rcases (Option.any_eq_true _ _).mp lost with ⟨manifest, isNext, lost⟩
  rcases (Option.any_eq_true _ _).mp lost with ⟨table, isTable, isOne⟩
  exact ⟨compile, builder, asks, ready.populated, finds, distinct, areTwo, manifest, table, isManifest.trans isNext,
    eq_ok_of_toOption isTable, beq_iff_eq.mp isOne⟩

end Examples

end SpecGraph
