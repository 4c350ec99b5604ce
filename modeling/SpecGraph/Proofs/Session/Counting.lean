import SpecGraph.Proofs.Graph.Listed
import SpecGraph.Proofs.Manifest.Counting
import SpecGraph.Proofs.Session.Decoded
import SpecGraph.Proofs.World.Rebuilt

/-!
# How versions count from compile to compile

In a series of compiles of what populated builders declared, the first manifest has the version one. Each other one has
the version of the manifest before it if their entries are the same up to the order, versions and ids aside, and one
more otherwise. So versions never fall.

This is said of the manifests as they are read back. The two halves of a code point that escapes name one by one are
read back as the code point, and are then different from what is declared again; so it is said of builders all of whose
texts are settled.
-/

namespace SpecGraph

open Manifest (loaded compose layout Follows)
open Manifest.Numbered (collectionReading dispatchReading)
open Json (reread IsValue)

/-- A plan for declarations with ids follows the one whose manifest is found. -/
theorem StageRequest.AsksFor.follows {α σ Form : Type} {kind : Manifest.Numbered α} {reading : kind.Reading σ Form}
    {first second : StageRequest} {path pathNext : Path} {olds news : List σ} (asks : first.AsksFor reading path olds)
    (asksNext : second.AsksFor reading pathNext news) (repeated : reading.IsRepeated)
    (settled : ∀ source ∈ olds, reading.joined (reading.form source) = reading.form source) {allowBefore allowNext : Bool}
    {files filesNext : Files} {version following : Int} {items others : List Data}
    (planned : first.plan allowBefore files = .ok (version, items))
    (plannedNext : second.plan allowNext filesNext = .ok (following, others))
    (isLoaded : loaded filesNext second.file = .ok (some (reread layout (compose kind.section_ version items)))) :
    Follows ((olds.map reading.form).Perm (news.map reading.form)) version following := by
  rw [asks.plan] at planned
  rcases bind_eq_ok.mp planned with ⟨_, _, planned⟩
  rcases bind_eq_ok.mp planned with ⟨_, _, planned⟩
  rcases Manifest.Numbered.exists_ids planned with ⟨_, ids, _, _, rfl⟩
  rw [asksNext.plan] at plannedNext
  rcases bind_eq_ok.mp plannedNext with ⟨_, _, plannedNext⟩
  rcases bind_eq_ok.mp plannedNext with ⟨previous, wasLoaded, plannedNext⟩
  cases isLoaded.symm.trans wasLoaded
  exact Manifest.Numbered.follows_of_plan repeated settled asks.addresses_nodup asksNext.addresses_nodup plannedNext

namespace Compile

/-- The manifest that a compile leaves. -/
def manifest? (compile : Compile) : Option Data :=
  match loaded compile.after compile.request.file with
  | .ok manifest => manifest
  | .error _ => none

theorem manifest?_of_heldBy {compile : Compile} {manifests : Manifests} (held : manifests.HeldBy compile.after)
    (isPlain : compile.request.IsPlain specRoots) : compile.manifest? = manifests.ofStage compile.request.stage := by
  rw [manifest?, Manifests.file_of_isPlain isPlain, held.loaded_eq]

/-- The version of the manifest that a compile leaves. -/
def version? (compile : Compile) : Option Int :=
  compile.manifest?.bind fun manifest => manifest.read? "version" Data.int?

/-- The entries of the manifest that a compile leaves, without their versions and ids. -/
def entries? (compile : Compile) : Option (List Data) :=
  compile.manifest?.bind fun manifest =>
    (manifest.without Manifest.numberNames).read? compile.request.member Data.list?

/-- The version after a compile is that after an earlier one if the entries are the same up to the order, and one more
otherwise. -/
def CountsFrom (next last : Compile) : Prop :=
  ∃ version entries following others, last.version? = some version ∧ last.entries? = some entries ∧
    next.version? = some following ∧ next.entries? = some others ∧
    Follows (entries.Perm others) version following

/-- The version after a compile is not less than that after an earlier one. -/
def NotBelow (later earlier : Compile) : Prop :=
  ∃ version following, earlier.version? = some version ∧ later.version? = some following ∧ version ≤ following

theorem CountsFrom.notBelow {next last : Compile} (counts : next.CountsFrom last) : next.NotBelow last := by
  rcases counts with ⟨version, _, following, _, isVersion, _, isFollowing, _, follows⟩
  exact ⟨version, following, isVersion, isFollowing, follows.le⟩

theorem NotBelow.trans {last middle first : Compile} (above : last.NotBelow middle) (below : middle.NotBelow first) :
    last.NotBelow first := by
  rcases above with ⟨version, following, isVersion, isFollowing, less⟩
  rcases below with ⟨earliest, other, isEarliest, isOther, lessBefore⟩
  cases isVersion.symm.trans isOther
  exact ⟨earliest, following, isEarliest, isFollowing, lessBefore.trans less⟩

/-- A compile wrote a plan, and its manifest can be read. -/
structure Writes (compile : Compile) (version : Int) (items : List Data) : Prop where
  /-- The compile had the plan. -/
  planned : compile.request.plan compile.allowBreaking compile.before = .ok (version, items)
  /-- The entries have numbers that can be read back. -/
  isPlanned : compile.request.IsPlanned 985 items
  /-- The manifest is loaded afterwards. -/
  isLoaded : loaded compile.after compile.request.file =
    .ok (some (reread layout (compose compile.request.member version items)))
  /-- The manifest has a form in JSON. -/
  isValue : IsValue Json.mostLevels (reread layout (compose compile.request.member version items))

theorem Writes.manifest?_eq {compile : Compile} {version : Int} {items : List Data} (writes : compile.Writes version items) :
    compile.manifest? = some (reread layout (compose compile.request.member version items)) := by
  rw [manifest?, writes.isLoaded]

section Declared

variable {compile : Compile} {builder : Builder} {stage : Stage} (asks : compile.request = builder.request stage)
  (plain : builder.graph.IsPlain)
include asks plain

/-- A compile of what a builder declared that finds no manifest, or one with a form in JSON, leaves one that can be
read. -/
theorem exists_writes (wasRead : ∀ manifest, loaded compile.before compile.request.file = .ok (some manifest) →
      IsValue Json.mostLevels manifest) : ∃ version items, compile.Writes version items := by
  rcases StageRequest.exists_written compile.succeeds with ⟨version, items, text, opened, planned, isText, isWritten⟩
  have isPlanned := StageRequest.isPlanned_of_loaded planned wasRead
  have ofBuilder := isPlanned
  rw [asks] at ofBuilder
  have carries : Json.Carries Manifest.numberNames 990 (compose compile.request.member version items)
      (builder.declared stage) := asks ▸ Builder.carries_manifest plain ofBuilder
  rcases Manifest.read_written carries isText with ⟨unbroken, isRead⟩
  have keys : Json.AreKeys ["version", compile.request.member] := by
    rw [asks, Builder.member_request]
    exact stage.areKeys
  refine ⟨version, items, planned, isPlanned, ?_, ?_⟩
  · exact Manifest.loaded_of_found (Files.find?_of_write? isWritten) (Files.isTooLong_of_write? isWritten) unbroken isRead
      (Manifest.get?_version_reread keys version items)
  · exact (carries.isTree (Json.hasText_of_write isText)).isValue_reread layout

variable {version : Int} {items : List Data} (writes : compile.Writes version items)
include writes

/-- A compile that finds no manifest leaves the first version. -/
theorem Writes.version_of_absent (absent : loaded compile.before compile.request.file = .ok none) : version = 1 := by
  have planned := writes.planned
  rw [asks] at planned absent
  cases stage with
  | schema =>
      rcases bind_eq_ok.mp planned with ⟨previous, wasLoaded, planned⟩
      cases absent.symm.trans wasLoaded
      exact Manifest.version_of_first_planSchemas planned
  | storage =>
      rw [(builder.asksFor_collections plain).plan] at planned
      rcases bind_eq_ok.mp planned with ⟨_, _, planned⟩
      rcases bind_eq_ok.mp planned with ⟨previous, wasLoaded, planned⟩
      cases absent.symm.trans wasLoaded
      exact Manifest.Numbered.version_of_first_plan planned
  | dispatch =>
      rw [(builder.asksFor_dispatches plain).plan] at planned
      rcases bind_eq_ok.mp planned with ⟨_, _, planned⟩
      rcases bind_eq_ok.mp planned with ⟨previous, wasLoaded, planned⟩
      cases absent.symm.trans wasLoaded
      exact Manifest.Numbered.version_of_first_plan planned

omit plain in
theorem Writes.version?_eq : compile.version? = some version := by
  have keys : Json.AreKeys ["version", compile.request.member] := by
    rw [asks, Builder.member_request]
    exact stage.areKeys
  rw [version?, writes.manifest?_eq, Option.bind_some, Data.read?, Manifest.get?_version_reread keys]
  rfl

/-- The entries are what JSON makes of the declarations. -/
theorem Writes.entries?_eq :
    compile.entries? = some ((builder.graph.toData.declarations stage.kind).map (reread layout)) := by
  have ofBuilder := writes.isPlanned
  rw [asks] at ofBuilder
  have carries : Json.Carries Manifest.numberNames 990 (compose (builder.request stage).member version items)
      (builder.declared stage) := Builder.carries_manifest plain ofBuilder
  have without := carries.reread_without (show layout.sorted = true from rfl)
  have keys : Json.AreKeys [stage.section_] := by
    cases stage <;> exact Json.areKeys_of_subset (by decide) (by decide)
  have isSection := Json.get?_reread [(stage.section_, .list (builder.graph.toData.declarations stage.kind))] keys layout
    stage.section_
  rw [entries?, writes.manifest?_eq, Option.bind_some, asks, without, Builder.declared, Builder.member_request,
    Data.read?, isSection, List.lookup_cons_self, Option.map_some, Json.reread_list]
  rfl

end Declared

section Next

variable {stage : Stage} {last next : Compile} {first second : Builder} (asks : last.request = first.request stage)
  (asksNext : next.request = second.request stage) (plain : first.graph.IsPlain) (plainNext : second.graph.IsPlain)
  (settled : first.graph.toData.allTexts Text.isSettled = true)
  (settledNext : second.graph.toData.allTexts Text.isSettled = true) {version following : Int} {items others : List Data}
  (writes : last.Writes version items) (writesNext : next.Writes following others)
  (same : loaded next.before next.request.file = loaded last.after last.request.file)
include asks asksNext plain plainNext settled settledNext writes writesNext same

/-- A plan follows the one whose manifest is found. -/
theorem Writes.follows :
    Follows (((first.graph.toData.declarations stage.kind).map (reread layout)).Perm
      ((second.graph.toData.declarations stage.kind).map (reread layout))) version following := by
  have isLoaded := same.trans writes.isLoaded
  have planned := writes.planned
  have plannedNext := writesNext.planned
  have isPlanned := writes.isPlanned
  rw [asks] at planned isPlanned
  rw [asksNext, asks, Builder.member_request] at isLoaded
  rw [asksNext] at plannedNext
  cases stage with
  | schema =>
      rcases bind_eq_ok.mp plannedNext with ⟨previous, wasLoaded, plannedNext⟩
      cases isLoaded.symm.trans wasLoaded
      rcases plain.exists_paired settled isPlanned with ⟨pairs, paired⟩
      rw [plainNext.entries_schemaSpecs, ← paired.areItems] at plannedNext
      have follows := Manifest.follows_of_planSchemas paired.joined paired.distinct paired.fieldsDistinct paired.versioned
        plainNext.schemaAddresses_nodup plainNext.fieldsDistinct plannedNext
      have forms : pairs.map (fun pair => pair.2.form) = first.graph.schemaSources.map SchemaSource.form := by
        rw [← paired.areSources, List.map_map]
        rfl
      rw [forms] at follows
      exact follows.congr (Graph.perm_schemas_iff plain plainNext settled settledNext)
  | storage =>
      have follows := (first.asksFor_collections plain).follows (second.asksFor_collections plainNext)
        Manifest.Numbered.Reading.isRepeated_collection (Graph.joined_collectionSources settled plain) planned plannedNext
        isLoaded
      exact follows.congr (Graph.perm_collections_iff plain plainNext settled settledNext)
  | dispatch =>
      have follows := (first.asksFor_dispatches plain).follows (second.asksFor_dispatches plainNext)
        Manifest.Numbered.Reading.isRepeated_dispatch (Graph.joined_dispatchSources settled) planned plannedNext
        isLoaded
      exact follows.congr (Graph.perm_dispatches_iff plain plainNext settled settledNext)

theorem countsFrom : next.CountsFrom last :=
  ⟨version, _, following, _, writes.version?_eq asks, writes.entries?_eq asks plain, writesNext.version?_eq asksNext,
    writesNext.entries?_eq asksNext plainNext,
    writes.follows asks asksNext plain plainNext settled settledNext writesNext same⟩

end Next

end Compile

namespace Series

variable {stage : Stage} {path : Path}

/-- Each compile of a series of what populated builders declared leaves a manifest that can be read. -/
theorem exists_writes {compiles : List Compile} (series : Series stage path compiles)
    (declared : ∀ compile ∈ compiles, ∃ builder : Builder, compile.request = builder.request stage ∧
      builder.graph.IsPopulated) : ∀ compile ∈ compiles, ∃ version items, compile.Writes version items := by
  induction series with
  | first single isStage isPath absent =>
      subst isPath
      rw [List.forall_mem_singleton] at declared ⊢
      rcases declared with ⟨builder, asks, populated⟩
      exact Compile.exists_writes asks populated.isPlain fun manifest isLoaded => nomatch absent.symm.trans isLoaded
  | @next following last rest series isStage isPath same ih =>
      rw [List.forall_mem_cons] at declared ⊢
      rcases declared with ⟨⟨builder, asks, populated⟩, earlier⟩
      rcases ih earlier last List.mem_cons_self with ⟨version, items, writes⟩
      have wasRead : ∀ manifest, loaded following.before following.request.file = .ok (some manifest) →
          IsValue Json.mostLevels manifest := by
        intro manifest isLoaded
        rw [isPath, same, ← series.isAt.2, writes.isLoaded] at isLoaded
        cases isLoaded
        exact writes.isValue
      exact ⟨Compile.exists_writes asks populated.isPlain wasRead, ih earlier⟩

/-- The first version of a series is one. -/
theorem exists_first {compiles : List Compile} (series : Series stage path compiles)
    (declared : ∀ compile ∈ compiles, ∃ builder : Builder, compile.request = builder.request stage ∧
      builder.graph.IsPopulated) : ∃ first ∈ compiles.getLast?, first.version? = some 1 := by
  induction series with
  | first single isStage isPath absent =>
      rcases (Series.first single isStage isPath absent).exists_writes declared single List.mem_cons_self with
        ⟨version, items, writes⟩
      subst isPath
      rcases declared single List.mem_cons_self with ⟨builder, asks, populated⟩
      refine ⟨single, rfl, ?_⟩
      rw [writes.version?_eq asks, writes.version_of_absent asks populated.isPlain absent]
  | next _ _ _ _ _ ih =>
      rw [List.getLast?_cons_cons]
      exact ih fun compile compileMem => declared compile (List.mem_cons_of_mem _ compileMem)

/-- What each compile of a series leaves follows what the one before it left. -/
theorem isChain_countsFrom {compiles : List Compile} (series : Series stage path compiles)
    (declared : ∀ compile ∈ compiles, ∃ builder : Builder, compile.request = builder.request stage ∧
      builder.graph.IsPopulated ∧ builder.graph.toData.allTexts Text.isSettled = true) :
    compiles.IsChain Compile.CountsFrom := by
  induction series with
  | first single isStage isPath absent => exact .singleton _
  | @next following last rest series isStage isPath same ih =>
      have all := (Series.next following series isStage isPath same).exists_writes fun compile compileMem =>
        (declared compile compileMem).imp fun _ asked => ⟨asked.1, asked.2.1⟩
      rcases List.forall_mem_cons.mp declared with ⟨⟨second, asksNext, populatedNext, settledNext⟩, earlier⟩
      rcases earlier last List.mem_cons_self with ⟨first, asks, populated, settled⟩
      rcases all following List.mem_cons_self with ⟨_, _, writesNext⟩
      rcases all last (List.mem_cons_of_mem _ List.mem_cons_self) with ⟨_, _, writes⟩
      refine .cons_cons ?_ (ih earlier)
      exact Compile.countsFrom asks asksNext populated.isPlain populatedNext.isPlain settled settledNext writes
        writesNext (by rw [isPath, same, series.isAt.2])

/-- In a series of compiles of what populated builders with settled texts declared, whatever breaking changes they
allow, the first version is one, each other one is the one before it if the entries are the same up to the order, and
one more otherwise. So no version is less than an earlier one. -/
theorem versions_count {compiles : List Compile} (series : Series stage path compiles)
    (declared : ∀ compile ∈ compiles, ∃ builder : Builder, compile.request = builder.request stage ∧
      builder.graph.IsPopulated ∧ builder.graph.toData.allTexts Text.isSettled = true) :
    (∃ first ∈ compiles.getLast?, first.version? = some 1) ∧ compiles.IsChain Compile.CountsFrom ∧
      compiles.Pairwise Compile.NotBelow := by
  have chain := series.isChain_countsFrom declared
  have isTrans : IsTrans Compile Compile.NotBelow := ⟨fun _ _ _ above below => above.trans below⟩
  refine ⟨?_, chain, (chain.imp fun _ _ counts => counts.notBelow).pairwise⟩
  exact series.exists_first fun compile compileMem => (declared compile compileMem).imp fun _ asked =>
    ⟨asked.1, asked.2.1⟩

section Examples

open Session (Declares declared)
open History

/-- Two builders write their schemas one after the other where nothing was built yet. -/
theorem exists_of_schemas {first second : Builder} (plain : first.graph.IsPlain) (plainNext : second.graph.IsPlain)
    (roots : first.roots = specRoots) (rootsNext : second.roots = specRoots)
    (done : ((first.request .schema).runOn? true .empty).map Prod.fst = some true)
    (doneNext : ((second.request .schema).runOn? true ((first.request .schema).nextOn true .empty)).map Prod.fst =
      some true) :
    ∃ last next : Compile, last.request = first.request .schema ∧ next.request = second.request .schema ∧
      Series .schema (specRoots.file .schema) [next, last] ∧
      last.manifest? = ((first.request .schema).nextOn true .empty).schema ∧
      next.manifest? = ((second.request .schema).nextOn true ((first.request .schema).nextOn true .empty)).schema := by
  have isPlain := Builder.isPlain_request first plain .schema
  have isPlainNext := Builder.isPlain_request second plainNext .schema
  rw [roots] at isPlain
  rw [rootsNext] at isPlainNext
  rcases exists_compiles isPlain isPlainNext rfl done doneNext with
    ⟨last, next, isLast, isNext, series, held, heldNext⟩
  refine ⟨last, next, isLast, isNext, series, ?_, ?_⟩
  · rw [Compile.manifest?_of_heldBy held (isLast ▸ isPlain), isLast]
    rfl
  · rw [Compile.manifest?_of_heldBy heldNext (isNext ▸ isPlainNext), isNext]
    rfl

/-- A schema is written, and then with another field. -/
theorem versions_count_growing :
    ∃ last next : Compile, Series .schema (specRoots.file .schema) [next, last] ∧
      (∀ compile ∈ [next, last], ∃ builder : Builder, compile.request = builder.request .schema ∧
        builder.graph.IsPopulated ∧ builder.graph.toData.allTexts Text.isSettled = true) ∧
      last.version? = some 1 ∧ next.CountsFrom last ∧ next.NotBelow last := by
  rcases declares_growing.exists_ready (by decide : 0 < 2) with ⟨first, ready⟩
  rcases declares_growing.exists_ready (by decide : 1 < 2) with ⟨second, readyNext⟩
  have evaluated : (declared growing).builders[0]?.any (fun first => (declared growing).builders[1]?.any fun second =>
      (((first.request .schema).runOn? true .empty).map Prod.fst = some true ∧
        ((second.request .schema).runOn? true ((first.request .schema).nextOn true .empty)).map Prod.fst = some true) ∧
      first.graph.toData.allTexts Text.isSettled = true ∧ second.graph.toData.allTexts Text.isSettled = true) = true := by
    decide +kernel
  rw [ready.found, Option.any_some, readyNext.found, Option.any_some, decide_eq_true_iff] at evaluated
  rcases evaluated with ⟨⟨done, doneNext⟩, settled, settledNext⟩
  rcases exists_of_schemas ready.populated.isPlain readyNext.populated.isPlain ready.roots readyNext.roots done doneNext
    with ⟨last, next, isLast, isNext, series, _, _⟩
  have declared : ∀ compile ∈ [next, last], ∃ builder : Builder, compile.request = builder.request .schema ∧
      builder.graph.IsPopulated ∧ builder.graph.toData.allTexts Text.isSettled = true := by
    rw [List.forall_mem_cons, List.forall_mem_singleton]
    exact ⟨⟨second, isNext, readyNext.populated, settledNext⟩, first, isLast, ready.populated, settled⟩
  rcases series.versions_count declared with ⟨⟨compile, isFirst, isOne⟩, chain, pairwise⟩
  cases isFirst
  exact ⟨last, next, series, declared, isOne, List.isChain_pair.mp chain, List.pairwise_pair.mp pairwise⟩

/-- A schema whose name has the two halves of a code point is written twice, and the entries are the same. -/
theorem version_grows_halved :
    ∃ last next : Compile, Series .schema (specRoots.file .schema) [next, last] ∧
      (∀ compile ∈ [next, last], ∃ builder : Builder, compile.request = builder.request .schema ∧
        builder.graph.IsPopulated) ∧
      last.version? = some 1 ∧ next.version? = some 2 ∧ ∃ entries, last.entries? = some entries ∧
        next.entries? = some entries := by
  rcases declares_halved.exists_ready Nat.zero_lt_one with ⟨builder, ready⟩
  have evaluated : (declared halved).builders[0]?.any (fun builder =>
      let once := (builder.request .schema).nextOn true .empty
      let twice := (builder.request .schema).nextOn true once
      (((builder.request .schema).runOn? true .empty).map Prod.fst = some true ∧
        ((builder.request .schema).runOn? true once).map Prod.fst = some true) ∧
      once.schema.bind (fun manifest => manifest.read? "version" Data.int?) = some 1 ∧
      twice.schema.bind (fun manifest => manifest.read? "version" Data.int?) = some 2) = true := by
    decide +kernel
  rw [ready.found, Option.any_some, decide_eq_true_iff] at evaluated
  rcases evaluated with ⟨⟨done, doneNext⟩, isOne, isTwo⟩
  have plain := ready.populated.isPlain
  rcases exists_of_schemas plain plain ready.roots ready.roots done doneNext with
    ⟨last, next, isLast, isNext, series, lastLeft, nextLeft⟩
  have declared : ∀ compile ∈ [next, last], ∃ builder : Builder, compile.request = builder.request .schema ∧
      builder.graph.IsPopulated := by
    rw [List.forall_mem_cons, List.forall_mem_singleton]
    exact ⟨⟨builder, isNext, ready.populated⟩, builder, isLast, ready.populated⟩
  rcases series.exists_writes declared last (by simp) with ⟨_, _, writes⟩
  rcases series.exists_writes declared next (by simp) with ⟨_, _, writesNext⟩
  refine ⟨last, next, series, declared, ?_, ?_, _, writes.entries?_eq isLast plain, writesNext.entries?_eq isNext plain⟩
  · rw [Compile.version?, lastLeft, isOne]
  · rw [Compile.version?, nextLeft, isTwo]

end Examples

end Series

end SpecGraph
