import SpecGraph.Proofs.Session.Decoded
import SpecGraph.Proofs.World.Rebuilt

/-!
# Building again what was built

When a builder was finalized with success, whatever was found below its roots, then another builder with the same
roots and the same declarations has no changes to report and is finalized with success, and all three manifests have
the texts that they had. The two halves of a code point that escapes name one by one are read back as the code point,
so a declaration that has them is not found again.
-/

namespace SpecGraph

open Effect

section Finalizing

variable {world later : World} {number again : Nat} {first second : Builder} {allowBefore allowBreaking : Bool}
  (found : world.builders[number]? = some first) (populated : first.graph.IsPopulated)
  (manifests : first.pipelines = Pipelines.manifests allowBefore) (texts : first.FindsTexts world.workspace.files)
  (succeeds : (perform (Run.finalize number) world).1 = .ok ())
  (foundAgain : later.builders[again]? = some second) (isOpen : second.frozen = false)
  (manifestsAgain : second.pipelines = Pipelines.manifests allowBreaking) (sameRoots : second.roots = first.roots)
  (sameDeclarations : second.graph.toData = first.graph.toData)
  (sameFiles : later.workspace.files = (perform (Run.finalize number) world).2.workspace.files)
  (settled : first.graph.toData.allTexts Text.isSettled = true)
include found populated manifests texts succeeds foundAgain isOpen manifestsAgain sameRoots sameDeclarations sameFiles
  settled

/-- What was built and is built again has no changes and is finalized with success, and no manifest changes. -/
theorem rebuild_keeps_manifests :
    (∃ changes, (perform (Run.ofJob second.changes) later).1 = .ok changes ∧
      Manifest.isCompatible changes = true ∧ changes = []) ∧
    (perform (Run.finalize again) later).1 = .ok () ∧
    ∀ stage, ∃ text,
      (perform (Run.finalize number) world).2.workspace.files.find? (second.request stage).file =
        some (.file text) ∧
      (perform (Run.finalize again) later).2.workspace.files.find? (second.request stage).file =
        some (.file text) := by
  rcases Run.perform_finalize_of_open found (Run.open_of_finalize found succeeds) with ⟨log, finalized⟩
  rw [finalized] at succeeds sameFiles ⊢
  rcases Builder.exists_built manifests succeeds with ⟨built⟩
  have requests := Builder.request_of_toData sameRoots sameDeclarations
  have stand : built.Stand later.workspace.files := sameFiles ▸ fun stage => (built.wrote stage).stands
  have reported : (perform (Run.ofJob second.changes) later).1 = .ok [] := by
    rw [Run.perform_ofJob]
    refine (congrArg Prod.fst (second.tells_changes later.workspace)).trans ?_
    exact (Builder.changesIn_of_toData sameRoots sameDeclarations _).trans
      (built.changesIn_eq_nil manifests populated.isPlain texts stand settled)
  rcases Run.perform_finalize_of_open foundAgain isOpen with ⟨logAgain, finalizedAgain⟩
  rcases built.runAll_again manifests populated.isPlain texts settled manifestsAgain requests again stand
    [.schema, .storage, .dispatch] with ⟨succeedsAgain, standAgain⟩
  rw [finalizedAgain]
  refine ⟨⟨[], reported, rfl, rfl⟩, succeedsAgain, fun stage => ⟨built.text stage ++ "\n", ?_, ?_⟩⟩
  · rw [requests]
    exact (built.wrote stage).stands.found
  · rw [requests]
    exact (standAgain stage).found

end Finalizing

section Examples

open Session (Declares declared)
open History

/-- Two builders declare a collection and a dispatch, one as the other. -/
def repeating : List Step :=
  [making, keyed 0 "item", .command (.dispatchTo (.int 0) (.text "put") (.text "item")),
    making, keyed 1 "item", .command (.dispatchTo (.int 1) (.text "put") (.text "item"))]

theorem repeating_told : Declares repeating 2 ∧
    (declared repeating).builders[0]?.any (fun first => (declared repeating).builders[1]?.any fun second =>
      [Stage.schema, .storage, .dispatch].all (first.outcomeOn? .empty · = some true) &&
      (second.graph.toData.isEqual first.graph.toData && first.graph.toData.allTexts Text.isSettled)) = true := by
  decide +kernel

theorem declares_repeating : Declares repeating 2 := repeating_told.1

/-- A collection and a dispatch are built, and then another builder builds the same. -/
theorem rebuild_keeps_manifests_repeating :
    ∃ world first second, world.builders[0]? = some first ∧ world.builders[1]? = some second ∧
      first.graph.IsPopulated ∧ second.graph.IsPopulated ∧ second.graph.toData = first.graph.toData ∧
      (perform (Run.finalize 0) world).1 = .ok () ∧
      (∃ changes, (perform (Run.ofJob second.changes) (perform (Run.finalize 0) world).2).1 = .ok changes ∧
        Manifest.isCompatible changes = true ∧ changes = []) ∧
      (perform (Run.finalize 1) (perform (Run.finalize 0) world).2).1 = .ok () ∧
      ∀ stage, ∃ text,
        (perform (Run.finalize 0) world).2.workspace.files.find? (second.request stage).file = some (.file text) ∧
        (perform (Run.finalize 1) (perform (Run.finalize 0) world).2).2.workspace.files.find?
          (second.request stage).file = some (.file text) := by
  rcases declares_repeating.exists_ready (by decide : 0 < 2) with ⟨first, ready⟩
  rcases declares_repeating.exists_ready (by decide : 1 < 2) with ⟨second, readyAgain⟩
  have evaluated := repeating_told.2
  rw [ready.found, Option.any_some, readyAgain.found, Option.any_some, Bool.and_eq_true, Bool.and_eq_true] at evaluated
  rcases evaluated with ⟨runs, isEqual, settled⟩
  have same := Data.eq_of_isEqual isEqual
  have succeeds := declares_repeating.finalize_eq_ok ready runs
  refine ⟨_, first, second, ready.found, readyAgain.found, ready.populated, readyAgain.populated, same, succeeds, ?_⟩
  exact rebuild_keeps_manifests ready.found ready.populated ready.manifests ready.texts succeeds
    ((getElem?_finalize (by decide) ready.found ready.isOpen).trans readyAgain.found) readyAgain.isOpen
    readyAgain.manifests (readyAgain.roots.trans ready.roots.symm) same rfl settled

/-- Two builders declare a schema whose name is made of the two halves of a code point. -/
def halvedTwice : List Step :=
  [making, .schema (.int 0) halves (.bool false) [], making, .schema (.int 1) halves (.bool false) []]

theorem halvedTwice_told : Declares halvedTwice 2 ∧
    (declared halvedTwice).builders[0]?.any (fun first =>
      (declared halvedTwice).builders[1]?.any fun second =>
        ([Stage.schema, .storage, .dispatch].all (first.outcomeOn? .empty · = some true) &&
          second.graph.toData.isEqual first.graph.toData) &&
        (Builder.follow? (declared halvedTwice).builders [0] .empty).any fun manifests =>
          second.outcomeOn? manifests .schema = some false) = true := by
  decide +kernel

theorem declares_halvedTwice : Declares halvedTwice 2 := halvedTwice_told.1

/-- A schema whose name has the two halves of a code point is built, and the same cannot be built again. -/
theorem rebuild_refused_halvedTwice :
    ∃ world first second, world.builders[0]? = some first ∧ world.builders[1]? = some second ∧
      first.graph.IsPopulated ∧ second.graph.IsPopulated ∧ second.graph.toData = first.graph.toData ∧
      first.pipelines = Pipelines.manifests false ∧ second.pipelines = Pipelines.manifests false ∧
      second.roots = first.roots ∧ second.frozen = false ∧ first.FindsTexts world.workspace.files ∧
      (perform (Run.finalize 0) world).1 = .ok () ∧
      (perform (Run.finalize 1) (perform (Run.finalize 0) world).2).1 ≠ .ok () := by
  rcases declares_halvedTwice.exists_ready (by decide : 0 < 2) with ⟨first, ready⟩
  rcases declares_halvedTwice.exists_ready (by decide : 1 < 2) with ⟨second, readyAgain⟩
  have evaluated := halvedTwice_told.2
  rw [ready.found, Option.any_some, readyAgain.found, Option.any_some, Bool.and_eq_true, Bool.and_eq_true] at evaluated
  rcases evaluated with ⟨⟨runs, isEqual⟩, evaluated⟩
  rcases (Option.any_eq_true _ _).mp evaluated with ⟨manifests, followed, refused⟩
  have start : (declared halvedTwice).CanBuild specRoots [0] := declares_halvedTwice.canBuild (by decide : 1 ≤ 2)
  have held := start.heldBy declares_halvedTwice.held followed
  rw [World.afterFinalizing, List.foldl_cons, List.foldl_nil] at held
  refine ⟨_, first, second, ready.found, readyAgain.found, ready.populated, readyAgain.populated,
    Data.eq_of_isEqual isEqual, ready.manifests, readyAgain.manifests, readyAgain.roots.trans ready.roots.symm,
    readyAgain.isOpen, ready.texts, declares_halvedTwice.finalize_eq_ok ready runs, ?_⟩
  have there := (getElem?_finalize (by decide) ready.found ready.isOpen).trans readyAgain.found
  rcases Run.perform_finalize_of_open there readyAgain.isOpen with ⟨log, finalized⟩
  rw [finalized]
  intro built
  have ofSchema := (second.runAll_calls_eq_ok_iff 1 _).mp built .schema
  have refusedThere : second.Succeeds 1 _ .schema ↔ false = true :=
    (held.outcomeOn readyAgain.populated.isPlain ⟨readyAgain.roots, readyAgain.manifests⟩ (of_decide_eq_true refused)).2
  exact absurd (refusedThere.mp ofSchema) Bool.false_ne_true

end Examples

end SpecGraph
