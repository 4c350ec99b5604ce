import Mathlib.Order.Monotone.Defs
import SpecGraph.Proofs.Session.Plain
import SpecGraph.Proofs.World.Builds

/-!
# Histories of builds

A history is a list of plain steps, taken in a world without builders where there are no manifests under some
roots, such that all builders are built under these roots by the pipelines that write manifests and allow no
breaking change. Its moments are the numbers of calls of stages that were made.

At every moment what is persisted can be read, under two conditions on the calls. No call writes two
declarations whose full names become one when the halves of their code points are joined, since the manifest
would not tell them apart. And the calls are so few that the numbers of the manifests can be shown.

In the histories that are met as examples everything is declared first, and then the builders are finalized in
turn. What is persisted can then be followed from builder to builder.
-/

namespace SpecGraph

namespace Session

/-- Plain steps keep the world plain. -/
theorem isPlain_after {files : Files} {made : List StageCall} {steps : List Step}
    (arePlain : Step.arePlain steps = true) {world : World} (plain : world.IsPlain files made) :
    (after world steps).IsPlain files made := by
  induction steps generalizing world with
  | nil => exact plain
  | cons step rest ih =>
      rw [Step.arePlain, Bool.and_eq_true] at arePlain
      exact ih arePlain.2 (keeps_take World.kept_isPlain step (step.obeys_of_isPlain arePlain.1 fun _ _ => trivial) world plain)

end Session

theorem Step.arePlain_iff {steps : List Step} :
    arePlain steps = true ↔ ∀ step ∈ steps, step.isPlain = true := by
  induction steps with
  | nil => simp [arePlain]
  | cons step rest ih => rw [arePlain, Bool.and_eq_true, ih, List.forall_mem_cons]

/-- A history of builders under some roots that starts without manifests. -/
structure History (roots : Roots) where
  /-- The file tree at the start. -/
  files : Files
  /-- The steps. -/
  steps : List Step
  /-- There are no manifests at the start. -/
  fresh : ∀ stage, files.textAt? (roots.place stage) = none
  /-- The steps are plain. -/
  plain : Step.arePlain steps = true
  /-- All builders write manifests under the roots and allow no breaking change. -/
  builds : ∀ builder ∈ (Session.after (World.start files) steps).builders, builder.BuildsIn roots

namespace History

variable {roots : Roots} (history : History roots)

/-- The world in which the history ends. -/
def world : World := Session.after (World.start history.files) history.steps

/-- The calls of the history. -/
def calls : List StageCall := history.world.calls

/-- The file tree at a moment. -/
def filesAt (moment : Nat) : Files := StageCall.replay history.files (history.calls.take moment)

/-- No call writes declarations whose full names become one when their texts are joined. -/
def KeepsApart : Prop := ∀ call ∈ history.calls, call.request.KeepsApart

/-- The numbers of the manifests can be shown. -/
def IsShown : Prop := StageCall.weight history.calls < Text.leastUnshown

instance : Decidable history.KeepsApart :=
  inferInstanceAs (Decidable (∀ call ∈ history.calls, call.request.KeepsApart))

instance : Decidable history.IsShown :=
  inferInstanceAs (Decidable (StageCall.weight history.calls < Text.leastUnshown))

theorem isPlain_world : history.world.IsPlain history.files [] :=
  Session.isPlain_after history.plain (World.isPlain_start history.files)

/-- The world after the first steps. -/
def worldAfter (count : Nat) : World :=
  Session.after (World.start history.files) (history.steps.take count)

theorem isPlain_worldAfter (count : Nat) : (history.worldAfter count).IsPlain history.files [] :=
  Session.isPlain_after (Step.arePlain_iff.mpr fun step stepMem =>
    Step.arePlain_iff.mp history.plain step (List.mem_of_mem_take stepMem)) (World.isPlain_start history.files)

/-- The number of calls that were made in the first steps. -/
def momentAfter (count : Nat) : Nat := (history.worldAfter count).calls.length

/-- The calls of the first steps are the first ones among the calls of more steps. -/
theorem calls_prefix {first second : Nat} (before : first ≤ second) :
    (history.worldAfter first).calls <+: (history.worldAfter second).calls := by
  have split : history.steps.take second =
      history.steps.take first ++ (history.steps.take second).drop first := by
    have whole := List.take_append_drop first (history.steps.take second)
    rw [List.take_take, Nat.min_eq_left before] at whole
    exact whole.symm
  have start : (history.worldAfter first).IsPlain history.files (history.worldAfter first).calls :=
    { history.isPlain_worldAfter first with kept := List.prefix_refl _ }
  have rest : Step.arePlain ((history.steps.take second).drop first) = true :=
    Step.arePlain_iff.mpr fun step stepMem =>
      Step.arePlain_iff.mp history.plain step (List.mem_of_mem_take (List.mem_of_mem_drop stepMem))
  have ended := Session.isPlain_after rest start
  rw [worldAfter, ← Session.after_append, ← split] at ended
  exact ended.kept

theorem monotone_momentAfter : Monotone history.momentAfter :=
  fun _ _ before => (history.calls_prefix before).length_le

/-- The file tree after the first steps is the one after their calls. -/
theorem files_worldAfter (count : Nat) :
    (history.worldAfter count).workspace.files = history.filesAt (history.momentAfter count) := by
  have ended : history.worldAfter (max count history.steps.length) = history.world := by
    rw [worldAfter, List.take_of_length_le (Nat.le_max_right _ _)]
    rfl
  have first := history.calls_prefix (Nat.le_max_left count history.steps.length)
  rw [ended] at first
  rw [filesAt, momentAfter, calls, ← List.prefix_iff_eq_take.mp first]
  exact (history.isPlain_worldAfter count).files

variable {history}

theorem isPlain_call {call : StageCall} (callMem : call ∈ history.calls) :
    call.IsPlain roots ∧ call.request.addresses.Nodup :=
  history.isPlain_world.isPlain_call history.builds call callMem

variable (apart : history.KeepsApart) (shown : history.IsShown)
include apart shown

/-- What is persisted at two moments is consistent, and it is extended from one to the other. -/
theorem exists_onDisk {earlier later : Nat} (before : earlier ≤ later) :
    ∃ olds news : Persisted, olds.OnDisk roots (StageCall.weight history.calls) (history.filesAt earlier) ∧
      news.OnDisk roots (StageCall.weight history.calls) (history.filesAt later) ∧
      olds.ExtendedBy news := by
  have distinct (call : StageCall) (callMem : call ∈ history.calls) : call.request.IsDistinct :=
    (isPlain_call callMem).2.map_on (apart call callMem)
  have plain (call : StageCall) (callMem : call ∈ history.calls) : call.IsPlain roots :=
    (isPlain_call callMem).1
  have split : history.calls.take later =
      history.calls.take earlier ++ (history.calls.take later).drop earlier := by
    have whole := List.take_append_drop earlier (history.calls.take later)
    rw [List.take_take, Nat.min_eq_left before] at whole
    exact whole.symm
  have first {call : StageCall} (callMem : call ∈ history.calls.take earlier) : call ∈ history.calls :=
    List.mem_of_mem_take callMem
  have second {call : StageCall} (callMem : call ∈ (history.calls.take later).drop earlier) :
      call ∈ history.calls := List.mem_of_mem_take (List.mem_of_mem_drop callMem)
  have total : StageCall.weight (history.calls.take earlier) +
      StageCall.weight ((history.calls.take later).drop earlier) ≤ StageCall.weight history.calls := by
    rw [← StageCall.weight_append, ← split]
    exact StageCall.weight_le_of_sublist (List.take_sublist _ _)
  unfold IsShown at shown
  obtain ⟨olds, oldsOnDisk, _⟩ := StageCall.exists_replay (Persisted.onDisk_empty history.fresh)
    (fun call callMem => plain call (first callMem)) (fun call callMem => distinct call (first callMem))
    (by omega)
  obtain ⟨news, newsOnDisk, extended⟩ := StageCall.exists_replay oldsOnDisk
    (fun call callMem => plain call (second callMem)) (fun call callMem => distinct call (second callMem))
    (by omega)
  rw [← StageCall.replay_append, ← split] at newsOnDisk
  exact ⟨olds, news, oldsOnDisk.mono (by omega), newsOnDisk.mono (by omega), extended⟩

end History

namespace Session

open Effect

/-- Steps that finalize builders in turn. -/
def finalizing (numbers : List Nat) : List Step :=
  numbers.map fun number : Nat => .command (.finalize (.int number))

theorem perform_finalizing {world : World} {number : Nat} (named : world.scope[number]? = some number) :
    (perform world (.command (.finalize (.int number)))).2 = (Effect.perform (Run.finalize number) world).2 := by
  change (Effect.perform (Command.silent (Run.numberOf _ >>= Run.finalize)) world).2 = _
  unfold Command.silent
  rw [perform_bind, perform_bind_of_ok (Run.perform_numberOf named)]
  rcases Effect.perform (Run.finalize number) world with ⟨_ | _, after⟩ <;> rfl

/-- Steps that finalize builders leave the world after finalizing them. -/
theorem after_finalizing {world : World} {roots : Roots} {numbers : List Nat}
    (canBuild : world.CanBuild roots numbers) (named : ∀ number ∈ numbers, world.scope[number]? = some number) :
    after world (finalizing numbers) = world.afterFinalizing numbers := by
  induction numbers generalizing world with
  | nil => rfl
  | cons number rest ih =>
      rw [List.forall_mem_cons] at named
      rcases canBuild.perform_finalize with ⟨_, _, _, _, later⟩
      have scope : (Effect.perform (Run.finalize number) world).2.scope = world.scope := by
        rw [later]
        rfl
      change after (perform world _).2 (finalizing rest) = _
      rw [perform_finalizing named.1]
      exact ih canBuild.after (by rw [scope]; exact named.2)

/-- The world after declarations where there are only the folders of the roots. -/
def declared (declarations : List Step) : World := after (World.start ⟨[], specFolders⟩) declarations

/-- After plain declarations some builders wait to be finalized, and nothing was written. -/
structure Declares (declarations : List Step) (count : Nat) : Prop where
  /-- The declarations are plain. -/
  plain : Step.arePlain declarations = true
  /-- The builders write manifests under the roots, and are open. -/
  builders : ∀ builder ∈ (declared declarations).builders, builder.BuildsIn specRoots ∧ builder.frozen = false
  /-- The builders are named by their places. -/
  scope : (declared declarations).scope = List.range count
  /-- The builders have numbers. -/
  length : (declared declarations).builders.length = count
  /-- The file tree is as it was. -/
  files : (declared declarations).workspace.files = ⟨[], specFolders⟩
  /-- No stage was called. -/
  calls : (declared declarations).calls.isEmpty = true

instance (declarations : List Step) (count : Nat) : Decidable (Declares declarations count) :=
  decidable_of_iff (Step.arePlain declarations = true ∧
      (∀ builder ∈ (declared declarations).builders, builder.BuildsIn specRoots ∧ builder.frozen = false) ∧
      (declared declarations).scope = List.range count ∧ (declared declarations).builders.length = count ∧
      (declared declarations).workspace.files = ⟨[], specFolders⟩ ∧ (declared declarations).calls.isEmpty = true)
    ⟨fun ⟨plain, builders, scope, length, files, calls⟩ => ⟨plain, builders, scope, length, files, calls⟩,
      fun declares => ⟨declares.plain, declares.builders, declares.scope, declares.length, declares.files,
        declares.calls⟩⟩

namespace Declares

variable {declarations : List Step} {count : Nat} (declares : Declares declarations count)
include declares

theorem canBuild {some_ : Nat} (atMost : some_ ≤ count) :
    (declared declarations).CanBuild specRoots (List.range some_) where
  once := List.nodup_range
  graphs := (isPlain_after declares.plain (World.isPlain_start _)).graphs
  builds builder builderMem := (declares.builders builder builderMem).1
  areOpen number numberMem := by
    have less : number < (declared declarations).builders.length := by
      have isLess := List.mem_range.mp numberMem
      rw [declares.length]
      omega
    have found := List.getElem?_eq_getElem less
    exact ⟨_, found, (declares.builders _ (List.mem_of_getElem? found)).2⟩

/-- The world after the first builders are finalized. -/
theorem after_finalizing {some_ : Nat} (atMost : some_ ≤ count) :
    after (World.start ⟨[], specFolders⟩) (declarations ++ finalizing (List.range some_)) =
      (declared declarations).afterFinalizing (List.range some_) := by
  rw [after_append]
  apply Session.after_finalizing (declares.canBuild atMost)
  intro number numberMem
  have isLess := List.mem_range.mp numberMem
  change (declared declarations).scope[number]? = _
  rw [declares.scope, List.getElem?_range (by omega)]

end Declares

end Session

namespace History

open Session

variable {declarations : List Step} {count : Nat}

/-- The history in which something is declared and then all builders are finalized in turn. -/
def ofDeclares (declarations : List Step) (count : Nat) (declares : Declares declarations count) :
    History specRoots where
  files := ⟨[], specFolders⟩
  steps := declarations ++ finalizing (List.range count)
  fresh _ := rfl
  plain := by
    rw [Step.arePlain_iff, List.forall_mem_append]
    refine ⟨Step.arePlain_iff.mp declares.plain, ?_⟩
    simp [finalizing, Step.isPlain, Command.isPlain]
  builds := by
    rw [declares.after_finalizing (Nat.le_refl _)]
    exact (declares.canBuild (Nat.le_refl _)).builds_afterFinalizing

/-- What is persisted after the first builders are finalized is told by what they declare. -/
theorem persisted?_ofDeclares (declares : Declares declarations count) {some_ : Nat} (atMost : some_ ≤ count)
    {state : Persisted}
    (followed : (Builder.follow? (declared declarations).builders (List.range some_) .empty).bind
      Manifests.persisted? = some state) :
    specRoots.persisted? ((ofDeclares declarations count declares).filesAt
      ((ofDeclares declarations count declares).momentAfter (declarations.length + some_))) = some state := by
  rcases Option.bind_eq_some_iff.mp followed with ⟨next, isNext, isState⟩
  have start : Manifests.empty.HeldBy (declared declarations).workspace.files := by
    rw [declares.files]
    exact Manifests.heldBy_empty
  have held := (declares.canBuild atMost).heldBy start isNext
  have steps : (declarations ++ finalizing (List.range count)).take (declarations.length + some_) =
      declarations ++ finalizing (List.range some_) := by
    rw [List.take_length_add_append, finalizing, ← List.map_take, List.take_range, Nat.min_eq_left atMost]
    rfl
  rw [← files_worldAfter, worldAfter]
  change specRoots.persisted? (Session.after _ (List.take _ (_ ++ _))).workspace.files = _
  rw [steps]
  change specRoots.persisted? (Session.after (World.start ⟨[], specFolders⟩) _).workspace.files = _
  rw [declares.after_finalizing atMost, held.persisted?_eq, isState]

/-- The calls are among those that the builders make if no stage fails. -/
theorem calls_ofDeclares (declares : Declares declarations count) :
    (ofDeclares declarations count declares).calls.Sublist
      (Builder.callsOf (declared declarations).builders (List.range count)) := by
  rcases (declares.canBuild (Nat.le_refl _)).exists_calls with ⟨made, isMade, isSublist⟩
  have none : (declared declarations).calls = [] := List.isEmpty_iff.mp declares.calls
  rw [none, List.nil_append] at isMade
  rw [calls, world]
  change (Session.after (World.start ⟨[], specFolders⟩) (_ ++ _)).calls.Sublist _
  rw [declares.after_finalizing (Nat.le_refl _), isMade]
  exact isSublist

/-- Names are kept apart if all that is declared keeps them apart. -/
theorem keepsApart_ofDeclares (declares : Declares declarations count)
    (apart : ∀ call ∈ Builder.callsOf (declared declarations).builders (List.range count),
      call.request.KeepsApart) : (ofDeclares declarations count declares).KeepsApart :=
  fun call callMem => apart call ((calls_ofDeclares declares).subset callMem)

theorem isShown_ofDeclares (declares : Declares declarations count)
    (small : StageCall.weight (Builder.callsOf (declared declarations).builders (List.range count)) <
      Text.leastUnshown) : (ofDeclares declarations count declares).IsShown :=
  Nat.lt_of_le_of_lt (StageCall.weight_le_of_sublist (calls_ofDeclares declares)) small

end History

end SpecGraph
