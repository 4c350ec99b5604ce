import SpecGraph.Proofs.World.Together

/-!
# The calls of one builder

The calls that are made for a builder are those of its only finalization. Between two worlds a builder is either
left with the calls that it has, or it is open in the first one and then finalized once: its stages are called up to
one that fails, as they were declared in the first world. Declaring calls nothing, and a builder that is frozen is
never finalized again.
-/

namespace SpecGraph

open Effect

namespace StageCall

/-- A call is made after another one only if that one succeeded on the file tree that it found. -/
theorem returned_runAll {calls : List StageCall} {files : Files} {first rest : List StageCall} {call next : StageCall}
    (made : (runAll calls files).2.1 = first ++ call :: next :: rest) :
    (call.action (replay files first)).1 = .ok () := by
  induction calls generalizing files first with
  | nil => cases first <;> cases made
  | cons head tail ih =>
      rw [runAll] at made
      rcases acted : head.action files with ⟨outcome, after⟩
      rw [acted] at made
      cases outcome with
      | error cause =>
          -- the call that fails is the last one
          have length := congrArg List.length made
          simp only [List.length_cons, List.length_nil, List.length_append] at length
          omega
      | ok =>
          dsimp only at made
          cases first with
          | nil =>
              obtain rfl : head = call := (List.cons.inj made).1
              change (head.action files).1 = _
              rw [acted]
          | cons other others =>
              rcases List.cons.inj made with ⟨rfl, tailMade⟩
              change (call.action (replay (head.action files).2 others)).1 = _
              rw [acted]
              exact ih tailMade

end StageCall

/-- The calls that finalizing a builder makes are for the builder. -/
theorem Builder.builder_calls {builder : Builder} {number : Nat} {call : StageCall}
    (callMem : call ∈ builder.calls number) : call.builder = number := by
  simp only [calls, List.mem_cons, List.not_mem_nil, or_false] at callMem
  rcases callMem with rfl | rfl | rfl <;> rfl

namespace World

/-- The calls that were made for a builder. -/
def callsFor (world : World) (number : Nat) : List StageCall :=
  world.calls.filter fun call => call.builder == number

theorem callsFor_of_calls {before after : World} {made : List StageCall} (calls : after.calls = before.calls ++ made)
    (number : Nat) :
    after.callsFor number = before.callsFor number ++ made.filter fun call => call.builder == number := by
  rw [callsFor, calls, List.filter_append, callsFor]

/-- The calls of a build of a builder are all for it, and none for another one. -/
theorem filter_builder_calls (builder : Builder) (number other : Nat) (files : Files) :
    (StageCall.runAll (builder.calls number) files).2.1.filter (fun call => call.builder == other) =
      if number = other then (StageCall.runAll (builder.calls number) files).2.1 else [] := by
  have mine := fun call callMem => Builder.builder_calls
    ((StageCall.runAll_prefix (builder.calls number) files).subset callMem : call ∈ builder.calls number)
  split
  next same =>
    subst same
    exact List.filter_eq_self.mpr fun call callMem => by rw [mine call callMem, beq_self_eq_true]
  next differ =>
    refine List.filter_eq_nil_iff.mpr fun call callMem => ?_
    rw [mine call callMem, beq_iff_eq]
    exact differ

/-- A world comes from another one by declarations: nothing was called, builders that are new are open, and the others
are the same but for their graphs. -/
structure DeclaredFrom (before after : World) : Prop where
  /-- Nothing was called. -/
  calls : after.calls = before.calls
  /-- The builders are those that were there, but for their graphs, and new ones that are open. -/
  builders : ∃ made, after.builders.map Builder.bare = before.builders.map Builder.bare ++ made ∧
    ∀ builder ∈ made, builder.frozen = false

theorem DeclaredFrom.refl (world : World) : world.DeclaredFrom world :=
  ⟨rfl, [], (List.append_nil _).symm, List.forall_mem_nil _⟩

theorem declaredFrom_of_frame {before after : World} (same : after.frame = before.frame) : before.DeclaredFrom after :=
  ⟨congrArg Frame.calls same, [], (congrArg Frame.builders same).trans (List.append_nil _).symm, List.forall_mem_nil _⟩

/-- What was declared after other declarations. -/
theorem keptByDeclaring_declaredFrom (before : World) : World.KeptByDeclaring .any before.DeclaredFrom := by
  refine World.keptByDeclaring (fun first second same declared => ?_) (fun _ _ _ declared => ⟨declared.1, declared.2⟩)
    fun builder isOpen => ?_
  · have builders : second.builders.map Builder.bare = first.builders.map Builder.bare := congrArg Frame.builders same
    exact ⟨(congrArg Frame.calls same).trans declared.calls, by rw [builders]; exact declared.builders⟩
  · refine keeps_bind still_get.keeps fun _ => keeps_bind (keeps_modify fun world declared => ?_) fun _ =>
      (still_pure _).keeps
    rcases declared.builders with ⟨made, same, areOpen⟩
    refine ⟨declared.calls, made ++ [builder.bare], ?_, ?_⟩
    · rw [List.map_append, same, List.append_assoc]
      rfl
    · exact List.forall_mem_append.mpr ⟨areOpen, List.forall_mem_singleton.mpr isOpen⟩

/-- A builder is there after declarations, with some graph. -/
theorem DeclaredFrom.exists_graph {before after : World} (declared : before.DeclaredFrom after) {number : Nat}
    {builder : Builder} (found : before.builders[number]? = some builder) :
    ∃ graph, after.builders[number]? = some { builder with graph } := by
  rcases declared.builders with ⟨made, same, _⟩
  have there : (after.builders.map Builder.bare)[number]? = some builder.bare := by
    rw [same, List.getElem?_append_left, List.getElem?_map, found]
    · rfl
    · rw [List.length_map]
      exact (List.getElem?_eq_some_iff.mp found).1
  rw [List.getElem?_map] at there
  rcases Option.map_eq_some_iff.mp there with ⟨other, isThere, sameBare⟩
  exact ⟨other.graph, by rw [isThere, ← Builder.eq_of_bare sameBare]⟩

/-- A builder that declarations made is open. -/
theorem DeclaredFrom.frozen_of_none {before after : World} (declared : before.DeclaredFrom after) {number : Nat}
    {builder : Builder} (absent : before.builders[number]? = none) (found : after.builders[number]? = some builder) :
    builder.frozen = false := by
  rcases declared.builders with ⟨made, same, areOpen⟩
  have there : (after.builders.map Builder.bare)[number]? = some builder.bare := by rw [List.getElem?_map, found]; rfl
  rw [same, List.getElem?_append_right (by simpa using absent)] at there
  have isOpen : builder.bare.frozen = false := areOpen _ (List.mem_of_getElem? there)
  exact isOpen

/-- A world comes from another one by finalizing open builders one after the other. -/
inductive BuiltFrom : World → World → Prop where
  /-- Nothing is finalized. -/
  | refl (world : World) : BuiltFrom world world
  /-- The waiting builders are forgotten first. -/
  | forget {world last : World} (rest : BuiltFrom { world with waiting := [] } last) : BuiltFrom world last
  /-- An open builder is finalized first. -/
  | finalize {world last : World} {number : Nat} {builder : Builder}
      (found : world.builders[number]? = some builder) (isOpen : builder.frozen = false)
      (rest : BuiltFrom (perform (Run.finalize number) world).2 last) : BuiltFrom world last

/-- A builder is as it was, with the calls that it had. -/
structure IsLeft (number : Nat) (before after : World) : Prop where
  /-- The builder is as it was, or is not there. -/
  builder : after.builders[number]? = before.builders[number]?
  /-- It has the calls that it had. -/
  calls : after.callsFor number = before.callsFor number

/-- A builder that was open was finalized once: after the calls that were there and some others, its stages were
called up to one that fails. -/
structure IsBuilt (number : Nat) (builder : Builder) (made : List StageCall) (before after : World) : Prop where
  /-- The builder was there. -/
  found : before.builders[number]? = some builder
  /-- It was open. -/
  isOpen : builder.frozen = false
  /-- It is frozen, and the same otherwise but for its graph. -/
  frozen : ∃ graph, after.builders[number]? = some { builder with graph, frozen := true }
  /-- The calls of its stages come after those that were there and some others. -/
  calls : before.calls ++ made ++ (StageCall.runAll (builder.calls number)
    (StageCall.replay before.workspace.files made)).2.1 <+: after.calls
  /-- No other calls are made for it. -/
  callsFor : after.callsFor number = before.callsFor number ++ (StageCall.runAll (builder.calls number)
    (StageCall.replay before.workspace.files made)).2.1

/-- A builder that was built stays so while it keeps its calls, and is the same but for its graph. -/
theorem IsBuilt.later {number : Nat} {builder : Builder} {made : List StageCall} {before between after : World}
    (built : IsBuilt number builder made before between)
    (same : ∀ found, between.builders[number]? = some found →
      ∃ graph, after.builders[number]? = some { found with graph })
    (calls : between.calls <+: after.calls) (callsFor : after.callsFor number = between.callsFor number) :
    IsBuilt number builder made before after where
  found := built.found
  isOpen := built.isOpen
  frozen := by
    rcases built.frozen with ⟨graph, frozen⟩
    exact same _ frozen
  calls := built.calls.trans calls
  callsFor := callsFor.trans built.callsFor

/-- An open builder that is finalized is built. -/
theorem isBuilt_finalize {world : World} {number : Nat} {builder : Builder}
    (found : world.builders[number]? = some builder) (isOpen : builder.frozen = false) :
    IsBuilt number builder [] world (perform (Run.finalize number) world).2 := by
  rcases Run.perform_finalize_of_open found isOpen with ⟨log, finalized⟩
  have calls : (perform (Run.finalize number) world).2.calls =
      world.calls ++ (StageCall.runAll (builder.calls number) world.workspace.files).2.1 := by rw [finalized]; rfl
  refine ⟨found, isOpen, ⟨builder.graph, Run.builder_finalize found⟩, ?_, ?_⟩
  · rw [calls, List.append_nil]
    exact List.prefix_refl _
  · rw [callsFor_of_calls calls, filter_builder_calls, if_pos rfl]
    rfl

/-- Finalizing a builder leaves the others and adds calls that act on the file tree. -/
theorem exists_calls_finalize (number : Nat) (world : World) : ∃ made : List StageCall,
    (perform (Run.finalize number) world).2.calls = world.calls ++ made ∧
    (perform (Run.finalize number) world).2.workspace.files = StageCall.replay world.workspace.files made ∧
    ∀ other, number ≠ other → IsLeft other world (perform (Run.finalize number) world).2 := by
  rcases Run.finalize_cases number world with ⟨_, error, failed⟩ | ⟨builder, log, found, isOpen, finalized⟩
  · rw [failed]
    exact ⟨[], (List.append_nil _).symm, rfl, fun _ _ => ⟨rfl, rfl⟩⟩
  · have calls : (perform (Run.finalize number) world).2.calls =
        world.calls ++ (StageCall.runAll (builder.calls number) world.workspace.files).2.1 := by rw [finalized]; rfl
    refine ⟨_, calls, ?_, fun other isOther => ⟨Run.builder_finalize_of_ne isOther world, ?_⟩⟩
    · rw [finalized, StageCall.replay_runAll]
      rfl
    · rw [callsFor_of_calls calls, filter_builder_calls, if_neg isOther, List.append_nil]

/-- Calls are only added. -/
theorem BuiltFrom.calls_prefix {before after : World} (built : BuiltFrom before after) :
    before.calls <+: after.calls := by
  induction built with
  | refl world => exact List.prefix_refl _
  | forget rest ih => exact ih
  | @finalize world last number builder found isOpen rest ih =>
      rcases exists_calls_finalize number world with ⟨added, calls, _⟩
      rw [calls] at ih
      exact (List.prefix_append _ _).trans ih

/-- A builder that is frozen is left, and one that is not is left or built. -/
theorem BuiltFrom.left_or_built {before after : World} (built : BuiltFrom before after) (number : Nat) :
    IsLeft number before after ∨ ∃ builder made, IsBuilt number builder made before after := by
  induction built with
  | refl world => exact Or.inl ⟨rfl, rfl⟩
  | forget rest ih =>
      rcases ih with left | ⟨builder, made, built⟩
      · exact Or.inl ⟨left.builder, left.calls⟩
      · exact Or.inr ⟨builder, made, built.found, built.isOpen, built.frozen, built.calls, built.callsFor⟩
  | @finalize world last other builder found isOpen rest ih =>
      rcases exists_calls_finalize other world with ⟨added, calls, files, others⟩
      by_cases same : other = number
      · subst same
        have first := isBuilt_finalize found isOpen
        rcases ih with left | ⟨later, _, again⟩
        · refine Or.inr ⟨builder, [], first.later (fun found there => ?_) rest.calls_prefix left.calls⟩
          exact ⟨found.graph, left.builder.trans there⟩
        · -- a builder is not open after it was finalized
          rcases first.frozen with ⟨graph, frozen⟩
          have isFrozen := again.isOpen
          rw [again.found] at frozen
          cases frozen
          cases isFrozen
      · have skipped := others number same
        rcases ih with left | ⟨later, made, built⟩
        · exact Or.inl ⟨left.builder.trans skipped.builder, left.calls.trans skipped.calls⟩
        · have ownCalls := built.calls
          have callsFor := built.callsFor
          rw [files, ← StageCall.replay_append] at ownCalls callsFor
          rw [calls, List.append_assoc world.calls] at ownCalls
          rw [skipped.calls] at callsFor
          have there := skipped.builder ▸ built.found
          exact Or.inr ⟨later, added ++ made, there, built.isOpen, built.frozen, ownCalls, callsFor⟩

/-- A world comes from another one by finalizing open builders, and declarations after that. -/
def PassedFrom (before after : World) : Prop := ∃ between, BuiltFrom before between ∧ between.DeclaredFrom after

theorem PassedFrom.refl (world : World) : world.PassedFrom world := ⟨world, .refl world, .refl world⟩

/-- What becomes of a builder that is not built: it is there with its calls and some graph, or it is new and open. -/
structure IsSpared (number : Nat) (before after : World) : Prop where
  /-- It has the calls that it had. -/
  calls : after.callsFor number = before.callsFor number
  /-- It is the same but for its graph. -/
  builder : ∀ builder, before.builders[number]? = some builder →
    ∃ graph, after.builders[number]? = some { builder with graph }
  /-- It is open if it is new. -/
  isOpen : ∀ builder, before.builders[number]? = none → after.builders[number]? = some builder →
    builder.frozen = false

theorem DeclaredFrom.isSpared {before after : World} (declared : before.DeclaredFrom after) (number : Nat) :
    IsSpared number before after where
  calls := by rw [callsFor, callsFor, declared.calls]
  builder _ := declared.exists_graph
  isOpen _ := declared.frozen_of_none

/-- A builder is built or spared. -/
theorem PassedFrom.spared_or_built {before after : World} (passed : before.PassedFrom after) (number : Nat) :
    IsSpared number before after ∨ ∃ builder made, IsBuilt number builder made before after := by
  rcases passed with ⟨between, built, declared⟩
  have spared := declared.isSpared number
  rcases built.left_or_built number with left | ⟨builder, made, built⟩
  · refine Or.inl ⟨spared.calls.trans left.calls, fun builder found => ?_, fun builder absent => ?_⟩
    · exact spared.builder builder (left.builder.trans found)
    · exact spared.isOpen builder (left.builder.trans absent)
  · exact Or.inr ⟨builder, made, built.later spared.builder
      (declared.calls ▸ List.prefix_refl _) spared.calls⟩

theorem PassedFrom.calls_prefix {before after : World} (passed : before.PassedFrom after) :
    before.calls <+: after.calls := by
  rcases passed with ⟨between, built, declared⟩
  rw [declared.calls]
  exact built.calls_prefix

end World

namespace Run

theorem builtFrom_finalize (number : Nat) (world : World) :
    World.BuiltFrom world (perform (finalize number) world).2 := by
  rcases finalize_cases number world with ⟨_, error, failed⟩ | ⟨builder, log, found, isOpen, _⟩
  · rw [failed]
    exact .refl world
  · exact .finalize found isOpen (.refl _)

theorem builtFrom_finalizeEach (numbers : List Nat) (world : World) :
    World.BuiltFrom world (perform (finalizeEach numbers) world).2 := by
  induction numbers generalizing world with
  | nil => exact .refl world
  | cons number rest ih =>
      cases found : world.builders[number]? with
      | none =>
          rw [perform_finalizeEach_of_none found]
          exact .refl world
      | some builder =>
          cases frozen : builder.frozen with
          | true =>
              rw [perform_finalizeEach_of_frozen found frozen]
              exact ih world
          | false =>
              refine .finalize found frozen ?_
              cases ends : World.isEnd (perform (finalize number) world).1 with
              | true =>
                  rw [perform_finalizeEach_of_end found frozen ends]
                  exact .refl _
              | false =>
                  rw [perform_finalizeEach_of_not_end found frozen ends]
                  exact ih _

theorem builtFrom_finalizeAll (world : World) : World.BuiltFrom world (perform finalizeAll world).2 := by
  refine .forget ?_
  unfold finalizeAll
  rw [perform_bind_of_ok (perform_get _), perform_bind_of_ok (perform_modify _ _)]
  rw [state_bind_of_still]
  · exact builtFrom_finalizeEach _ _
  · intro failures
    cases failures.isEmpty
    · exact still_throw _
    · exact still_pure _

end Run

end SpecGraph
