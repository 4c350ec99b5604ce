import Mathlib.Data.List.DropRight
import SpecGraph.Proofs.World.Program
import SpecGraph.Proofs.World.Together

/-!
# Which builders are pending

The list of the builders that wait is added to, filtered, drained and emptied by operations that nest: the body of a
block may finalize or forget the very builder that is dropped when the block is left. Which builders are pending can be
told from what happened to them all the same. This account of a point is kept by every operation, if the builder of a
block was made before the block is left, and so it is kept by every program.
-/

namespace SpecGraph

open Effect

namespace Event

/-- The builder that was made. -/
def made? : Event → Option Nat
  | made number => some number
  | _ => none

/-- The builder to which it happened. -/
def number? : Event → Option Nat
  | made number | left number => some number
  | forgotten | ended => none

/-- The builders that were made since one of some events last happened, in the order in which they were made. -/
def madeSince (stops events : List Event) : List Nat :=
  (events.rtakeWhile fun event => !stops.contains event).filterMap made?

/-- The builders that were made since all were last forgotten or the process was last to end, but for those whose block
was left by an error. -/
def standing (events : List Event) : List Nat :=
  (madeSince [forgotten, ended] events).filter fun number => !events.contains (left number)

theorem made_mem_of_mem_standing {events : List Event} {number : Nat} (numberMem : number ∈ standing events) :
    made number ∈ events := by
  rcases List.mem_filterMap.mp (List.mem_of_mem_filter numberMem) with ⟨event, eventMem, isMade⟩
  have earlier : event ∈ events := (List.rtakeWhile_suffix _ _).subset eventMem
  cases event with
  | made other =>
      cases isMade
      exact earlier
  | _ => cases isMade

theorem standing_made {events : List Event} {number : Nat} (fresh : left number ∉ events) :
    standing (events ++ [made number]) = standing events ++ [number] := by
  simp [standing, madeSince, made?, fresh]

theorem standing_left (events : List Event) (number : Nat) :
    standing (events ++ [left number]) = (standing events).filter fun other => other != number := by
  have sameMade : madeSince [forgotten, ended] (events ++ [left number]) = madeSince [forgotten, ended] events := by
    simp [madeSince, List.filterMap_cons, made?]
  rw [standing, standing, sameMade, List.filter_filter]
  apply List.filter_congr
  intro other _
  by_cases same : other = number
  · simp [same]
  · simp [same]

/-- No builder stands where all are forgotten, or where the process is to end. -/
theorem standing_stop (events : List Event) {stop : Event} (stops : [forgotten, ended].contains stop = true) :
    standing (events ++ [stop]) = [] := by
  rw [standing, madeSince, List.rtakeWhile_concat_neg]
  · rfl
  · rw [stops]
    exact Bool.false_ne_true

/-- If fewer events are waited for, what was made since is longer. -/
theorem madeSince_sublist {fewer stops : List Event} (subset : fewer ⊆ stops) (events : List Event) :
    (madeSince stops events).Sublist (madeSince fewer events) := by
  apply List.Sublist.filterMap
  induction events using List.reverseRecOn with
  | nil => exact List.Sublist.refl _
  | append_singleton front event ih =>
      rw [List.rtakeWhile_concat, List.rtakeWhile_concat]
      by_cases stopsHere : event ∈ stops
      · rw [if_neg (by simpa using stopsHere)]
        exact List.nil_sublist _
      · have goesOn : event ∉ fewer := fun eventMem => stopsHere (subset eventMem)
        rw [if_pos (by simpa using stopsHere), if_pos (by simpa using goesOn)]
        exact ih.append_right _

end Event

namespace World

theorem openOf_congr {before after : World} {numbers : List Nat}
    (same : ∀ number ∈ numbers, after.isOpenAt number = before.isOpenAt number) :
    after.openOf numbers = before.openOf numbers := List.filter_congr same

theorem openOf_append (world : World) (first second : List Nat) :
    world.openOf (first ++ second) = world.openOf first ++ world.openOf second := List.filter_append _ _

theorem openOf_filter_ne (world : World) (numbers : List Nat) (number : Nat) :
    world.openOf (numbers.filter fun other => other != number) =
      (world.openOf numbers).filter fun other => other != number := by
  simp only [openOf, List.filter_filter, Bool.and_comm]

/-- If only builders that were open are open, it does not matter whether the others are left out first. -/
theorem openOf_openOf {before after : World}
    (narrower : ∀ number, after.isOpenAt number = true → before.isOpenAt number = true) (numbers : List Nat) :
    after.openOf (before.openOf numbers) = after.openOf numbers := by
  apply List.filter_filter.trans
  apply List.filter_congr
  intro number _
  change (after.isOpenAt number && before.isOpenAt number) = after.isOpenAt number
  cases isOpen : after.isOpenAt number with
  | false => rfl
  | true => rw [narrower number isOpen, Bool.and_self]

theorem isOpenAt_of_frame {before after : World} (same : after.frame = before.frame) (number : Nat) :
    after.isOpenAt number = before.isOpenAt number := by
  have told (world : World) : world.isOpenAt number =
      (world.frame.builders[number]?).any fun builder => !builder.frozen := by
    simp [isOpenAt, frame, Builder.bare, Option.any_map]
  rw [told, told, same]

/-- What is open after a builder was finalized was open, and is another one. -/
theorem isOpenAt_of_finalize {number other : Nat} {world : World}
    (isOpen : (perform (Run.finalize number) world).2.isOpenAt other = true) :
    world.isOpenAt other = true ∧ other ≠ number := by
  by_cases same : number = other
  · subst same
    cases found : world.builders[number]? with
    | none => simp [Run.perform_finalize_of_none found, isOpenAt, found] at isOpen
    | some builder => simp [isOpenAt, Run.builder_finalize found] at isOpen
  · rw [isOpenAt, Run.builder_finalize_of_ne same] at isOpen
    exact ⟨isOpen, Ne.symm same⟩

/-- What is open after builders were finalized in turn was open, and is none of those that were. -/
theorem isOpenAt_of_finalizeInTurn {number : Nat} {numbers : List Nat} {world : World}
    (isOpen : (finalizeInTurn numbers world).2.isOpenAt number = true) :
    world.isOpenAt number = true ∧ number ∉ (finalizeInTurn numbers world).1.map Prod.fst := by
  by_cases reached : number ∈ (finalizeInTurn numbers world).1.map Prod.fst
  · cases found : world.builders[number]? with
    | none =>
        have absent : (finalizeInTurn numbers world).2.builders[number]? = none := by
          rw [List.getElem?_eq_none_iff] at found ⊢
          rwa [length_finalizeInTurn]
        simp [isOpenAt, absent] at isOpen
    | some builder => simp [isOpenAt, frozen_finalizeInTurn reached found] at isOpen
  · rw [isOpenAt, builder_finalizeInTurn_of_notMem reached] at isOpen
    exact ⟨isOpen, reached⟩

theorem IsOrdered.nodup {world : World} (ordered : world.IsOrdered) : world.waiting.Nodup :=
  ordered.increasing.imp fun less => Nat.ne_of_lt less

end World

/-- A builder is made as the last one, or nothing is done. -/
theorem Run.createBuilder_cases (root : Data) (settings : Settings) (pipelines : Option Pipelines) (world : World) :
    (∃ error, perform (createBuilder root settings pipelines) world = (.error error, world)) ∨
    ∃ builder : Builder, builder.frozen = false ∧
      perform (createBuilder root settings pipelines) world = (.ok world.builders.length,
        { world with
          builders := world.builders ++ [builder]
          waiting := world.waiting ++ [world.builders.length]
          scope := world.scope ++ [world.builders.length] }) := by
  unfold createBuilder
  split
  · cases root with
    | text text => exact Or.inr ⟨Builder.create (Path.parse text) settings pipelines, rfl, rfl⟩
    | _ => exact Or.inl ⟨_, rfl⟩
  · exact Or.inr ⟨Builder.create (Path.parse settings.specRoot) settings pipelines, rfl, rfl⟩

/-- What happened to builders accounts for those that are pending, and at least some number of them was made. -/
structure Point.IsAccounted (least : Nat) (point : Point) : Prop where
  ordered : point.world.IsOrdered
  known : ∀ event ∈ point.events, ∀ number, event.number? = some number → number < point.world.builders.length
  grown : least ≤ point.world.builders.length
  pending : point.world.pending = point.world.openOf (Event.standing point.events)
  ending : .ended ∈ point.events → ∃ pipelines ∈ point.world.builders.map Builder.pipelines, ¬pipelines.NeverEnd

namespace Point.IsAccounted

variable {least : Nat} {point : Point} (accounted : point.IsAccounted least)
include accounted

theorem mono {fewer : Nat} (isFewer : fewer ≤ least) : point.IsAccounted fewer :=
  { accounted with grown := isFewer.trans accounted.grown }

/-- The account is kept if the same builders wait and no other ones are open. -/
theorem narrow {world : World} (waiting : world.waiting = point.world.waiting)
    (pipelines : world.builders.map Builder.pipelines = point.world.builders.map Builder.pipelines)
    (narrower : ∀ number, world.isOpenAt number = true → point.world.isOpenAt number = true) :
    IsAccounted least ⟨point.events, world⟩ := by
  have length : world.builders.length = point.world.builders.length := by
    simpa using congrArg List.length pipelines
  refine ⟨⟨?_, ?_⟩, ?_, ?_, ?_, ?_⟩
  · rw [waiting]
    exact accounted.ordered.increasing
  · rw [waiting, length]
    exact accounted.ordered.made
  · rw [length]
    exact accounted.known
  · rw [length]
    exact accounted.grown
  · rw [World.pending_eq_openOf, waiting, ← World.openOf_openOf narrower, ← World.pending_eq_openOf,
      accounted.pending, World.openOf_openOf narrower]
  · rw [pipelines]
    exact accounted.ending

theorem other {α : Type} {operation : Run α} (keeps : Run.KeepsFrame operation) :
    IsAccounted least ⟨point.events, (perform operation point.world).2⟩ := by
  have same := keeps point.world.frame point.world rfl
  have pipelines := congrArg (fun frame => frame.builders.map Builder.pipelines) same
  simp only [World.frame, List.map_map] at pipelines
  apply accounted.narrow (congrArg World.Frame.waiting same) pipelines
  intro number isOpen
  rwa [World.isOpenAt_of_frame same] at isOpen

theorem finalize (number : Nat) : IsAccounted least ⟨point.events, (perform (Run.finalize number) point.world).2⟩ := by
  apply accounted.narrow (Run.waiting_finalize number _) (Run.pipelines_finalize number _)
  intro other isOpen
  exact (World.isOpenAt_of_finalize isOpen).1

/-- Only a pipeline of a builder that is pending can end the process while all are finalized. -/
theorem exists_not_neverEnd {turn : Nat × Except Error Unit}
    (turnMem : turn ∈ (World.finalizeInTurn point.world.pending { point.world with waiting := [] }).1)
    (ends : World.isEnd turn.2 = true) :
    ∃ pipelines ∈ point.world.builders.map Builder.pipelines, ¬pipelines.NeverEnd := by
  by_contra neverEnd
  have distinct : point.world.pending.Nodup := accounted.ordered.nodup.sublist List.filter_sublist
  have never (number : Nat) (numberMem : number ∈ point.world.pending) :
      ∃ builder, { point.world with waiting := [] }.builders[number]? = some builder ∧ builder.frozen = false ∧
        builder.pipelines.NeverEnd := by
    rcases World.exists_of_mem_openOf numberMem with ⟨builder, found, isOpen⟩
    refine ⟨builder, found, isOpen, by_contra fun mayEnd => neverEnd ?_⟩
    exact ⟨_, List.mem_map_of_mem (List.mem_of_getElem? found), mayEnd⟩
  have goesOn : World.isEnd turn.2 = false := World.isEnd_finalizeInTurn distinct never turn turnMem
  rw [ends] at goesOn
  cases goesOn

/-- Those that stand and were open were pending, so they are all finalized if nothing ends the process. -/
theorem openOf_standing_finalizeInTurn
    (goesOn : ∀ turn ∈ (World.finalizeInTurn point.world.pending { point.world with waiting := [] }).1,
      World.isEnd turn.2 = false) :
    (World.finalizeInTurn point.world.pending { point.world with waiting := [] }).2.openOf
      (Event.standing point.events) = [] := by
  have reached := (World.numbers_finalizeInTurn point.world.pending { point.world with waiting := [] }).2.2
  apply List.filter_eq_nil_iff.mpr
  intro number numberMem isOpen
  have wasOpen := World.isOpenAt_of_finalizeInTurn isOpen
  apply wasOpen.2
  rw [reached goesOn, accounted.pending]
  exact World.mem_openOf.mpr ⟨numberMem, wasOpen.1⟩

theorem finalizeAll : IsAccounted least ⟨point.events ++ Event.ofFinalizingAll (perform Run.finalizeAll point.world).1,
    (perform Run.finalizeAll point.world).2⟩ := by
  have ordered := World.kept_isOrdered.keeps_finalizeAll point.world accounted.ordered
  have length := World.length_finalizeInTurn point.world.pending { point.world with waiting := [] }
  have pipelines := World.pipelines_finalizeInTurn point.world.pending { point.world with waiting := [] }
  rw [Run.perform_finalizeAll accounted.ordered] at ordered ⊢
  split
  next ends =>
    rcases List.any_eq_true.mp ends with ⟨turn, turnMem, isEnd⟩
    refine ⟨ordered, ?_, ?_, ?_, ?_⟩
    · rw [length]
      refine List.forall_mem_append.mpr ⟨accounted.known, List.forall_mem_singleton.mpr fun number isNumber => ?_⟩
      cases isNumber
    · rw [length]
      exact accounted.grown
    · rw [World.pending_eq_openOf, World.waiting_finalizeInTurn]
      change [] = World.openOf _ (Event.standing (point.events ++ [.ended]))
      rw [Event.standing_stop _ rfl]
      rfl
    · intro _
      rw [pipelines]
      exact accounted.exists_not_neverEnd turnMem isEnd
  next goesOn =>
    have silent (failures : List (String × Error)) :
        Event.ofFinalizingAll (if failures.isEmpty then .ok () else .error (.finalization failures)) = [] := by
      split
      · rfl
      · rfl
    rw [silent, List.append_nil]
    refine ⟨ordered, ?_, ?_, ?_, ?_⟩
    · rw [length]
      exact accounted.known
    · rw [length]
      exact accounted.grown
    · rw [World.pending_eq_openOf, World.waiting_finalizeInTurn]
      refine (accounted.openOf_standing_finalizeInTurn fun turn turnMem => ?_).symm
      exact Bool.eq_false_iff.mpr fun ends => goesOn (List.any_eq_true.mpr ⟨turn, turnMem, ends⟩)
    · rw [pipelines]
      exact accounted.ending

theorem forget : IsAccounted least ⟨point.events ++ [.forgotten], (perform Run.reset point.world).2⟩ := by
  have ordered := World.kept_isOrdered.keeps_reset point.world accounted.ordered
  refine ⟨ordered, ?_, accounted.grown, ?_, ?_⟩
  · refine List.forall_mem_append.mpr ⟨accounted.known, List.forall_mem_singleton.mpr ?_⟩
    intro number isNumber
    cases isNumber
  · rw [Event.standing_stop _ rfl]
    rfl
  · intro endedMem
    exact accounted.ending (by simpa using endedMem)

theorem leave {number : Nat} (isMade : number < least) (error : Error) :
    (Point.leave number error point).All (IsAccounted least) := by
  have ordered := World.kept_isOrdered.keeps_abandon number point.world accounted.ordered
  refine Trace.all_last ⟨ordered, ?_, accounted.grown, ?_, ?_⟩
  · refine List.forall_mem_append.mpr ⟨accounted.known, List.forall_mem_singleton.mpr ?_⟩
    intro other isOther
    cases isOther
    exact isMade.trans_le accounted.grown
  · change point.world.openOf (point.world.waiting.erase number) = point.world.openOf _
    rw [accounted.ordered.nodup.erase_eq_filter, World.openOf_filter_ne, ← World.pending_eq_openOf, accounted.pending,
      Event.standing_left, World.openOf_filter_ne]
  · intro endedMem
    exact accounted.ending (by simpa using endedMem)

/-- A new builder waits, and the other ones are open or not as they were. -/
theorem add {builder : Builder} {world : World} (ordered : world.IsOrdered) (isOpen : builder.frozen = false)
    (builders : world.builders = point.world.builders ++ [builder])
    (waiting : world.waiting = point.world.waiting ++ [point.world.builders.length]) :
    IsAccounted (point.world.builders.length + 1) ⟨point.events ++ [.made point.world.builders.length], world⟩ := by
  have length : world.builders.length = point.world.builders.length + 1 := by simp [builders]
  have opened (numbers : List Nat) (areMade : ∀ other ∈ numbers, other < point.world.builders.length) :
      world.openOf (numbers ++ [point.world.builders.length]) =
        point.world.openOf numbers ++ [point.world.builders.length] := by
    have others : world.openOf numbers = point.world.openOf numbers := by
      apply World.openOf_congr
      intro other otherMem
      simp [World.isOpenAt, builders, List.getElem?_append_left (areMade other otherMem)]
    have last : world.openOf [point.world.builders.length] = [point.world.builders.length] := by
      simp [World.openOf, builders, isOpen]
    rw [World.openOf_append, others, last]
  have fresh : .left point.world.builders.length ∉ point.events := by
    intro eventMem
    exact Nat.lt_irrefl _ (accounted.known _ eventMem _ rfl)
  refine ⟨ordered, ?_, length.ge, ?_, ?_⟩
  · rw [length]
    refine List.forall_mem_append.mpr ⟨?_, List.forall_mem_singleton.mpr ?_⟩
    · intro event eventMem number isNumber
      exact (accounted.known event eventMem number isNumber).trans (Nat.lt_succ_self _)
    · intro number isNumber
      cases isNumber
      exact Nat.lt_succ_self _
  · have standing : ∀ other ∈ Event.standing point.events, other < point.world.builders.length := by
      intro other otherMem
      exact accounted.known _ (Event.made_mem_of_mem_standing otherMem) other rfl
    rw [World.pending_eq_openOf, waiting, Event.standing_made fresh, opened _ accounted.ordered.made, opened _ standing,
      ← World.pending_eq_openOf, accounted.pending]
  · intro endedMem
    rcases accounted.ending (by simpa using endedMem) with ⟨pipelines, pipelinesMem, mayEnd⟩
    refine ⟨pipelines, ?_, mayEnd⟩
    rw [builders, List.map_append]
    exact List.mem_append_left _ pipelinesMem

theorem make (root : Data) (settings : Settings) (pipelines : Option Pipelines) :
    (point.make root settings pipelines).All (IsAccounted least) ∧
      ∀ number, (point.make root settings pipelines).outcome = .ok number →
        least ≤ number ∧ (point.make root settings pipelines).last.IsAccounted (number + 1) := by
  have ordered := World.kept_isOrdered.keeps_createBuilder root settings pipelines point.world accounted.ordered
  unfold Point.make Point.carryOut
  rcases Run.createBuilder_cases root settings pipelines point.world with ⟨error, failed⟩ | ⟨builder, isOpen, made⟩
  · rw [failed]
    refine ⟨Trace.all_last ?_, ?_⟩
    · dsimp only [Event.ofMaking]
      rw [List.append_nil]
      exact accounted
    · intro number isNumber
      cases isNumber
  · rw [made] at ordered ⊢
    have added := accounted.add ordered isOpen rfl rfl
    refine ⟨Trace.all_last (added.mono (accounted.grown.trans (Nat.le_succ _))), ?_⟩
    intro number isNumber
    cases isNumber
    exact ⟨accounted.grown, added⟩

/-- The pending builders are those that were made since all were last forgotten or the process was last to end, that are
open, and whose block was not left by an error. If no pipeline ends the process, it was never to end. -/
theorem told :
    point.world.pending.Nodup ∧ point.world.pending.Sublist (Event.madeSince [.forgotten] point.events) ∧
      (∀ number, number ∈ point.world.pending ↔
        number ∈ Event.madeSince [.forgotten, .ended] point.events ∧
        (∃ builder, point.world.builders[number]? = some builder ∧ builder.frozen = false) ∧
        .left number ∉ point.events) ∧
      ((∀ builder ∈ point.world.builders, builder.pipelines.NeverEnd) → .ended ∉ point.events) := by
  refine ⟨accounted.ordered.nodup.sublist List.filter_sublist, ?_, ?_, ?_⟩
  · rw [accounted.pending]
    have subset : [Event.forgotten] ⊆ [.forgotten, .ended] := List.cons_subset_cons _ (List.nil_subset _)
    exact (List.filter_sublist.trans List.filter_sublist).trans (Event.madeSince_sublist subset point.events)
  · intro number
    have isStanding : number ∈ Event.standing point.events ↔
        number ∈ Event.madeSince [.forgotten, .ended] point.events ∧ .left number ∉ point.events := by
      simp [Event.standing]
    rw [accounted.pending, World.mem_openOf, World.isOpenAt_iff, isStanding, and_assoc]
    exact and_congr_right fun _ => and_comm
  · intro neverEnd endedMem
    rcases accounted.ending endedMem with ⟨pipelines, pipelinesMem, mayEnd⟩
    rcases List.mem_map.mp pipelinesMem with ⟨builder, builderMem, rfl⟩
    exact mayEnd (neverEnd builder builderMem)

omit accounted

/-- The builder of a block is there for as long as the block takes. -/
theorem close {number : Nat} {trace : Trace Unit} (all : trace.All (IsAccounted least)) (isMade : number < least) :
    (trace.close number).All (IsAccounted least) := by
  have left := all.orElse fun error => all.2.leave isMade error
  apply left.andThen
  intro _ _
  exact Trace.all_carryOut_silent (left.2.finalize number)

end Point.IsAccounted

namespace World.Program

variable {α : Type}

end World.Program

end SpecGraph
