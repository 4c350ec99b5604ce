import SpecGraph.Proofs.Foreign
import SpecGraph.Proofs.World.Kept
import SpecGraph.Proofs.World.Frozen

/-!
# Finalizing all waiting builders

The waiting builders are finalized one after the other, each as it would be on its own: the failure of one is a
failed compilation, which is caught, and no finalization touches another builder. So the list of the waiting ones
can be told before the first of them is finalized, and the failures are those of the single finalizations. Only an
error that ends the process is not caught: the builders after the one that is ended are not finalized any more.
-/

namespace SpecGraph

open Effect

namespace Run

/-- A builder that is not there or not open is not finalized, and an open one is frozen and its stages are called. -/
theorem finalize_cases (number : Nat) (world : World) :
    (world.builders[number]?.any (fun builder => !builder.frozen) = false ∧
      ∃ error, perform (finalize number) world = (.error error, world)) ∨
    ∃ builder log, world.builders[number]? = some builder ∧ builder.frozen = false ∧
      perform (finalize number) world =
        ((StageCall.runAll (builder.calls number) world.workspace.files).1,
          (world.freeze number).afterCalls (StageCall.runAll (builder.calls number) world.workspace.files).2.1
            (StageCall.runAll (builder.calls number) world.workspace.files).2.2 log) := by
  cases found : world.builders[number]? with
  | none => exact Or.inl ⟨rfl, _, perform_finalize_of_none found⟩
  | some builder =>
      cases frozen : builder.frozen with
      | true => exact Or.inl ⟨by simp [frozen], _, perform_finalize_of_frozen found frozen⟩
      | false =>
          rcases perform_finalize_of_open found frozen with ⟨log, finalized⟩
          exact Or.inr ⟨builder, log, rfl, frozen, finalized⟩

/-- Finalizing an open builder fails with a failed compilation, or it is ended together with the process. -/
theorem compilation_of_finalize {number : Nat} {world after : World} {error : Error}
    (isOpen : world.builders[number]?.any (fun builder => !builder.frozen) = true)
    (failed : perform (finalize number) world = (.error error, after)) :
    error.endsProcess = true ∨ ∃ stage target cause, error = .compilation stage target cause := by
  rcases finalize_cases number world with ⟨notOpen, _⟩ | ⟨builder, log, _, _, finalized⟩
  · rw [isOpen] at notOpen
    cases notOpen
  · rw [finalized] at failed
    rcases ran : StageCall.runAll (builder.calls number) world.workspace.files with ⟨outcome, made, files⟩
    rw [ran] at failed
    obtain rfl : outcome = .error error := congrArg Prod.fst failed
    rcases StageCall.runAll_failed ran with ⟨_, call, _, cause, _, _, rfl⟩
    cases ends : cause.endsProcess with
    | true => exact Or.inl (by rw [StageCall.endsProcess_failure, ends])
    | false => exact Or.inr ⟨_, _, cause, StageCall.failure_of_not_endsProcess ends⟩

/-- Finalizing a builder leaves the list of the waiting ones. -/
theorem waiting_finalize (number : Nat) (world : World) :
    (perform (finalize number) world).2.waiting = world.waiting := by
  rcases finalize_cases number world with ⟨_, error, failed⟩ | ⟨_, _, _, _, finalized⟩
  · rw [failed]
  · rw [finalized]
    rfl

/-- Finalizing a builder leaves the pipelines of all builders. -/
theorem pipelines_finalize (number : Nat) (world : World) :
    (perform (finalize number) world).2.builders.map Builder.pipelines = world.builders.map Builder.pipelines := by
  rcases finalize_cases number world with ⟨_, error, failed⟩ | ⟨_, _, _, _, finalized⟩
  · rw [failed]
  · rw [finalized]
    exact map_modify fun _ => rfl

/-- Finalizing a builder leaves the others. -/
theorem builder_finalize_of_ne {number other : Nat} (isOther : number ≠ other) (world : World) :
    (perform (finalize number) world).2.builders[other]? = world.builders[other]? := by
  rcases finalize_cases number world with ⟨_, error, failed⟩ | ⟨_, _, _, _, finalized⟩
  · rw [failed]
  · rw [finalized]
    change (world.builders.modify number _)[other]? = _
    rw [List.getElem?_modify_ne _ _ isOther]

theorem length_finalize (number : Nat) (world : World) :
    (perform (finalize number) world).2.builders.length = world.builders.length := by
  rcases finalize_cases number world with ⟨_, error, failed⟩ | ⟨_, _, _, _, finalized⟩
  · rw [failed]
  · rw [finalized]
    exact List.length_modify _ _ _

end Run

namespace World

/-- The builders that wait are there, in the order in which they were made. -/
structure IsOrdered (world : World) : Prop where
  /-- No builder waits twice, and earlier ones wait first. -/
  increasing : world.waiting.Pairwise (· < ·)
  /-- The builders were made. -/
  made : ∀ number ∈ world.waiting, number < world.builders.length

/-- The waiting builders are in order at all times. -/
theorem kept_isOrdered : World.Kept .any IsOrdered where
  toKeptByDeclaring := by
    refine World.keptByDeclaring (fun before after same ordered => ?_) (fun world numbers fewer ordered => ?_)
      fun builder _ => ?_
    · have waiting : after.waiting = before.waiting := congrArg Frame.waiting same
      have length := World.length_of_frame same
      exact ⟨by rw [waiting]; exact ordered.increasing, by rw [waiting, length]; exact ordered.made⟩
    · exact ⟨ordered.increasing.sublist fewer, fun number numberMem => ordered.made number (fewer.mem numberMem)⟩
    · refine keeps_bind_told still_get.keeps fun world _ _ performed ordered => ?_
      cases performed
      refine ⟨List.pairwise_append.mpr ⟨ordered.increasing, List.pairwise_singleton _ _, ?_⟩, fun number => ?_⟩
      · intro number numberMem last lastMem
        rw [List.mem_singleton.mp lastMem]
        exact ordered.made number numberMem
      · intro numberMem
        change number < (world.builders ++ [builder]).length
        rw [List.length_append]
        rcases List.mem_append.mp numberMem with before | isLast
        · exact Nat.lt_add_right 1 (ordered.made number before)
        · rw [List.mem_singleton.mp isLast]
          exact Nat.lt_succ_self _
  finalize number world ordered :=
    ⟨by rw [Run.waiting_finalize]; exact ordered.increasing,
      by rw [Run.waiting_finalize, Run.length_finalize]; exact ordered.made⟩

/-- An outcome ends the process. -/
def isEnd : Except Error Unit → Bool
  | .ok () => false
  | .error error => error.endsProcess

end World

/-- A pipeline never ends the process, whatever it is asked for. -/
def Pipeline.NeverEnds (pipeline : Pipeline) : Prop :=
  ∀ (request : StageRequest) (files : Files) (error : Error),
    ((pipeline.run request).action files).1 = .error error → error.endsProcess = false

/-- None of the pipelines of the three stages ends the process. -/
def Pipelines.NeverEnd (pipelines : Pipelines) : Prop := ∀ stage, (pipelines.ofStage stage).NeverEnds

/-- Finalizing an open builder does not end the process if its pipelines do not. -/
theorem Run.isEnd_finalize {builder : Builder} (neverEnd : builder.pipelines.NeverEnd) {number : Nat} {world : World}
    (found : world.builders[number]? = some builder) (isOpen : builder.frozen = false) :
    World.isEnd (perform (Run.finalize number) world).1 = false := by
  rcases Run.perform_finalize_of_open found isOpen with ⟨log, finalized⟩
  rw [finalized]
  rcases ran : StageCall.runAll (builder.calls number) world.workspace.files with ⟨outcome, made, files⟩
  cases outcome with
  | ok => rfl
  | error error =>
      rcases StageCall.runAll_failed ran with ⟨earlier, call, rest, cause, split, acted, rfl⟩
      have callMem : call ∈ builder.calls number := split ▸ List.mem_append_right _ List.mem_cons_self
      have isPipeline : ∃ stage, call.pipeline = builder.pipelines.ofStage stage := by
        simp only [Builder.calls, List.mem_cons, List.not_mem_nil, or_false] at callMem
        rcases callMem with rfl | rfl | rfl
        · exact ⟨.schema, rfl⟩
        · exact ⟨.storage, rfl⟩
        · exact ⟨.dispatch, rfl⟩
      rcases isPipeline with ⟨stage, isStage⟩
      rw [StageCall.action, isStage] at acted
      exact (call.endsProcess_failure cause).trans (neverEnd stage _ _ cause (congrArg Prod.fst acted))

namespace World

/-- Finalizes builders one after the other, each on its own and up to one that ends the process, and tells the outcome
of each. -/
def finalizeInTurn : List Nat → World → List (Nat × Except Error Unit) × World
  | [], world => ([], world)
  | number :: rest, world =>
      let (outcome, after) := perform (Run.finalize number) world
      let (outcomes, last) := if isEnd outcome then ([], after) else finalizeInTurn rest after
      ((number, outcome) :: outcomes, last)

/-- The root of a builder, as a text. -/
def rootText (world : World) (number : Nat) : String :=
  (world.builders[number]?.map fun builder => builder.specRoot.text).getD ""

/-- The failures among outcomes, each with the root of its builder. -/
def failures (world : World) (outcomes : List (Nat × Except Error Unit)) : List (String × Error) :=
  outcomes.filterMap fun (number, outcome) =>
    match outcome with
    | .ok () => none
    | .error error => some (world.rootText number, error)

/-- The builders among some numbers that are not frozen. -/
def openOf (world : World) (numbers : List Nat) : List Nat :=
  numbers.filter fun number => world.builders[number]?.any fun builder => !builder.frozen

/-- There is an open builder of a number. -/
def isOpenAt (world : World) (number : Nat) : Bool := world.builders[number]?.any fun builder => !builder.frozen

theorem isOpenAt_iff {world : World} {number : Nat} :
    world.isOpenAt number = true ↔ ∃ builder, world.builders[number]? = some builder ∧ builder.frozen = false := by
  simp [isOpenAt, Option.any_eq_true]

theorem pending_eq_openOf (world : World) : world.pending = world.openOf world.waiting := rfl

theorem mem_openOf {world : World} {numbers : List Nat} {number : Nat} :
    number ∈ world.openOf numbers ↔ number ∈ numbers ∧ world.isOpenAt number = true := List.mem_filter

theorem exists_of_mem_openOf {world : World} {numbers : List Nat} {number : Nat}
    (numberMem : number ∈ world.openOf numbers) :
    ∃ builder, world.builders[number]? = some builder ∧ builder.frozen = false :=
  isOpenAt_iff.mp (mem_openOf.mp numberMem).2

section Turns

variable {number : Nat} {rest : List Nat} {world : World}

theorem finalizeInTurn_of_end (ends : isEnd (perform (Run.finalize number) world).1 = true) :
    finalizeInTurn (number :: rest) world =
      ([(number, (perform (Run.finalize number) world).1)], (perform (Run.finalize number) world).2) := by
  rw [finalizeInTurn]
  simp only [ends, if_true]

theorem finalizeInTurn_of_not_end (goesOn : isEnd (perform (Run.finalize number) world).1 = false) :
    finalizeInTurn (number :: rest) world =
      ((number, (perform (Run.finalize number) world).1) ::
          (finalizeInTurn rest (perform (Run.finalize number) world).2).1,
        (finalizeInTurn rest (perform (Run.finalize number) world).2).2) := by
  rw [finalizeInTurn]
  simp only [goesOn, Bool.false_eq_true, if_false]

end Turns

/-- The builders are finalized in their order, and all of them if no outcome ends the process. Only the last outcome
may end it. -/
theorem numbers_finalizeInTurn (numbers : List Nat) (world : World) :
    (finalizeInTurn numbers world).1.map Prod.fst <+: numbers ∧
      (∀ turn ∈ (finalizeInTurn numbers world).1.dropLast, isEnd turn.2 = false) ∧
      ((∀ turn ∈ (finalizeInTurn numbers world).1, isEnd turn.2 = false) →
        (finalizeInTurn numbers world).1.map Prod.fst = numbers) := by
  induction numbers generalizing world with
  | nil => exact ⟨List.prefix_refl _, List.forall_mem_nil _, fun _ => rfl⟩
  | cons number rest ih =>
      cases ends : isEnd (perform (Run.finalize number) world).1 with
      | true =>
          rw [finalizeInTurn_of_end ends]
          refine ⟨(List.prefix_cons_inj number).mpr List.nil_prefix, List.forall_mem_nil _, fun none => ?_⟩
          have goesOn := none _ List.mem_cons_self
          rw [ends] at goesOn
          cases goesOn
      | false =>
          rcases ih (perform (Run.finalize number) world).2 with ⟨isPrefix, goOn, all⟩
          rw [finalizeInTurn_of_not_end ends]
          refine ⟨(List.prefix_cons_inj number).mpr isPrefix, fun turn turnMem => ?_, fun none => ?_⟩
          · cases others : (finalizeInTurn rest (perform (Run.finalize number) world).2).1 with
            | nil =>
                rw [others] at turnMem
                cases turnMem
            | cons second third =>
                rw [others, List.dropLast_cons_of_ne_nil (List.cons_ne_nil second third)] at turnMem
                rcases List.mem_cons.mp turnMem with rfl | later
                · exact ends
                · exact goOn turn (others ▸ later)
          · rw [List.map_cons, all fun turn turnMem => none turn (List.mem_cons_of_mem _ turnMem)]

/-- A property that every finalization keeps is kept in turn. -/
theorem keeps_finalizeInTurn {good : World → Prop} (keeps : ∀ number, Keeps good (Run.finalize number))
    (numbers : List Nat) {world : World} (isGood : good world) : good (finalizeInTurn numbers world).2 := by
  induction numbers generalizing world with
  | nil => exact isGood
  | cons number rest ih =>
      have later := keeps number world isGood
      cases ends : isEnd (perform (Run.finalize number) world).1 with
      | true =>
          rw [finalizeInTurn_of_end ends]
          exact later
      | false =>
          rw [finalizeInTurn_of_not_end ends]
          exact ih later

theorem waiting_finalizeInTurn (numbers : List Nat) (world : World) :
    (finalizeInTurn numbers world).2.waiting = world.waiting := by
  have keeps (number : Nat) : Keeps (fun later => later.waiting = world.waiting) (Run.finalize number) :=
    fun later same => (Run.waiting_finalize number later).trans same
  exact keeps_finalizeInTurn keeps numbers rfl

theorem length_finalizeInTurn (numbers : List Nat) (world : World) :
    (finalizeInTurn numbers world).2.builders.length = world.builders.length := by
  have keeps (number : Nat) : Keeps (fun later => later.builders.length = world.builders.length)
      (Run.finalize number) := fun later same => (Run.length_finalize number later).trans same
  exact keeps_finalizeInTurn keeps numbers rfl

theorem pipelines_finalizeInTurn (numbers : List Nat) (world : World) :
    (finalizeInTurn numbers world).2.builders.map Builder.pipelines = world.builders.map Builder.pipelines := by
  have keeps (number : Nat) :
      Keeps (fun later => later.builders.map Builder.pipelines = world.builders.map Builder.pipelines)
        (Run.finalize number) := fun later same => (Run.pipelines_finalize number later).trans same
  exact keeps_finalizeInTurn keeps numbers rfl

theorem rootText_finalize (number other : Nat) (world : World) :
    (perform (Run.finalize number) world).2.rootText other = world.rootText other := by
  unfold rootText
  by_cases same : number = other
  · subst same
    cases found : world.builders[number]? with
    | none => rw [Run.perform_finalize_of_none found, found]
    | some builder => rw [Run.builder_finalize found]; rfl
  · rw [Run.builder_finalize_of_ne same]

theorem failures_finalize (number : Nat) (world : World) (outcomes : List (Nat × Except Error Unit)) :
    (perform (Run.finalize number) world).2.failures outcomes = world.failures outcomes := by
  unfold failures
  simp only [rootText_finalize]

theorem failures_cons {number : Nat} {builder : Builder} {world : World}
    (found : world.builders[number]? = some builder) (outcome : Except Error Unit)
    (outcomes : List (Nat × Except Error Unit)) :
    world.failures ((number, outcome) :: outcomes) =
      (match outcome with
        | .ok () => []
        | .error error => [(builder.specRoot.text, error)]) ++ world.failures outcomes := by
  have root : world.rootText number = builder.specRoot.text := by rw [rootText, found]; rfl
  cases outcome with
  | ok => rfl
  | error error => rw [← root]; rfl

/-- What is open among other builders stays so when a builder is finalized. -/
theorem openOf_finalize {number : Nat} {rest : List Nat} (fresh : number ∉ rest) (world : World) :
    (perform (Run.finalize number) world).2.openOf rest = world.openOf rest := by
  refine List.filter_congr fun other otherMem => ?_
  have isOther : number ≠ other := by
    rintro rfl
    exact fresh otherMem
  rw [Run.builder_finalize_of_ne isOther]

/-- A frozen builder stays in the turns of the others and in its own. -/
theorem frozen_stays {number : Nat} {builder : Builder} {numbers : List Nat} {world : World}
    (frozen : builder.frozen = true) (found : world.builders[number]? = some builder) :
    (finalizeInTurn numbers world).2.builders[number]? = some builder := by
  have keeps (other : Nat) : Keeps (fun later => later.builders[number]? = some builder) (Run.finalize other) := by
    intro later there
    by_cases same : other = number
    · subst same
      rw [Run.builder_finalize there, ← frozen]
    · exact (Run.builder_finalize_of_ne same later).trans there
  exact keeps_finalizeInTurn keeps numbers found

/-- The builders that are finalized in turn are frozen then. -/
theorem frozen_finalizeInTurn {number : Nat} {builder : Builder} {numbers : List Nat} {world : World}
    (reached : number ∈ (finalizeInTurn numbers world).1.map Prod.fst)
    (found : world.builders[number]? = some builder) :
    (finalizeInTurn numbers world).2.builders[number]? = some { builder with frozen := true } := by
  induction numbers generalizing world with
  | nil => cases reached
  | cons other rest ih =>
      cases ends : isEnd (perform (Run.finalize other) world).1 with
      | true =>
          rw [finalizeInTurn_of_end ends] at reached ⊢
          obtain rfl := List.mem_singleton.mp reached
          exact Run.builder_finalize found
      | false =>
          rw [finalizeInTurn_of_not_end ends] at reached ⊢
          by_cases same : other = number
          · subst same
            exact frozen_stays rfl (Run.builder_finalize found)
          · have later := (List.mem_cons.mp reached).resolve_left fun isOther => same isOther.symm
            refine ih later ?_
            rw [Run.builder_finalize_of_ne same, found]

/-- The builders that are not finalized in turn are left. -/
theorem builder_finalizeInTurn_of_notMem {number : Nat} {numbers : List Nat} {world : World}
    (notReached : number ∉ (finalizeInTurn numbers world).1.map Prod.fst) :
    (finalizeInTurn numbers world).2.builders[number]? = world.builders[number]? := by
  induction numbers generalizing world with
  | nil => rfl
  | cons other rest ih =>
      cases ends : isEnd (perform (Run.finalize other) world).1 with
      | true =>
          rw [finalizeInTurn_of_end ends] at notReached ⊢
          exact Run.builder_finalize_of_ne (List.ne_of_not_mem_cons notReached).symm world
      | false =>
          rw [finalizeInTurn_of_not_end ends] at notReached ⊢
          rw [List.map_cons, List.mem_cons, not_or] at notReached
          rw [ih notReached.2, Run.builder_finalize_of_ne (Ne.symm notReached.1)]

/-- No outcome ends the process if no pipeline of the builders does. -/
theorem isEnd_finalizeInTurn {numbers : List Nat} {world : World} (distinct : numbers.Nodup)
    (each : ∀ number ∈ numbers, ∃ builder, world.builders[number]? = some builder ∧ builder.frozen = false ∧
      builder.pipelines.NeverEnd) :
    ∀ turn ∈ (finalizeInTurn numbers world).1, isEnd turn.2 = false := by
  induction numbers generalizing world with
  | nil => exact List.forall_mem_nil _
  | cons number rest ih =>
      rcases each number List.mem_cons_self with ⟨builder, found, isOpen, neverEnd⟩
      have goesOn := Run.isEnd_finalize neverEnd found isOpen
      rw [finalizeInTurn_of_not_end goesOn]
      refine List.forall_mem_cons.mpr ⟨goesOn, ih (List.nodup_cons.mp distinct).2 fun other otherMem => ?_⟩
      have isOther : number ≠ other := by
        rintro rfl
        exact (List.nodup_cons.mp distinct).1 otherMem
      rw [Run.builder_finalize_of_ne isOther]
      exact each other (List.mem_cons_of_mem _ otherMem)

end World

namespace Run

section Caught

variable {number : Nat} {world : World} (root : String)

/-- What an outcome that does not end the process adds to the failures. -/
def failuresOf (root : String) : Except Error Unit → List (String × Error)
  | .ok () => []
  | .error error => [(root, error)]

/-- The failure of an open builder is caught, unless it ends the process. -/
theorem perform_caught (isOpen : world.builders[number]?.any (fun builder => !builder.frozen) = true) :
    perform (tryCatch (do finalize number; pure []) fun error =>
        if error.isPackageError then pure [(root, error)] else throw error) world =
      (if World.isEnd (perform (finalize number) world).1 then .error .ended
        else .ok (failuresOf root (perform (finalize number) world).1), (perform (finalize number) world).2) := by
  rw [perform_tryCatch]
  rcases finalized : perform (finalize number) world with ⟨outcome, after⟩
  cases outcome with
  | ok => rw [perform_bind_of_ok finalized]; rfl
  | error error =>
      rw [perform_bind_of_error finalized]
      rcases compilation_of_finalize isOpen finalized with ends | ⟨stage, target, cause, rfl⟩
      · obtain rfl := Error.eq_ended_of_endsProcess ends
        rfl
      · rfl

end Caught

section Each

variable {number : Nat} {rest : List Nat} {world : World} {builder : Builder}

/-- The failures of a builder stand before those of the others, unless these are ended. -/
theorem perform_failures_append (failures : List (String × Error)) (world : World) :
    perform (do return failures ++ (← finalizeEach rest)) world =
      ((perform (finalizeEach rest) world).1.map fun others => failures ++ others,
        (perform (finalizeEach rest) world).2) := by
  rw [perform_bind]
  rcases perform (finalizeEach rest) world with ⟨outcome, after⟩
  cases outcome with
  | ok => rfl
  | error => rfl

theorem perform_finalizeEach_of_none (absent : world.builders[number]? = none) :
    perform (finalizeEach (number :: rest)) world = (.error .noBuilder, world) := by
  unfold finalizeEach Run.builder
  rw [perform_bind, perform_bind_of_ok (perform_get _), absent]
  rfl

/-- A frozen builder is passed over. -/
theorem perform_finalizeEach_of_frozen (found : world.builders[number]? = some builder)
    (frozen : builder.frozen = true) :
    perform (finalizeEach (number :: rest)) world = perform (finalizeEach rest) world := by
  rw [finalizeEach, perform_bind_of_ok (perform_builder found), frozen]
  refine (perform_failures_append [] world).trans ?_
  rcases perform (finalizeEach rest) world with ⟨outcome, after⟩
  cases outcome with
  | ok => rfl
  | error => rfl

/-- A builder that ends the process is the last one. -/
theorem perform_finalizeEach_of_end (found : world.builders[number]? = some builder) (isOpen : builder.frozen = false)
    (ends : World.isEnd (perform (finalize number) world).1 = true) :
    perform (finalizeEach (number :: rest)) world = (.error .ended, (perform (finalize number) world).2) := by
  have caught := perform_caught builder.specRoot.text (World.isOpenAt_iff.mpr ⟨builder, found, isOpen⟩)
  rw [ends, if_pos rfl] at caught
  rw [finalizeEach, perform_bind_of_ok (perform_builder found), isOpen]
  exact perform_bind_of_error caught

/-- After another one, the rest is finalized. -/
theorem perform_finalizeEach_of_not_end (found : world.builders[number]? = some builder)
    (isOpen : builder.frozen = false) (goesOn : World.isEnd (perform (finalize number) world).1 = false) :
    perform (finalizeEach (number :: rest)) world =
      ((perform (finalizeEach rest) (perform (finalize number) world).2).1.map fun others =>
          failuresOf builder.specRoot.text (perform (finalize number) world).1 ++ others,
        (perform (finalizeEach rest) (perform (finalize number) world).2).2) := by
  have caught := perform_caught builder.specRoot.text (World.isOpenAt_iff.mpr ⟨builder, found, isOpen⟩)
  rw [goesOn, if_neg Bool.false_ne_true] at caught
  rw [finalizeEach, perform_bind_of_ok (perform_builder found), isOpen]
  exact (perform_bind_of_ok caught).trans (perform_failures_append _ _)

end Each

/-- Finalizing each of some builders finalizes the open ones in turn and answers their failures, if none of them ends
the process. -/
theorem perform_finalizeEach {numbers : List Nat} {world : World} (distinct : numbers.Nodup)
    (made : ∀ number ∈ numbers, number < world.builders.length) :
    perform (finalizeEach numbers) world =
      (if (World.finalizeInTurn (world.openOf numbers) world).1.any fun turn => World.isEnd turn.2 then .error .ended
        else .ok (world.failures (World.finalizeInTurn (world.openOf numbers) world).1),
        (World.finalizeInTurn (world.openOf numbers) world).2) := by
  induction numbers generalizing world with
  | nil => rfl
  | cons number rest ih =>
      rcases List.nodup_cons.mp distinct with ⟨fresh, restDistinct⟩
      have restMade := fun other otherMem => made other (List.mem_cons_of_mem number otherMem)
      obtain ⟨builder, found⟩ : ∃ builder, world.builders[number]? = some builder :=
        ⟨_, List.getElem?_eq_getElem (made number List.mem_cons_self)⟩
      cases frozen : builder.frozen with
      | true =>
          have skipped : world.openOf (number :: rest) = world.openOf rest :=
            List.filter_cons_of_neg (by simp [found, frozen])
          rw [perform_finalizeEach_of_frozen found frozen, skipped]
          exact ih restDistinct restMade
      | false =>
          have taken : world.openOf (number :: rest) = number :: world.openOf rest :=
            List.filter_cons_of_pos (by simp [found, frozen])
          rw [taken]
          cases ends : World.isEnd (perform (finalize number) world).1 with
          | true =>
              rw [perform_finalizeEach_of_end found frozen ends, World.finalizeInTurn_of_end ends, List.any_cons, ends,
                Bool.true_or, if_pos rfl]
          | false =>
              have stillMade : ∀ other ∈ rest, other < (perform (finalize number) world).2.builders.length := by
                rw [length_finalize]
                exact restMade
              rw [perform_finalizeEach_of_not_end found frozen ends, ih restDistinct stillMade,
                World.openOf_finalize fresh, World.finalizeInTurn_of_not_end ends, List.any_cons, ends, Bool.false_or]
              split
              · rfl
              · rw [World.failures_finalize, World.failures_cons found]
                rfl

/-- Finalizing all waiting builders empties their list, finalizes the open ones in turn and fails with their failures,
or it is ended together with the process. -/
theorem perform_finalizeAll {world : World} (ordered : world.IsOrdered) :
    let (outcomes, last) := World.finalizeInTurn world.pending { world with waiting := [] }
    perform finalizeAll world =
      (if outcomes.any fun turn => World.isEnd turn.2 then .error .ended
        else if (world.failures outcomes).isEmpty then .ok ()
        else .error (.finalization (world.failures outcomes)), last) := by
  have made : ∀ number ∈ world.waiting, number < { world with waiting := [] : World }.builders.length := ordered.made
  have each := perform_finalizeEach (ordered.increasing.imp fun less => Nat.ne_of_lt less) made
  dsimp only
  unfold finalizeAll
  rw [perform_bind_of_ok (perform_get _), perform_bind_of_ok (perform_modify _ _)]
  change perform (finalizeEach world.waiting) _ = (if (World.finalizeInTurn world.pending _).1.any _ then _ else _, _)
    at each
  split at each
  next ends =>
    rw [perform_bind_of_error each, if_pos ends]
    rfl
  next goesOn =>
    rw [perform_bind_of_ok each, if_neg goesOn]
    change perform (if !(world.failures (World.finalizeInTurn world.pending { world with waiting := [] }).1).isEmpty
      then throw _ else pure _) _ = _
    cases (world.failures (World.finalizeInTurn world.pending { world with waiting := [] }).1).isEmpty
    · rfl
    · rfl

end Run

end SpecGraph
