import SpecGraph.Proofs.Session.Kept

/-!
# The moments of a session

The moments of a session are the worlds between its steps, between the actions of their bodies, and between the
steps that these take in turn. What the simple operations keep is so at every moment of a session that is in their
manner: bodies are followed by induction, whether or not they fail.
-/

namespace SpecGraph

namespace Session

open Effect Run

/-- The world after steps, which go on after one that fails. -/
def after (world : World) (steps : List Step) : World :=
  steps.foldl (fun world step => (perform world step).2) world

theorem after_append (world : World) (first second : List Step) :
    after world (first ++ second) = after (after world first) second := List.foldl_append

/-- The world after an operation that does not fail, and the moments inside what comes after it. -/
def momentsAfter {α : Type} (operation : Run α) (world : World) (inner : α → World → List World) : List World :=
  match Effect.perform operation world with
  | (.ok value, after) => after :: inner value after
  | (.error _, _) => []

mutual

/-- The moments inside an action. -/
def momentsIn (ref : SchemaRef) (around : List SchemaRef) : Action → World → List World
  | .inline name body _, world =>
      momentsAfter (declareNested ref name) world fun nested => momentsInBody nested (ref :: around) body
  | .outward body, world =>
      match around with
      | outer :: rest => momentsInBody outer rest body world
      | [] => []
  | .step step, world => momentsInStep step world
  | _, _ => []

/-- The moments inside a body. -/
def momentsInBody (ref : SchemaRef) (around : List SchemaRef) : List Action → World → List World
  | [], _ => []
  | action :: rest, world =>
      momentsIn ref around action world ++
        momentsAfter (act ref around action) world fun _ => momentsInBody ref around rest

/-- The moments inside a step. -/
def momentsInStep : Step → World → List World
  | .command _, _ => []
  | .block spec steps, world => momentsAfter (createFrom spec) world fun _ => momentsInBlock steps
  | .schema index name compact body, world =>
      momentsAfter (do declareSchema (← numberOf index) name compact) world fun ref => momentsInBody ref [] body
  | .collection index name body, world =>
      momentsAfter (do declareCollection (← numberOf index) name) world fun ref => momentsInBody ref [] body
  | .dispatch index name body, world =>
      momentsAfter (do openDispatch (← numberOf index) name) world fun (space, path) after =>
        momentsAfter (addSchema space (Schema.empty path (.bool false) false)) after fun ref =>
          momentsInBody ref [] body
  | .edit schema body, world => momentsAfter (findSchema schema) world fun ref => momentsInBody ref [] body

/-- The moments inside steps that end with the first one that fails. -/
def momentsInBlock : List Step → World → List World
  | [], _ => []
  | step :: rest, world =>
      momentsInStep step world ++ momentsAfter (take step) world fun _ => momentsInBlock rest

end

/-- The moments after the start of a session. -/
def moments : World → List Step → List World
  | _, [] => []
  | world, step :: rest =>
      momentsInStep step world ++ (perform world step).2 :: moments (perform world step).2 rest

/-- The worlds between the steps are moments. -/
theorem after_take_mem (count : Nat) (steps : List Step) (world : World) :
    after world (steps.take count) ∈ world :: moments world steps := by
  induction steps generalizing world count with
  | nil =>
      rw [List.take_nil]
      exact List.mem_cons_self
  | cons step rest ih =>
      cases count with
      | zero => exact List.mem_cons_self
      | succ count => exact List.mem_cons_of_mem _ (List.mem_append_right _ (ih count (perform world step).2))

section Upholding

variable {α β : Type} {good : World → Prop} {inner : World → List World}

/-- An operation leaves a property true at the moments inside it and at its end. -/
def UpholdsAt (good : World → Prop) (inner : World → List World) (operation : Run α) (world : World) : Prop :=
  (∀ moment ∈ inner world, good moment) ∧ good (Effect.perform operation world).2

/-- An operation upholds a property that is true when it starts. -/
def Upholds (good : World → Prop) (inner : World → List World) (operation : Run α) : Prop :=
  ∀ world, good world → UpholdsAt good inner operation world

theorem upholds_of_keeps {operation : Run α} (keeps : Keeps good operation) :
    Upholds good (fun _ => []) operation :=
  fun world isGood => ⟨List.forall_mem_nil _, keeps world isGood⟩

theorem Upholds.bind {first : Run α} {next : α → Run β} (head : Upholds good inner first)
    (rest : ∀ value, Keeps good (next value)) : Upholds good inner (first >>= next) :=
  fun world isGood => ⟨(head world isGood).1, good_bind (head world isGood).2 rest⟩

theorem upholds_momentsAfter {inner : α → World → List World} {first : Run α} {next : α → Run β}
    (head : Keeps good first)
    (rest : ∀ value world after, Effect.perform first world = (.ok value, after) → good after →
      UpholdsAt good (inner value) (next value) after) :
    Upholds good (fun world => momentsAfter first world inner) (first >>= next) := by
  intro world isGood
  have isGoodAfter := head world isGood
  unfold UpholdsAt
  dsimp only
  rw [perform_bind, momentsAfter]
  rcases performed : Effect.perform first world with ⟨outcome, after⟩
  rw [performed] at isGoodAfter
  cases outcome with
  | ok value =>
      have upheld := rest value world after performed isGoodAfter
      exact ⟨List.forall_mem_cons.mpr ⟨isGoodAfter, upheld.1⟩, upheld.2⟩
  | error error => exact ⟨List.forall_mem_nil _, isGoodAfter⟩

/-- The moments of a chain are those of its first operation, and those after it. -/
theorem upholds_append {before : World → List World} {inner : α → World → List World} {first : Run α}
    {next : α → Run β} (head : Upholds good before first) (rest : ∀ value, Upholds good (inner value) (next value)) :
    Upholds good (fun world => before world ++ momentsAfter first world inner) (first >>= next) := by
  intro world isGood
  have upheld := upholds_momentsAfter (fun world isGood => (head world isGood).2)
    (fun value _ after _ isGood => rest value after isGood) world isGood
  exact ⟨List.forall_mem_append.mpr ⟨(head world isGood).1, upheld.1⟩, upheld.2⟩

end Upholding

variable {manner : Manner} {good : World → Prop}

theorem Upholds.closeBlock (kept : World.Kept manner good) {inner : World → List World} {declarations : Run Unit}
    (declares : Upholds good inner declarations) (number : Nat) :
    Upholds good inner (Run.closeBlock number declarations) :=
  fun world isGood => ⟨(declares world isGood).1,
    good_bind (good_tryCatch (declares world isGood).2 fun _ =>
      keeps_bind (kept.keeps_abandon number) fun _ => (still_throw _).keeps) fun _ => kept.finalize number⟩

mutual

/-- An action in a manner upholds what the simple operations keep. -/
theorem upholds_act (kept : World.Kept manner good) (ref : SchemaRef) (around : List SchemaRef) :
    ∀ action : Action, action.Obeys manner →
      Upholds good (momentsIn ref around action) (act ref around action)
  | .field .., obeys | .member .., obeys | .tagged .., obeys | .reference .., obeys | .schema .., obeys
  | .key _, obeys | .compact _, obeys | .giveUp _, obeys =>
      upholds_of_keeps (keeps_simple kept.toKeptByRegistering ref around obeys rfl)
  | .inline name body optional, obeys =>
      upholds_momentsAfter (kept.keeps_declareNested ref obeys.2.1) fun nested _ after performed isGood =>
        ((upholds_actAll kept nested (ref :: around) body obeys.2.2).bind fun _ =>
          keeps_bind (kept.addField ref obeys.1 (Or.inr (kept.address_of_declareNested isGood performed))) fun _ =>
            keeps_relaxIf kept.toKeptByRegistering optional _) after isGood
  | .outward body, obeys => by
      cases around with
      | nil => exact upholds_of_keeps (still_throw _).keeps
      | cons outer rest => exact upholds_actAll kept outer rest body obeys
  | .step step, obeys => by
      rw [act, discard_eq]
      exact (upholds_take kept step obeys).bind fun _ => (still_pure _).keeps

/-- Actions in a manner uphold what the simple operations keep. -/
theorem upholds_actAll (kept : World.Kept manner good) (ref : SchemaRef) (around : List SchemaRef) :
    ∀ body : List Action, Action.AllObey manner body →
      Upholds good (momentsInBody ref around body) (actAll ref around body)
  | [], _ => upholds_of_keeps (still_pure _).keeps
  | action :: rest, obeys =>
      upholds_append (upholds_act kept ref around action obeys.1) fun _ => upholds_actAll kept ref around rest obeys.2

/-- A step in a manner upholds what the simple operations keep. -/
theorem upholds_take (kept : World.Kept manner good) : ∀ step : Step, step.Obeys manner →
    Upholds good (momentsInStep step) (take step)
  | .command command, obeys => upholds_of_keeps (keeps_command kept obeys)
  | .block spec steps, obeys =>
      upholds_momentsAfter (keeps_createFrom kept.toKeptByDeclaring spec) fun number _ after _ isGood =>
        (((upholds_takeAll kept steps obeys).closeBlock kept number).bind fun _ => (still_pure _).keeps) after isGood
  | .schema index name compact body, obeys => by
      unfold take
      rw [← bind_assoc]
      refine upholds_momentsAfter ?_ fun ref _ after _ isGood =>
        ((upholds_actAll kept ref [] body obeys.2).bind fun _ => (still_schemaData ref).keeps) after isGood
      exact keeps_bind (still_numberOf index).keeps fun _ => kept.keeps_declareSchema _ _ obeys.1
  | .collection index name body, obeys => by
      unfold take
      rw [← bind_assoc]
      refine upholds_momentsAfter ?_ fun ref _ after _ isGood =>
        ((upholds_actAll kept ref [] body obeys).bind fun _ => ?_) after isGood
      · exact keeps_bind (still_numberOf index).keeps fun _ => kept.keeps_declareCollection _ _
      · exact keeps_bind (still_collectionData ref).keeps fun _ =>
          keeps_bind (still_schemaData ref).keeps fun _ => (still_pure _).keeps
  | .dispatch index name body, obeys => by
      unfold take
      rw [← bind_assoc]
      refine upholds_momentsAfter ?_ fun opened world after performed isGood => ?_
      · exact keeps_bind (still_numberOf index).keeps fun _ => kept.keeps_openDispatch _ _
      · have isPath : manner.path opened.2 := by
          rcases (still_numberOf index).exists_of_perform_bind performed with ⟨_, _, resolved⟩
          exact kept.path_of_openDispatch resolved
        refine upholds_momentsAfter (kept.addSchema opened.1 isPath kept.fit.off)
          (fun ref _ later registered isGood => ?_) after isGood
        have isAddress := kept.address_of_addSchema isGood registered
        exact ((upholds_actAll kept ref [] body obeys).bind fun _ =>
          keeps_bind (kept.addDispatch opened.1 _ isAddress) fun _ => (still_dispatchData _ _).keeps) later isGood
  | .edit schema body, obeys =>
      upholds_momentsAfter (still_findSchema schema).keeps fun ref _ after _ isGood =>
        ((upholds_actAll kept ref [] body obeys).bind fun _ => (still_schemaData ref).keeps) after isGood

/-- Steps in a manner uphold what the simple operations keep. -/
theorem upholds_takeAll (kept : World.Kept manner good) : ∀ steps : List Step, Step.AllObey manner steps →
    Upholds good (momentsInBlock steps) (takeAll steps)
  | [], _ => upholds_of_keeps (still_pure _).keeps
  | step :: rest, obeys =>
      upholds_append (upholds_take kept step obeys.1) fun _ => upholds_takeAll kept rest obeys.2

end

theorem keeps_take (kept : World.Kept manner good) (step : Step) (obeys : step.Obeys manner) :
    Keeps good (take step) :=
  fun world isGood => (upholds_take kept step obeys world isGood).2

/-- What the simple operations keep is so at every moment of a session that is in their manner. -/
theorem good_of_mem_moments (kept : World.Kept manner good) {steps : List Step} (obeys : Step.AllObey manner steps)
    {world : World} (isGood : good world) : ∀ moment ∈ moments world steps, good moment := by
  induction steps generalizing world with
  | nil => exact List.forall_mem_nil _
  | cons step rest ih =>
      have upheld := upholds_take kept step obeys.1 world isGood
      exact List.forall_mem_append.mpr ⟨upheld.1, List.forall_mem_cons.mpr ⟨upheld.2, ih obeys.2 upheld.2⟩⟩

end Session

end SpecGraph
