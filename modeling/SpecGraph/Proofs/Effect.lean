import SpecGraph.Error.Basic

/-!
# Computations that may fail and leave a state

A computation on a state ends with a value or an error, and in both cases leaves a state. The outcome of a
chain of computations is that of its first step, followed by the rest if the step ends with a value. From
this everything is said about a computation by its parts.
-/

namespace SpecGraph

theorem eq_ok_of_toOption {ε α : Type} {result : Except ε α} {value : α} (isSome : result.toOption = some value) :
    result = .ok value := by
  cases result with
  | error => cases isSome
  | ok other => exact congrArg Except.ok (Option.some.inj isSome)

/-- A chain ends with a value if both parts do. -/
theorem bind_eq_ok {ε α β : Type} {first : Except ε α} {next : α → Except ε β} {result : β} :
    (first >>= next) = .ok result ↔ ∃ value, first = .ok value ∧ next value = .ok result := by
  cases first with
  | error failure => simp [bind, Except.bind]
  | ok value => simp [bind, Except.bind]

theorem mapM_congr_left {α β ε : Type} {first second : α → Except ε β} {elements : List α}
    (same : ∀ element ∈ elements, first element = second element) :
    elements.mapM first = elements.mapM second := by
  induction elements with
  | nil => rfl
  | cons element rest ih =>
      rw [List.forall_mem_cons] at same
      rw [List.mapM_cons, List.mapM_cons, same.1, ih same.2]

/-- What every step of a fold keeps is kept by the fold, if it ends with a value. -/
theorem foldlM_keeps {α β ε : Type} {step : β → α → Except ε β} {elements : List α} {good : β → Prop}
    (keeps : ∀ element ∈ elements, ∀ before after, good before → step before element = .ok after → good after)
    {start result : β} (isGood : good start) (folded : elements.foldlM step start = .ok result) : good result := by
  induction elements generalizing start with
  | nil =>
      cases folded
      exact isGood
  | cons element rest ih =>
      rw [List.forall_mem_cons] at keeps
      rw [List.foldlM_cons] at folded
      rcases bind_eq_ok.mp folded with ⟨next, isNext, others⟩
      exact ih keeps.2 (keeps.1 start next isGood isNext) others

/-- A computation on a state that may fail; what it did before it failed remains. -/
abbrev Effect (σ α : Type) := ExceptT Error (StateM σ) α

namespace Effect

variable {σ α β : Type}

/-- The outcome of a computation and the state that it leaves. -/
def perform (effect : Effect σ α) (state : σ) : Except Error α × σ := effect.run.run state

theorem perform_pure (value : α) (state : σ) :
    perform (pure value : Effect σ α) state = (.ok value, state) := rfl

theorem perform_throw (error : Error) (state : σ) :
    perform (throw error : Effect σ α) state = (.error error, state) := rfl

theorem perform_get (state : σ) : perform (get : Effect σ σ) state = (.ok state, state) := rfl

theorem perform_modify (change : σ → σ) (state : σ) :
    perform (modify change : Effect σ PUnit) state = (.ok ⟨⟩, change state) := rfl

/-- The outcome of a chain is that of its first step, followed by the rest. -/
theorem perform_bind (first : Effect σ α) (next : α → Effect σ β) (state : σ) :
    perform (first >>= next) state =
      match perform first state with
      | (.ok value, after) => perform (next value) after
      | (.error error, after) => (.error error, after) := by
  change (first.run >>= ExceptT.bindCont next) state = _
  change ExceptT.bindCont next (first.run state).1 (first.run state).2 = _
  unfold perform
  change _ = match first.run state with
      | (.ok value, after) => _
      | (.error error, after) => _
  rcases first.run state with ⟨outcome, after⟩
  cases outcome <;> rfl

theorem perform_bind_of_ok {first : Effect σ α} {next : α → Effect σ β} {state after : σ} {value : α}
    (done : perform first state = (.ok value, after)) :
    perform (first >>= next) state = perform (next value) after := by
  rw [perform_bind, done]

theorem perform_bind_of_error {first : Effect σ α} {next : α → Effect σ β} {state after : σ}
    {error : Error} (failed : perform first state = (.error error, after)) :
    perform (first >>= next) state = (.error error, after) := by
  rw [perform_bind, failed]

/-- A chain ends with a value only if its first step does. -/
theorem exists_of_perform_bind {first : Effect σ α} {next : α → Effect σ β} {state after : σ} {result : β}
    (done : perform (first >>= next) state = (.ok result, after)) :
    ∃ value between, perform first state = (.ok value, between) ∧
      perform (next value) between = (.ok result, after) := by
  rw [perform_bind] at done
  rcases performed : perform first state with ⟨outcome, between⟩
  rw [performed] at done
  cases outcome with
  | ok value => exact ⟨value, between, rfl, done⟩
  | error error => cases done

/-- A failure is handled in the state that it leaves. -/
theorem perform_tryCatch (body : Effect σ α) (handler : Error → Effect σ α) (state : σ) :
    perform (tryCatch body handler) state =
      match perform body state with
      | (.ok value, after) => (.ok value, after)
      | (.error error, after) => perform (handler error) after := by
  unfold perform
  rcases performed : body.run.run state with ⟨outcome, after⟩
  have ran : StateT.run (m := Id) body state = (outcome, after) := performed
  change (ExceptT.tryCatch body handler).run.run state = _
  unfold ExceptT.tryCatch
  rw [ExceptT.run_mk, StateT.run_bind, ran]
  cases outcome <;> rfl

/-- A computation leaves the state as it is. -/
def Still (effect : Effect σ α) : Prop := ∀ state, (perform effect state).2 = state

/-- A look at the state fails or tells something. -/
theorem Still.cases {effect : Effect σ α} (still : effect.Still) (state : σ) :
    (∃ error, perform effect state = (.error error, state)) ∨ ∃ value, perform effect state = (.ok value, state) := by
  rcases performed : perform effect state with ⟨outcome, after⟩
  obtain rfl : after = state := by rw [← still state, performed]
  cases outcome with
  | ok value => exact Or.inr ⟨value, rfl⟩
  | error error => exact Or.inl ⟨error, rfl⟩

theorem still_pure (value : α) : Still (pure value : Effect σ α) := fun _ => rfl

theorem still_throw (error : Error) : Still (throw error : Effect σ α) := fun _ => rfl

theorem still_get : Still (get : Effect σ σ) := fun _ => rfl

theorem still_bind {first : Effect σ α} {next : α → Effect σ β} (head : first.Still)
    (rest : ∀ value, (next value).Still) : (first >>= next).Still := by
  intro state
  rw [perform_bind]
  rcases head.cases state with ⟨error, failed⟩ | ⟨value, looked⟩
  · rw [failed]
  · rw [looked]
    exact rest value state

/-- A chain leaves what its first step does if the rest leaves every state. -/
theorem state_bind_of_still {first : Effect σ α} {next : α → Effect σ β} (state : σ)
    (rest : ∀ value, (next value).Still) : (perform (first >>= next) state).2 = (perform first state).2 := by
  rw [perform_bind]
  rcases perform first state with ⟨outcome, after⟩
  cases outcome with
  | ok value => exact rest value after
  | error error => rfl

/-- A chain that starts with a look leaves the state if the rest does, given what the look has told. -/
theorem Still.leaves_bind {first : Effect σ α} {next : α → Effect σ β} {state : σ} (still : first.Still)
    (rest : ∀ value, perform first state = (.ok value, state) → (perform (next value) state).2 = state) :
    (perform (first >>= next) state).2 = state := by
  rcases still.cases state with ⟨error, failed⟩ | ⟨value, looked⟩
  · rw [perform_bind_of_error failed]
  · rw [perform_bind_of_ok looked]
    exact rest value looked

theorem discard_eq (effect : Effect σ α) : discard effect = effect >>= fun _ => pure ⟨⟩ := by
  rw [discard, LawfulFunctor.map_const]
  exact map_eq_pure_bind _ _

theorem still_discard {effect : Effect σ α} (still : effect.Still) : Still (discard effect) := by
  rw [discard_eq]
  exact still_bind still fun _ => still_pure _

/-- A chain that starts with a look at the state ends with a value only if the look does. -/
theorem Still.exists_of_perform_bind {first : Effect σ α} {next : α → Effect σ β} {state after : σ} {result : β}
    (still : first.Still) (done : perform (first >>= next) state = (.ok result, after)) :
    ∃ value, perform first state = (.ok value, state) ∧ perform (next value) state = (.ok result, after) := by
  rcases Effect.exists_of_perform_bind done with ⟨value, between, looked, rest⟩
  obtain rfl : between = state := by rw [← still state, looked]
  exact ⟨value, looked, rest⟩

variable {good : σ → Prop}

/-- A computation keeps a property of the state, whether or not it fails. -/
def Keeps (good : σ → Prop) (effect : Effect σ α) : Prop :=
  ∀ state, good state → good (perform effect state).2

theorem Still.keeps {effect : Effect σ α} (still : effect.Still) : effect.Keeps good := by
  intro state isGood
  rw [still state]
  exact isGood

theorem good_bind {first : Effect σ α} {next : α → Effect σ β} {state : σ}
    (head : good (perform first state).2) (rest : ∀ value, (next value).Keeps good) :
    good (perform (first >>= next) state).2 := by
  rw [perform_bind]
  rcases performed : perform first state with ⟨outcome, after⟩
  rw [performed] at head
  cases outcome with
  | ok value => exact rest value after head
  | error error => exact head

theorem keeps_bind {first : Effect σ α} {next : α → Effect σ β} (head : first.Keeps good)
    (rest : ∀ value, (next value).Keeps good) : (first >>= next).Keeps good :=
  fun state isGood => good_bind (head state isGood) rest

/-- What comes after a step may use what the step has told. -/
theorem keeps_bind_told {first : Effect σ α} {next : α → Effect σ β} (head : first.Keeps good)
    (rest : ∀ value state after, perform first state = (.ok value, after) → good after →
      good (perform (next value) after).2) : (first >>= next).Keeps good := by
  intro state isGood
  rw [perform_bind]
  have isGoodAfter := head state isGood
  rcases performed : perform first state with ⟨outcome, after⟩
  rw [performed] at isGoodAfter
  cases outcome with
  | ok value => exact rest value state after performed isGoodAfter
  | error error => exact isGoodAfter

theorem keeps_discard {effect : Effect σ α} (keeps : effect.Keeps good) :
    Keeps good (discard effect) := by
  rw [discard_eq]
  exact keeps_bind keeps fun _ => (still_pure _).keeps

/-- What comes after a look at the state may use what the look has told. -/
theorem Still.good_bind {first : Effect σ α} {next : α → Effect σ β} {state : σ} (still : first.Still)
    (isGood : good state)
    (rest : ∀ value, perform first state = (.ok value, state) → good (perform (next value) state).2) :
    good (perform (first >>= next) state).2 := by
  rcases still.cases state with ⟨error, failed⟩ | ⟨value, looked⟩
  · rw [perform_bind_of_error failed]
    exact isGood
  · rw [perform_bind_of_ok looked]
    exact rest value looked

theorem keeps_modify {change : σ → σ} (each : ∀ state, good state → good (change state)) :
    (modify change : Effect σ PUnit).Keeps good := each

theorem good_tryCatch {body : Effect σ α} {handler : Error → Effect σ α} {state : σ}
    (head : good (perform body state).2) (rest : ∀ error, (handler error).Keeps good) :
    good (perform (tryCatch body handler) state).2 := by
  rw [perform_tryCatch]
  rcases performed : perform body state with ⟨outcome, later⟩
  rw [performed] at head
  cases outcome with
  | ok value => exact head
  | error error => exact rest error later head

theorem keeps_tryCatch {body : Effect σ α} {handler : Error → Effect σ α} (head : body.Keeps good)
    (rest : ∀ error, (handler error).Keeps good) : Keeps good (tryCatch body handler) :=
  fun state isGood => good_tryCatch (head state isGood) rest

end Effect

end SpecGraph
