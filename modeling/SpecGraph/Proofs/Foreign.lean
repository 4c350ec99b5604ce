import SpecGraph.Proofs.Workspace
import SpecGraph.World.Report

/-!
# Errors from outside the package

Some computations cannot fail with an error of the package: readers of texts, comparisons of values and accesses to
files fail with errors of their own. A chain fails only with the errors of its parts.
-/

namespace SpecGraph

/-- An error is none of the package, and it does not end the process. -/
def Error.IsForeign (error : Error) : Prop := (error.isPackageError || error.endsProcess) = false

/-- An error does not end the process. -/
def Error.GoesOn (error : Error) : Prop := error.endsProcess = false

theorem Error.IsForeign.isPackageError {error : Error} (foreign : error.IsForeign) : error.isPackageError = false :=
  (Bool.or_eq_false_iff.mp foreign).1

theorem Error.IsForeign.goesOn {error : Error} (foreign : error.IsForeign) : error.GoesOn :=
  (Bool.or_eq_false_iff.mp foreign).2

/-- If a result is an error, it is such an error. -/
def FailsOnly {α : Type} (such : Error → Prop) (result : Except Error α) : Prop :=
  ∀ error, result = .error error → such error

section Results

variable {α β : Type} {such : Error → Prop}

theorem failsOnly_ok (value : α) : FailsOnly such (.ok value : Except Error α) := nofun

theorem failsOnly_error {error : Error} (isSuch : such error) : FailsOnly such (.error error : Except Error α) := by
  intro other same
  cases same
  exact isSuch

theorem FailsOnly.bind {first : Except Error α} {next : α → Except Error β} (head : FailsOnly such first)
    (rest : ∀ value, first = .ok value → FailsOnly such (next value)) : FailsOnly such (first >>= next) := by
  cases first with
  | error error => exact failsOnly_error (head error rfl)
  | ok value => exact rest value rfl

theorem failsOnly_mapM {image : α → Except Error β} {elements : List α}
    (each : ∀ element ∈ elements, FailsOnly such (image element)) : FailsOnly such (elements.mapM image) := by
  induction elements with
  | nil => exact failsOnly_ok []
  | cons element rest ih =>
      rw [List.forall_mem_cons] at each
      rw [List.mapM_cons]
      exact each.1.bind fun _ _ => (ih each.2).bind fun _ _ => failsOnly_ok _

/-- Where a condition decides between two results, both have to fail in the same way. -/
theorem failsOnly_ite {condition : Prop} [Decidable condition]
    {first second : Except Error α} (ofFirst : FailsOnly such first) (ofSecond : FailsOnly such second) :
    FailsOnly such (if condition then first else second) := by
  split
  · exact ofFirst
  · exact ofSecond

theorem FailsOnly.weaken {result : Except Error α} {other : Error → Prop} (fails : FailsOnly such result)
    (each : ∀ error, such error → other error) : FailsOnly other result :=
  fun error same => each error (fails error same)

end Results

namespace Effect

variable {σ α β : Type} {such : Error → Prop}

/-- If a computation fails, it does so with such an error. -/
def FailsOnly (such : Error → Prop) (effect : Effect σ α) : Prop :=
  ∀ state, SpecGraph.FailsOnly such (perform effect state).1

theorem failsOnly_pure (value : α) : FailsOnly such (pure value : Effect σ α) := fun _ => failsOnly_ok value

theorem failsOnly_throw {error : Error} (isSuch : such error) : FailsOnly such (throw error : Effect σ α) :=
  fun _ => failsOnly_error isSuch

theorem failsOnly_get : FailsOnly such (get : Effect σ σ) := fun _ => failsOnly_ok _

theorem failsOnly_modify (change : σ → σ) : FailsOnly such (modify change : Effect σ PUnit) := fun _ => failsOnly_ok _

theorem failsOnly_bind {first : Effect σ α} {next : α → Effect σ β} (head : FailsOnly such first)
    (rest : ∀ value, FailsOnly such (next value)) : FailsOnly such (first >>= next) := by
  intro state
  rw [perform_bind]
  have ofFirst := head state
  rcases performed : perform first state with ⟨outcome, after⟩
  rw [performed] at ofFirst
  cases outcome with
  | error error => exact failsOnly_error (ofFirst error rfl)
  | ok value => exact rest value after

/-- A computation that fails under a condition and goes on otherwise. -/
theorem failsOnly_guard {condition : Prop} [Decidable condition] {error : Error} {rest : PUnit → Effect σ α}
    (isSuch : such error) (goesOn : FailsOnly such (rest ⟨⟩)) :
    FailsOnly such (if condition then throw error >>= rest else rest ⟨⟩) := by
  split
  · exact failsOnly_bind (failsOnly_throw isSuch) fun _ => goesOn
  · exact goesOn

theorem failsOnly_unless {condition : Prop} [Decidable condition] {error : Error} (isSuch : such error) :
    FailsOnly such (if condition then throw error else pure ⟨⟩ : Effect σ PUnit) := by
  split
  · exact failsOnly_throw isSuch
  · exact failsOnly_pure _

theorem FailsOnly.weaken {effect : Effect σ α} {other : Error → Prop} (fails : FailsOnly such effect)
    (each : ∀ error, such error → other error) : FailsOnly other effect :=
  fun state => SpecGraph.FailsOnly.weaken (fails state) each

/-- A failure that is handled leaves the errors of its handler. -/
theorem failsOnly_tryCatch {body : Effect σ α} {handler : Error → Effect σ α}
    (each : ∀ error, FailsOnly such (handler error)) : FailsOnly such (tryCatch body handler) := by
  intro state
  rw [perform_tryCatch]
  rcases perform body state with ⟨outcome, after⟩
  cases outcome with
  | error error => exact each error after
  | ok value => exact failsOnly_ok value

end Effect

namespace Json

/-- What a JSON text cannot be read for is an error from outside the package. -/
theorem failsOnly_readText (text : List Char) : FailsOnly Error.IsForeign (readText text) := by
  simp only [readText]
  split
  · exact failsOnly_ok _
  · exact failsOnly_error rfl

theorem failsOnly_readScalar (text : List Char) : FailsOnly Error.IsForeign (readScalar text) := by
  have unsigned (negative : Bool) (text : List Char) : FailsOnly Error.IsForeign (readUnsigned negative text) := by
    simp only [readUnsigned]
    split
    · exact failsOnly_error rfl
    · split
      · split
        · exact failsOnly_error rfl
        · exact failsOnly_ok _
      · exact failsOnly_ok _
  simp only [readScalar]
  split
  · exact failsOnly_ok _
  · split
    · exact unsigned _ _
    · exact unsigned _ _

mutual

theorem failsOnly_readValue (room : Nat) : ∀ (fuel : Nat) (text : List Char),
    FailsOnly Error.IsForeign (readValue room fuel text)
  | 0, _ => by
      rw [readValue]
      exact failsOnly_error rfl
  | fuel + 1, [] => by
      rw [readValue]
      exact failsOnly_error rfl
  | fuel + 1, character :: rest => by
      rw [readValue]
      split
      · exact (failsOnly_readText rest).bind fun _ _ => failsOnly_ok _
      · split
        · cases room with
          | zero =>
              rw [if_pos rfl]
              exact failsOnly_error rfl
          | succ room =>
              rw [if_neg (Nat.succ_ne_zero room)]
              dsimp only
              split
              · exact failsOnly_ok _
              · exact (failsOnly_readItems _ fuel _).bind fun _ _ => failsOnly_ok _
        · split
          · cases room with
            | zero =>
                rw [if_pos rfl]
                exact failsOnly_error rfl
            | succ room =>
                rw [if_neg (Nat.succ_ne_zero room)]
                dsimp only
                split
                · split
                  · exact failsOnly_ok _
                  · exact (failsOnly_readEntries _ fuel _).bind fun _ _ => failsOnly_ok _
                · exact failsOnly_error rfl
          · exact failsOnly_readScalar _

theorem failsOnly_readItems (room : Nat) : ∀ (fuel : Nat) (text : List Char),
    FailsOnly Error.IsForeign (readItems room fuel text)
  | 0, _ => by
      rw [readItems]
      exact failsOnly_error rfl
  | fuel + 1, text => by
      rw [readItems]
      refine (failsOnly_readValue room fuel text).bind fun _ _ => ?_
      dsimp only
      split
      · exact (failsOnly_readItems room fuel _).bind fun _ _ => failsOnly_ok _
      · exact failsOnly_ok _
      · exact failsOnly_error rfl

theorem failsOnly_readEntries (room : Nat) : ∀ (fuel : Nat) (text : List Char),
    FailsOnly Error.IsForeign (readEntries room fuel text)
  | 0, _ => by
      rw [readEntries]
      exact failsOnly_error rfl
  | fuel + 1, text => by
      unfold readEntries
      split
      · refine (failsOnly_readText _).bind fun _ _ => ?_
        dsimp only
        split
        · refine (failsOnly_readValue room fuel _).bind fun _ _ => ?_
          split
          · split
            · exact (failsOnly_readEntries room fuel _).bind fun _ _ => failsOnly_ok _
            · split
              · exact failsOnly_ok _
              · exact failsOnly_error rfl
          · exact failsOnly_error rfl
        · exact failsOnly_error rfl
      · exact failsOnly_error rfl

end

/-- A text that cannot be read as JSON is refused with an error from outside the package. -/
theorem failsOnly_read (text : String) : FailsOnly Error.IsForeign (read text) := by
  refine (failsOnly_readValue _ _ _).bind fun _ _ => ?_
  dsimp only
  split
  · exact failsOnly_ok _
  · exact failsOnly_error rfl

end Json

namespace Job

open Effect

theorem failsOnly_ofFault {α : Type} (result : Except Fault α) : Effect.FailsOnly Error.IsForeign (ofFault result) := by
  cases result with
  | ok value => exact failsOnly_pure value
  | error fault => exact failsOnly_throw rfl

theorem failsOnly_ensurePossible (path : Path) : Effect.FailsOnly Error.IsForeign (ensurePossible path) := by
  unfold ensurePossible
  exact failsOnly_guard rfl (failsOnly_unless rfl)

theorem failsOnly_replaceFiles (path : Path) (change : Files → Option Files) :
    Effect.FailsOnly Error.IsForeign (replaceFiles path change) := by
  refine failsOnly_bind (failsOnly_ensurePossible path) fun _ => failsOnly_bind failsOnly_get fun workspace => ?_
  split
  · exact failsOnly_modify _
  · exact failsOnly_throw rfl

end Job

/-- A manifest that cannot be loaded is refused with an error from outside the package. -/
theorem Manifest.failsOnly_load (path : Path) : Effect.FailsOnly Error.IsForeign (load path) := by
  intro workspace
  rw [perform_load]
  simp only [loaded]
  split
  · exact failsOnly_error rfl
  · split
    · split
      · exact failsOnly_error rfl
      · next text _ =>
          have ofText := Json.failsOnly_read text
          split
          · next error failed => exact failsOnly_error (ofText error failed)
          · exact failsOnly_ok _
          · exact failsOnly_ok _
    · exact failsOnly_ok _

namespace Builder

open Effect Job Manifest

/-- Builders are compared with manifests without errors of the package. -/
theorem failsOnly_changes (builder : Builder) : Effect.FailsOnly Error.IsForeign builder.changes := by
  simp only [changes]
  refine failsOnly_bind (failsOnly_load _) fun _ => ?_
  refine failsOnly_bind (failsOnly_load _) fun _ => ?_
  refine failsOnly_bind (failsOnly_load _) fun _ => ?_
  refine failsOnly_bind (failsOnly_ofFault _) fun _ => ?_
  refine failsOnly_bind (failsOnly_ofFault _) fun _ => ?_
  refine failsOnly_bind (failsOnly_ofFault _) fun _ => ?_
  exact failsOnly_pure _

end Builder

namespace Manifest

open Effect Job

end Manifest

end SpecGraph
