import SpecGraph.Proofs.Manifest.Form
import SpecGraph.Proofs.Session.Moments
import SpecGraph.Proofs.World.Declare

/-!
# Plain steps

A step is plain if it declares by name and body only, with texts for the names of fields and keys and truth
values for flags. It may make, ask and finalize builders as well, but it reads no document and touches no file.
So plain steps are in the plain manner, and keep what the simple operations keep in it.
-/

namespace SpecGraph

/-- All items of a value are texts. -/
def Data.holdsTexts (value : Data) : Bool :=
  match value.items with
  | .ok items => items.all Data.isText
  | .error _ => true

theorem Data.isText_iff {value : Data} : value.isText = true ↔ ∃ text, value = .text text := by
  cases value <;> simp [isText]

theorem Data.isSome_bool?_iff {value : Data} : value.bool?.isSome = true ↔ ∃ flag, value = .bool flag := by
  cases value <;> simp [bool?]

/-- A command declares by name only, and neither reads a document nor touches a bare namespace or a file. -/
def Command.isPlain : Command → Bool
  | apply .. | openSpace .. | writeFile .. | deleteFile .. | spaceSchema .. | spaceCollection .. |
    spaceDispatch .. | spaceAgain .. => false
  | _ => true

mutual

/-- An action names fields and keys by texts and sets flags to truth values. -/
def Action.isPlain : Action → Bool
  | .field name _ _ | .member name _ _ | .reference name _ _ | .schema name _ _ => name.isText
  | .tagged name tag _ => name.isText && tag.text? != some "set_compact"
  | .inline name body _ => name.isText && Action.arePlain body
  | .key names => names.holdsTexts
  | .compact value => value.bool?.isSome
  | .giveUp _ => true
  | .outward body => Action.arePlain body
  | .step step => step.isPlain

/-- All actions are plain. -/
def Action.arePlain : List Action → Bool
  | [] => true
  | action :: rest => action.isPlain && Action.arePlain rest

/-- A step is a plain command, or declares a flag that is a truth value and has a plain body. -/
def Step.isPlain : Step → Bool
  | .command command => command.isPlain
  | .block _ steps => Step.arePlain steps
  | .schema _ _ compact body => compact.bool?.isSome && Action.arePlain body
  | .collection _ _ body | .dispatch _ _ body | .edit _ body => Action.arePlain body

/-- All steps are plain. -/
def Step.arePlain : List Step → Bool
  | [] => true
  | step :: rest => step.isPlain && Step.arePlain rest

end

mutual

/-- The names of the fields that an action declares a nested schema for. A target that is no text counts as the
body of one. -/
def Action.nestedNames : Action → List String
  | .inline name body _ => name.text?.toList ++ Action.allNestedNames body
  | .reference name target _ =>
      match target.text? with
      | some _ => []
      | none => name.text?.toList
  | .outward body => Action.allNestedNames body
  | .step step => step.nestedNames
  | _ => []

/-- The names of the fields that actions declare nested schemas for. -/
def Action.allNestedNames : List Action → List String
  | [] => []
  | action :: rest => action.nestedNames ++ Action.allNestedNames rest

/-- The names of the fields that a step declares nested schemas for. -/
def Step.nestedNames : Step → List String
  | .command _ => []
  | .block _ steps => Step.allNestedNames steps
  | .schema _ _ _ body | .collection _ _ body | .dispatch _ _ body | .edit _ body => Action.allNestedNames body

/-- The names of the fields that steps declare nested schemas for. -/
def Step.allNestedNames : List Step → List String
  | [] => []
  | step :: rest => step.nestedNames ++ Step.allNestedNames rest

end

section Obeying

variable {nested : String → Prop}

theorem Command.obeys_of_isPlain {command : Command} (isPlain : command.isPlain = true) :
    command.Obeys (.plain nested) := by
  cases command
  case apply | openSpace | writeFile | deleteFile | spaceSchema | spaceCollection | spaceDispatch | spaceAgain =>
    cases isPlain
  all_goals trivial

mutual

/-- A plain action is in the plain manner, if the names of nested schemas are. -/
theorem Action.obeys_of_isPlain : ∀ action : Action, action.isPlain = true →
    (∀ name ∈ action.nestedNames, nested name) → action.Obeys (.plain nested)
  | .field .., isPlain, _ | .member .., isPlain, _ | .schema .., isPlain, _ => Data.isText_iff.mp isPlain
  | .tagged name tag optional, isPlain, _ => by
      rw [Action.isPlain, Bool.and_eq_true, bne_iff_ne] at isPlain
      rw [Action.Obeys, if_neg isPlain.2]
      exact Data.isText_iff.mp isPlain.1
  | .reference name target optional, isPlain, names => by
      refine ⟨Data.isText_iff.mp isPlain, fun noText text isName => names text ?_⟩
      rw [Action.nestedNames, noText, isName]
      exact List.mem_singleton_self text
  | .inline name body optional, isPlain, names => by
      rw [Action.isPlain, Bool.and_eq_true] at isPlain
      rw [Action.nestedNames, List.forall_mem_append] at names
      refine ⟨Data.isText_iff.mp isPlain.1, fun text isName => names.1 text ?_, ?_⟩
      · rw [isName]
        exact List.mem_singleton_self text
      · exact Action.allObey_of_arePlain body isPlain.2 names.2
  | .key names, isPlain, _ => by
      intro items isItems name nameMem
      rw [Action.isPlain, Data.holdsTexts, isItems] at isPlain
      exact Data.isText_iff.mp (List.all_eq_true.mp isPlain name nameMem)
  | .compact value, isPlain, _ => Data.isSome_bool?_iff.mp isPlain
  | .giveUp message, _, _ => trivial
  | .outward body, isPlain, names => Action.allObey_of_arePlain body isPlain names
  | .step step, isPlain, names => Step.obeys_of_isPlain step isPlain names

theorem Action.allObey_of_arePlain : ∀ body : List Action, Action.arePlain body = true →
    (∀ name ∈ Action.allNestedNames body, nested name) → Action.AllObey (.plain nested) body
  | [], _, _ => trivial
  | action :: rest, arePlain, names => by
      rw [Action.arePlain, Bool.and_eq_true] at arePlain
      rw [Action.allNestedNames, List.forall_mem_append] at names
      exact ⟨Action.obeys_of_isPlain action arePlain.1 names.1, Action.allObey_of_arePlain rest arePlain.2 names.2⟩

/-- A plain step is in the plain manner, if the names of nested schemas are. -/
theorem Step.obeys_of_isPlain : ∀ step : Step, step.isPlain = true →
    (∀ name ∈ step.nestedNames, nested name) → step.Obeys (.plain nested)
  | .command command, isPlain, _ => Command.obeys_of_isPlain isPlain
  | .block spec steps, isPlain, names => Step.allObey_of_arePlain steps isPlain names
  | .schema index name compact body, isPlain, names => by
      rw [Step.isPlain, Bool.and_eq_true] at isPlain
      exact ⟨Data.isSome_bool?_iff.mp isPlain.1, Action.allObey_of_arePlain body isPlain.2 names⟩
  | .collection _ _ body, isPlain, names | .dispatch _ _ body, isPlain, names | .edit _ body, isPlain, names =>
      Action.allObey_of_arePlain body isPlain names

theorem Step.allObey_of_arePlain : ∀ steps : List Step, Step.arePlain steps = true →
    (∀ name ∈ Step.allNestedNames steps, nested name) → Step.AllObey (.plain nested) steps
  | [], _, _ => trivial
  | step :: rest, arePlain, names => by
      rw [Step.arePlain, Bool.and_eq_true] at arePlain
      rw [Step.allNestedNames, List.forall_mem_append] at names
      exact ⟨Step.obeys_of_isPlain step arePlain.1 names.1, Step.allObey_of_arePlain rest arePlain.2 names.2⟩

end

end Obeying

end SpecGraph
