import SpecGraph.Proofs.Graph.Plain

/-!
# Growing graphs

Nothing that was declared is taken back or moved: a list of declarations grows at its end only, and a declaration
stays at its place. The place of a field is its place in what is written, and the places of declarations fix their
numbers. At its place a field may become optional, and a flag or a key may be set; names, types and requests stay.
-/

namespace SpecGraph

/-- Every element of a list is at its place in another one, as it has grown. -/
def GrowsBy {α : Type} (grows : α → α → Prop) (earlier later : List α) : Prop :=
  ∀ (place : Nat) (element : α), earlier[place]? = some element →
    ∃ grown, later[place]? = some grown ∧ grows element grown

namespace GrowsBy

variable {α : Type} {grows : α → α → Prop} (same : ∀ element, grows element element)

theorem trans (grows : α → α → Prop)
    (join : ∀ {first second third : α}, grows first second → grows second third → grows first third)
    {first second third : List α} (before : GrowsBy grows first second) (after : GrowsBy grows second third) :
    GrowsBy grows first third := by
  intro place element there
  rcases before place element there with ⟨between, isBetween, grown⟩
  rcases after place between isBetween with ⟨last, isLast, grownFurther⟩
  exact ⟨last, isLast, join grown grownFurther⟩

/-- What the elements keep as they grow is found at the same place. -/
theorem findIdx?_eq {earlier later : List α} (grown : GrowsBy grows earlier later) {test : α → Bool}
    (kept : ∀ {element other}, grows element other → test other = test element) {place : Nat}
    (found : earlier.findIdx? test = some place) : later.findIdx? test = some place := by
  rcases List.findIdx?_eq_some_iff_getElem.mp found with ⟨less, isFound, others⟩
  have grownAt (position : Nat) (before : position < earlier.length) :
      ∃ isPlace : position < later.length, test later[position] = test earlier[position] := by
    rcases grown position _ (List.getElem?_eq_getElem before) with ⟨other, there, hasGrown⟩
    rcases List.getElem?_eq_some_iff.mp there with ⟨isPlace, rfl⟩
    exact ⟨isPlace, kept hasGrown⟩
  rcases grownAt place less with ⟨isPlace, sameTest⟩
  refine List.findIdx?_eq_some_iff_getElem.mpr ⟨isPlace, sameTest.trans isFound, fun position before => ?_⟩
  rw [(grownAt position (Nat.lt_trans before less)).2]
  exact others position before

/-- What is found by something that the elements keep is found as it has grown. -/
theorem find?_eq {earlier later : List α} (grown : GrowsBy grows earlier later) {test : α → Bool}
    (kept : ∀ {element other}, grows element other → test other = test element) {element : α}
    (found : earlier.find? test = some element) : ∃ other, later.find? test = some other ∧ grows element other := by
  induction earlier generalizing later with
  | nil => cases found
  | cons first rest ih =>
      rcases grown 0 first rfl with ⟨other, there, hasGrown⟩
      cases later with
      | nil => cases there
      | cons grownFirst grownRest =>
          cases there
          cases passes : test first with
          | true =>
              rw [List.find?_cons_of_pos passes] at found
              cases found
              exact ⟨other, List.find?_cons_of_pos ((kept hasGrown).trans passes), hasGrown⟩
          | false =>
              rw [List.find?_cons_of_neg (by simp [passes])] at found
              rw [List.find?_cons_of_neg (by simp [kept hasGrown, passes])]
              exact ih (fun place => grown (place + 1)) found

include same

theorem refl (elements : List α) : GrowsBy grows elements elements :=
  fun _ element there => ⟨element, there, same element⟩

theorem append (elements added : List α) : GrowsBy grows elements (elements ++ added) := by
  intro place element there
  have less := (List.getElem?_eq_some_iff.mp there).1
  exact ⟨element, (List.getElem?_append_left less).trans there, same element⟩

variable {change : α → α} (changed : ∀ element, grows element (change element))
include changed

theorem modify (elements : List α) (place : Nat) : GrowsBy grows elements (elements.modify place change) := by
  intro other element there
  rw [List.getElem?_modify, there]
  refine ⟨_, rfl, ?_⟩
  split
  · exact changed element
  · exact same element

theorem replaceFirst (test : α → Bool) (elements : List α) :
    GrowsBy grows elements (replaceFirst test change elements) := by
  intro place element there
  rcases getElem?_replaceFirst there with stays | ⟨_, replaced⟩
  · exact ⟨element, stays, same element⟩
  · exact ⟨change element, replaced, changed element⟩

end GrowsBy

/-- A field stays but for becoming optional. -/
structure Field.Grows (earlier later : Field) : Prop where
  /-- The name stays. -/
  name : later.name = earlier.name
  /-- The type stays. -/
  type : later.type = earlier.type
  /-- A field that has to be given had to be given before. -/
  required : later.required = true → earlier.required = true

theorem Field.Grows.refl (field : Field) : field.Grows field := ⟨rfl, rfl, id⟩

theorem Field.Grows.trans {first second third : Field} (before : first.Grows second) (after : second.Grows third) :
    first.Grows third :=
  ⟨after.name.trans before.name, after.type.trans before.type, before.required ∘ after.required⟩

theorem Field.grows_relaxed (field : Field) : field.Grows field.relaxed :=
  ⟨rfl, rfl, fun isRequired => Bool.noConfusion isRequired⟩

/-- A schema grows by fields at its end. -/
structure Schema.Grows (earlier later : Schema) : Prop where
  /-- The path stays. -/
  path : later.path = earlier.path
  /-- A schema stays that of a collection, or stays without one. -/
  keyed : later.keyed = earlier.keyed
  /-- The fields come first. -/
  fields : GrowsBy Field.Grows earlier.fields later.fields

namespace Schema

theorem Grows.refl (schema : Schema) : schema.Grows schema := ⟨rfl, rfl, .refl Field.Grows.refl _⟩

theorem Grows.trans {first second third : Schema} (before : first.Grows second) (after : second.Grows third) :
    first.Grows third :=
  ⟨after.path.trans before.path, after.keyed.trans before.keyed,
    .trans Field.Grows .trans before.fields after.fields⟩

theorem grows_append (schema : Schema) (field : Field) : schema.Grows (schema.append field) :=
  ⟨rfl, rfl, .append Field.Grows.refl _ _⟩

theorem grows_relax (schema : Schema) (position : Nat) : schema.Grows (schema.relax position) :=
  ⟨rfl, rfl, .modify Field.Grows.refl Field.grows_relaxed _ _⟩

theorem grows_setCompact (schema : Schema) (flag : Data) : schema.Grows { schema with compact := flag } :=
  ⟨rfl, rfl, .refl Field.Grows.refl _⟩

end Schema

/-- The place of the schema of a path. -/
def Namespace.schemaPlace? (space : Namespace) (path : String) : Option Nat :=
  space.schemas.findIdx? fun schema => schema.path == path

/-- A namespace grows by declarations at the ends of its lists. -/
structure Namespace.Grows (earlier later : Namespace) : Prop where
  /-- The name stays. -/
  name : later.name = earlier.name
  /-- The schemas come first. -/
  schemas : GrowsBy Schema.Grows earlier.schemas later.schemas
  /-- The paths of the collections come first. -/
  collections : earlier.collections.map Collection.path <+: later.collections.map Collection.path
  /-- The dispatches come first as they are. -/
  dispatches : earlier.dispatches <+: later.dispatches
  /-- The guests come first as they are. -/
  guests : earlier.guests <+: later.guests
  /-- The schema of a path stays the same one, and so does that of a collection. -/
  schemaPlace : ∀ path place, earlier.schemaPlace? path = some place → later.schemaPlace? path = some place

namespace Namespace

/-- A namespace has grown if its lists have. -/
theorem grows_of_lists {earlier later : Namespace} (name : later.name = earlier.name)
    (schemas : GrowsBy Schema.Grows earlier.schemas later.schemas)
    (collections : earlier.collections.map Collection.path <+: later.collections.map Collection.path)
    (dispatches : earlier.dispatches <+: later.dispatches) (guests : earlier.guests <+: later.guests) :
    earlier.Grows later where
  name := name
  schemas := schemas
  collections := collections
  dispatches := dispatches
  guests := guests
  schemaPlace path _ found := by
    refine schemas.findIdx?_eq (fun grown => ?_) found
    rw [grown.path]

theorem Grows.refl (space : Namespace) : space.Grows space :=
  ⟨rfl, .refl Schema.Grows.refl _, List.prefix_refl _, List.prefix_refl _, List.prefix_refl _, fun _ _ => id⟩

theorem Grows.trans {first second third : Namespace} (before : first.Grows second) (after : second.Grows third) :
    first.Grows third where
  name := after.name.trans before.name
  schemas := .trans Schema.Grows .trans before.schemas after.schemas
  collections := before.collections.trans after.collections
  dispatches := before.dispatches.trans after.dispatches
  guests := before.guests.trans after.guests
  schemaPlace path place found := after.schemaPlace path place (before.schemaPlace path place found)

theorem grows_modifySchema {change : Schema → Schema} (changed : ∀ schema : Schema, schema.Grows (change schema))
    (space : Namespace) (path : String) : space.Grows (space.modifySchema path change) :=
  grows_of_lists rfl (.replaceFirst Schema.Grows.refl changed _ _) (List.prefix_refl _) (List.prefix_refl _)
    (List.prefix_refl _)

theorem grows_setKey (space : Namespace) (path : String) (names : List Data) :
    space.Grows (space.modifyCollection path fun collection => { collection with key := names }) :=
  have paths : (space.modifyCollection path fun collection => { collection with key := names }).collections.map
      Collection.path = space.collections.map Collection.path := map_replaceFirst fun _ => rfl
  grows_of_lists rfl (.refl Schema.Grows.refl _) (paths ▸ List.prefix_refl _) (List.prefix_refl _) (List.prefix_refl _)

end Namespace

/-- A graph grows by namespaces at its end. -/
def Graph.Grows (earlier later : Graph) : Prop := GrowsBy Namespace.Grows earlier.spaces later.spaces

namespace Graph

theorem Grows.refl (graph : Graph) : graph.Grows graph := GrowsBy.refl Namespace.Grows.refl _

theorem Grows.trans {first second third : Graph} (before : first.Grows second) (after : second.Grows third) :
    first.Grows third :=
  GrowsBy.trans Namespace.Grows .trans before after

theorem grows_addSpace (graph : Graph) (name : String) : graph.Grows (graph.addSpace name) :=
  GrowsBy.append Namespace.Grows.refl _ _

theorem grows_modifySpace {change : Namespace → Namespace} (changed : ∀ space : Namespace, space.Grows (change space))
    (graph : Graph) (name : String) : graph.Grows (graph.modifySpace name change) :=
  GrowsBy.replaceFirst Namespace.Grows.refl changed _ _

end Graph

end SpecGraph
