import SpecGraph.FieldTag
import SpecGraph.Graph.Basic
import SpecGraph.Proofs.Data.Table
import SpecGraph.Proofs.Name

/-!
# Plain graphs

A graph is plain if it holds what its declarations are meant to hold: texts for the names of fields and keys,
truth values for flags, and types that are primitive or start as full names do. In a plain graph nothing is
declared twice. A graph stays plain with one more declaration if this is plain too and its path is new.
-/

namespace SpecGraph

/-- The tag of a primitive type is a tag. -/
theorem FieldTag.isTag_tag (type : FieldTag) : isTag type.tag = true := by
  have listed : type ∈ all := by cases type <;> decide
  rw [isTag, ofTag?, List.find?_isSome]
  exact ⟨type, listed, beq_self_eq_true _⟩

/-- A field with a text for its name, whose type is primitive or starts as full names do. -/
structure Field.IsPlain (field : Field) : Prop where
  /-- The name is a text. -/
  name : ∃ text, field.name = .text text
  /-- The type is primitive or starts as full names do. -/
  type : FieldTag.isTag field.type = true ∨ Name.StartsFull field.type

/-- A schema with a truth value for its flag and plain fields, no two of one name. -/
structure Schema.IsPlain (schema : Schema) : Prop where
  /-- The flag is a truth value. -/
  compact : ∃ flag, schema.compact = .bool flag
  /-- The fields are plain. -/
  fields : ∀ field ∈ schema.fields, field.IsPlain
  /-- The names of the fields are told apart. -/
  distinct : schema.fieldNames.Nodup

/-- A namespace with plain declarations, no two of one kind and path. -/
structure Namespace.IsPlain (space : Namespace) : Prop where
  /-- The name is one that a namespace can have. -/
  name : Name.IsSpace space.name
  /-- The schemas are plain. -/
  schemas : ∀ schema ∈ space.schemas, schema.IsPlain
  /-- The keys of the collections are texts. -/
  keys : ∀ collection ∈ space.collections, ∀ name ∈ collection.key, ∃ text, name = .text text
  /-- The request types start as full names do. -/
  requests : ∀ dispatch ∈ space.dispatches, Name.StartsFull dispatch.requestType
  /-- The paths of the schemas are told apart. -/
  schemaPaths : (space.schemas.map Schema.path).Nodup
  /-- The paths of the collections are told apart. -/
  collectionPaths : (space.collections.map Collection.path).Nodup
  /-- The paths of the dispatches are told apart. -/
  dispatchPaths : (space.dispatches.map Dispatch.path).Nodup

/-- A graph with plain namespaces, no two of one name. -/
structure Graph.IsPlain (graph : Graph) : Prop where
  /-- The namespaces are plain. -/
  spaces : ∀ space ∈ graph.spaces, space.IsPlain
  /-- The names of the namespaces are told apart. -/
  names : (graph.spaces.map Namespace.name).Nodup

section Replace

variable {α β : Type} {test : α → Bool} {change : α → α} {elements : List α}

/-- After a change of the first element that satisfies a test, every element is one from before or the
changed one. -/
theorem mem_replaceFirst {element : α} (elementMem : element ∈ replaceFirst test change elements) :
    element ∈ elements ∨ ∃ found, elements.find? test = some found ∧ element = change found := by
  induction elements with
  | nil => cases elementMem
  | cons first rest ih =>
      rw [replaceFirst] at elementMem
      rw [List.find?_cons]
      cases tested : test first with
      | true =>
          rw [tested, if_pos rfl] at elementMem
          rcases List.mem_cons.mp elementMem with rfl | inRest
          · exact Or.inr ⟨first, rfl, rfl⟩
          · exact Or.inl (List.mem_cons_of_mem _ inRest)
      | false =>
          rw [tested, if_neg Bool.false_ne_true] at elementMem
          rcases List.mem_cons.mp elementMem with rfl | inRest
          · exact Or.inl List.mem_cons_self
          · exact (ih inRest).imp_left (List.mem_cons_of_mem _)

theorem map_replaceFirst {image : α → β} (same : ∀ element, image (change element) = image element) :
    (replaceFirst test change elements).map image = elements.map image := by
  induction elements with
  | nil => rfl
  | cons first rest ih =>
      rw [replaceFirst]
      cases test first with
      | true => rw [if_pos rfl, List.map_cons, List.map_cons, same]
      | false => rw [if_neg Bool.false_ne_true, List.map_cons, List.map_cons, ih]

/-- The element that is found after a change is the changed one. -/
theorem find?_replaceFirst (kept : ∀ element, test element = true → test (change element) = true) :
    (replaceFirst test change elements).find? test = (elements.find? test).map change := by
  induction elements with
  | nil => rfl
  | cons first rest ih =>
      rw [replaceFirst, List.find?_cons]
      cases tested : test first with
      | true => rw [if_pos rfl, List.find?_cons, kept first tested, Option.map_some]
      | false => rw [if_neg Bool.false_ne_true, List.find?_cons, tested, ih]

/-- An element that is found by another test is found after the change as well. -/
theorem find?_replaceFirst_of_apart {other : α → Bool}
    (apart : ∀ element, test element = true → other element = false ∧ other (change element) = false) :
    (replaceFirst test change elements).find? other = elements.find? other := by
  induction elements with
  | nil => rfl
  | cons first rest ih =>
      rw [replaceFirst]
      cases tested : test first with
      | true => rw [if_pos rfl, List.find?_cons, List.find?_cons, (apart first tested).1, (apart first tested).2]
      | false => rw [if_neg Bool.false_ne_true, List.find?_cons, List.find?_cons, ih]

theorem replaceFirst_replaceFirst (kept : ∀ element, test element = true → test (change element) = true)
    {next : α → α} :
    replaceFirst test next (replaceFirst test change elements) = replaceFirst test (next ∘ change) elements := by
  induction elements with
  | nil => rfl
  | cons first rest ih =>
      rw [replaceFirst, replaceFirst]
      cases tested : test first with
      | true => rw [if_pos rfl, if_pos rfl, replaceFirst, kept first tested, if_pos rfl, Function.comp_apply]
      | false => rw [if_neg Bool.false_ne_true, if_neg Bool.false_ne_true, replaceFirst, tested,
          if_neg Bool.false_ne_true, ih]

/-- A change only has to be told for the element that is found. -/
theorem replaceFirst_congr {other : α → α} (same : ∀ found, elements.find? test = some found → change found = other found) :
    replaceFirst test change elements = replaceFirst test other elements := by
  induction elements with
  | nil => rfl
  | cons first rest ih =>
      rw [List.find?_cons] at same
      rw [replaceFirst, replaceFirst]
      cases tested : test first with
      | true => rw [if_pos rfl, if_pos rfl, same first (by rw [tested])]
      | false =>
          rw [tested] at same
          rw [if_neg Bool.false_ne_true, if_neg Bool.false_ne_true, ih same]

/-- An element that is found is replaced by itself. -/
theorem replaceFirst_self {element : α} (found : elements.find? test = some element) :
    replaceFirst test (fun _ => element) elements = elements := by
  induction elements with
  | nil => rfl
  | cons first rest ih =>
      rw [List.find?_cons] at found
      cases tested : test first with
      | true =>
          rw [tested] at found
          rw [replaceFirst, tested, if_pos rfl, Option.some.inj found]
      | false =>
          rw [tested] at found
          rw [replaceFirst, tested, if_neg Bool.false_ne_true, ih found]

/-- At every place stays what was there, but for the element that is found. -/
theorem getElem?_replaceFirst {place : Nat} {element : α} (there : elements[place]? = some element) :
    (replaceFirst test change elements)[place]? = some element ∨
      elements.find? test = some element ∧ (replaceFirst test change elements)[place]? = some (change element) := by
  induction elements generalizing place with
  | nil => cases there
  | cons first rest ih =>
      rw [replaceFirst, List.find?_cons]
      cases tested : test first with
      | true =>
          rw [if_pos rfl]
          cases place with
          | zero =>
              cases there
              exact Or.inr ⟨rfl, rfl⟩
          | succ place => exact Or.inl there
      | false =>
          rw [if_neg Bool.false_ne_true]
          cases place with
          | zero => exact Or.inl there
          | succ place => exact ih there

theorem replaceFirst_append (front back : List α) :
    replaceFirst test change (front ++ back) =
      if (front.find? test).isSome then replaceFirst test change front ++ back
      else front ++ replaceFirst test change back := by
  induction front with
  | nil => rfl
  | cons first rest ih =>
      rw [List.cons_append, replaceFirst, replaceFirst, List.find?_cons]
      cases tested : test first with
      | true => rfl
      | false =>
          rw [if_neg Bool.false_ne_true, if_neg Bool.false_ne_true, ih]
          split
          · rfl
          · rfl

/-- After a change at a place, every element is one from before or the changed one. -/
theorem mem_modify {place : Nat} {element : α} (elementMem : element ∈ elements.modify place change) :
    element ∈ elements ∨ ∃ found, elements[place]? = some found ∧ element = change found := by
  obtain ⟨other, there⟩ := List.mem_iff_getElem?.mp elementMem
  rw [List.getElem?_modify] at there
  obtain ⟨found, here, same⟩ := Option.map_eq_some_iff.mp there
  by_cases isPlace : place = other
  · rw [if_pos isPlace] at same
    exact Or.inr ⟨found, isPlace ▸ here, same.symm⟩
  · rw [if_neg isPlace] at same
    exact Or.inl (same ▸ List.mem_of_getElem? here)

theorem map_modify {place : Nat} {image : α → β} (same : ∀ element, image (change element) = image element) :
    (elements.modify place change).map image = elements.map image := by
  refine List.ext_getElem? fun other => ?_
  rw [List.getElem?_map, List.getElem?_map, List.getElem?_modify]
  change Option.map image (Option.map _ elements[other]?) = _
  rw [Option.map_map]
  refine congrArg (fun function => Option.map function elements[other]?) (funext fun element => ?_)
  by_cases isPlace : place = other
  · rw [Function.comp_apply, if_pos isPlace, same]
  · rw [Function.comp_apply, if_neg isPlace]

/-- Where no element has a name, one of the name can be added at the end. -/
theorem nodup_map_concat [BEq β] [LawfulBEq β] {name : α → β} (distinct : (elements.map name).Nodup)
    {element : α} (fresh : elements.find? (fun other => name other == name element) = none) :
    ((elements ++ [element]).map name).Nodup := by
  rw [List.map_append, List.map_singleton, ← List.concat_eq_append]
  refine distinct.concat fun nameMem => ?_
  obtain ⟨other, otherMem, same⟩ := List.mem_map.mp nameMem
  exact List.find?_eq_none.mp fresh other otherMem (beq_iff_eq.mpr same)

end Replace

namespace Schema

/-- A new schema with a truth value for its flag is plain. -/
theorem isPlain_empty (path : String) (flag keyed : Bool) : (empty path (.bool flag) keyed).IsPlain :=
  ⟨⟨flag, rfl⟩, by simp [empty], List.nodup_nil⟩

theorem IsPlain.hasField_iff {schema : Schema} (plain : schema.IsPlain) (text : String) :
    schema.hasField (.text text) = true ↔ Data.text text ∈ schema.fieldNames := by
  have same (field : Field) (fieldMem : field ∈ schema.fields) :
      field.name.same (.text text) = true ↔ field.name = .text text := by
    obtain ⟨name, isName⟩ := (plain.fields field fieldMem).name
    rw [isName, Data.same_text, beq_iff_eq, Data.text.injEq]
  rw [hasField, position?, List.findIdx?_isSome, List.any_eq_true, fieldNames, List.mem_map]
  exact exists_congr fun field => and_congr_right fun fieldMem => same field fieldMem

/-- A schema stays plain with one more field of another name. -/
theorem IsPlain.append {schema : Schema} (plain : schema.IsPlain) {field : Field} (isPlain : field.IsPlain)
    (other : schema.hasField field.name = false) : (schema.append field).IsPlain := by
  refine ⟨plain.compact, ?_, ?_⟩
  · intro member memberMem
    rcases List.mem_append.mp memberMem with inFields | isNew
    · exact plain.fields member inFields
    · obtain rfl := List.mem_singleton.mp isNew
      exact isPlain
  · have added : (schema.append field).fieldNames = schema.fieldNames ++ [field.name] := by
      simp [fieldNames, Schema.append]
    obtain ⟨name, isName⟩ := isPlain.name
    rw [isName, ← Bool.not_eq_true, plain.hasField_iff] at other
    rw [added, isName, ← List.concat_eq_append]
    exact plain.distinct.concat other

/-- A schema stays plain when a field may be left out. -/
theorem IsPlain.relax {schema : Schema} (plain : schema.IsPlain) (position : Nat) :
    (schema.relax position).IsPlain := by
  refine ⟨plain.compact, ?_, ?_⟩
  · intro field fieldMem
    rcases mem_modify fieldMem with inFields | ⟨found, there, rfl⟩
    · exact plain.fields field inFields
    · have isPlain := plain.fields found (List.mem_of_getElem? there)
      exact ⟨isPlain.name, isPlain.type⟩
  · have same : (schema.relax position).fieldNames = schema.fieldNames := map_modify fun _ => rfl
    rw [same]
    exact plain.distinct

end Schema

namespace Namespace

variable {space : Namespace} (plain : space.IsPlain)
include plain

/-- A namespace stays plain with one more schema of another path. -/
theorem IsPlain.addSchema {schema : Schema} (isPlain : schema.IsPlain)
    (fresh : space.schema? schema.path = none) :
    { space with schemas := space.schemas ++ [schema] : Namespace }.IsPlain :=
  { plain with
    schemas := List.forall_mem_append.mpr ⟨plain.schemas, by simpa using isPlain⟩
    schemaPaths := nodup_map_concat plain.schemaPaths fresh }

/-- A namespace stays plain with one more collection of another path. -/
theorem IsPlain.addCollection {collection : Collection}
    (texts : ∀ name ∈ collection.key, ∃ text, name = .text text)
    (fresh : space.collection? collection.path = none) :
    { space with collections := space.collections ++ [collection] : Namespace }.IsPlain :=
  { plain with
    keys := List.forall_mem_append.mpr ⟨plain.keys, by simpa using texts⟩
    collectionPaths := nodup_map_concat plain.collectionPaths fresh }

/-- A namespace stays plain with one more dispatch of another path. -/
theorem IsPlain.addDispatch {dispatch : Dispatch} (request : Name.StartsFull dispatch.requestType)
    (fresh : space.dispatch? dispatch.path = none) :
    { space with dispatches := space.dispatches ++ [dispatch] : Namespace }.IsPlain :=
  { plain with
    requests := List.forall_mem_append.mpr ⟨plain.requests, by simpa using request⟩
    dispatchPaths := nodup_map_concat plain.dispatchPaths fresh }

/-- A namespace stays plain when a schema is changed to a plain one of the same path. -/
theorem IsPlain.modifySchema {path : String} {change : Schema → Schema}
    (same : ∀ schema, (change schema).path = schema.path)
    (each : ∀ schema, space.schema? path = some schema → schema.IsPlain → (change schema).IsPlain) :
    (space.modifySchema path change).IsPlain :=
  { plain with
    schemas := fun schema schemaMem => by
      rcases mem_replaceFirst schemaMem with before | ⟨found, there, rfl⟩
      · exact plain.schemas schema before
      · exact each found there (plain.schemas found (List.mem_of_find?_eq_some there))
    schemaPaths := by
      rw [Namespace.modifySchema, map_replaceFirst same]
      exact plain.schemaPaths }

/-- A namespace stays plain when the key of a collection is set to texts. -/
theorem IsPlain.setKey {path : String} {key : List Data} (texts : ∀ name ∈ key, ∃ text, name = .text text) :
    (space.modifyCollection path fun collection => { collection with key }).IsPlain :=
  { plain with
    keys := fun collection collectionMem => by
      rcases mem_replaceFirst collectionMem with before | ⟨found, _, rfl⟩
      · exact plain.keys collection before
      · exact texts
    collectionPaths := by
      have same : (space.modifyCollection path fun collection => { collection with key }).collections.map
          Collection.path = space.collections.map Collection.path := map_replaceFirst fun _ => rfl
      rw [same]
      exact plain.collectionPaths }

end Namespace

namespace Graph

theorem isPlain_initial : initial.IsPlain := by
  refine ⟨?_, List.nodup_singleton _⟩
  rw [initial, List.forall_mem_singleton]
  exact {
    name := by
      rw [Name.IsSpace]
      decide
    schemas := by simp [Namespace.empty]
    keys := by simp [Namespace.empty]
    requests := by simp [Namespace.empty]
    schemaPaths := List.nodup_nil
    collectionPaths := List.nodup_nil
    dispatchPaths := List.nodup_nil }

variable {graph : Graph} (plain : graph.IsPlain)
include plain

/-- A graph stays plain with one more namespace of another name. -/
theorem IsPlain.addSpace {name : String} (isSpace : Name.IsSpace name)
    (fresh : graph.space? name = none) : (graph.addSpace name).IsPlain := by
  refine ⟨?_, nodup_map_concat plain.names fresh⟩
  refine List.forall_mem_append.mpr ⟨plain.spaces, ?_⟩
  rw [List.forall_mem_singleton]
  exact {
    name := isSpace
    schemas := by simp [Namespace.empty]
    keys := by simp [Namespace.empty]
    requests := by simp [Namespace.empty]
    schemaPaths := List.nodup_nil
    collectionPaths := List.nodup_nil
    dispatchPaths := List.nodup_nil }

/-- A graph stays plain when a namespace is changed to a plain one of the same name. -/
theorem IsPlain.modifySpace {name : String} {change : Namespace → Namespace}
    (same : ∀ space, (change space).name = space.name)
    (each : ∀ space, graph.space? name = some space → space.IsPlain → (change space).IsPlain) :
    (graph.modifySpace name change).IsPlain where
  spaces space spaceMem := by
    rcases mem_replaceFirst spaceMem with before | ⟨found, there, rfl⟩
    · exact plain.spaces space before
    · exact each found there (plain.spaces found (List.mem_of_find?_eq_some there))
  names := by
    rw [Graph.modifySpace, map_replaceFirst same]
    exact plain.names

end Graph

end SpecGraph
