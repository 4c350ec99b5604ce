import SpecGraph.Document.Apply
import SpecGraph.Proofs.World.Kept

/-!
# What declaring a document keeps

A document is declared by the operations that declare, so it keeps what these keep, whether or not it fails, if the
names, the keys and the flags of the document are in the manner. Nothing is declared of a document with problems.
-/

namespace SpecGraph

open Effect

mutual

/-- The names of a field and of the fields inside it are in a manner. -/
def FieldDecl.Obeys (manner : Manner) : FieldDecl → Prop
  | .plain name type struct _ =>
      manner.name name ∧ (type = .null → struct.text? = none → ∀ text, name = .text text → manner.nested text)
  | .inline name _ _ fields =>
      manner.name name ∧ (∀ text, name = .text text → manner.nested text) ∧ FieldDecl.AllObey manner fields

/-- The names of fields and of the fields inside them are in a manner. -/
def FieldDecl.AllObey (manner : Manner) : List FieldDecl → Prop
  | [] => True
  | field :: rest => field.Obeys manner ∧ FieldDecl.AllObey manner rest

end

/-- What a document gives to the operations that declare is in a manner. -/
structure Document.Obeys (manner : Manner) (document : Document) : Prop where
  /-- The flags of the schemas are. -/
  flags : ∀ schema ∈ document.schemas, manner.flag schema.compact
  /-- The fields of the schemas are. -/
  schemas : ∀ schema ∈ document.schemas, FieldDecl.AllObey manner schema.fields
  /-- The keys of the collections are. -/
  keys : ∀ collection ∈ document.collections, ∀ name ∈ collection.key, manner.name name
  /-- The fields of the collections are. -/
  collections : ∀ collection ∈ document.collections, FieldDecl.AllObey manner collection.fields
  /-- The fields of the dispatches are. -/
  dispatches : ∀ dispatch ∈ document.dispatches, FieldDecl.AllObey manner (dispatch.fields.getD [])

section Any

mutual

theorem FieldDecl.obeys_any : ∀ field : FieldDecl, field.Obeys .any
  | .plain .. => ⟨trivial, fun _ _ _ _ => trivial⟩
  | .inline _ _ _ fields => ⟨trivial, fun _ _ => trivial, FieldDecl.allObey_any fields⟩

theorem FieldDecl.allObey_any : ∀ fields : List FieldDecl, FieldDecl.AllObey .any fields
  | [] => trivial
  | field :: rest => ⟨field.obeys_any, FieldDecl.allObey_any rest⟩

end

theorem Document.obeys_any (document : Document) : document.Obeys .any where
  flags _ _ := trivial
  schemas schema _ := FieldDecl.allObey_any schema.fields
  keys _ _ _ _ := trivial
  collections collection _ := FieldDecl.allObey_any collection.fields
  dispatches dispatch _ := FieldDecl.allObey_any (dispatch.fields.getD [])

end Any

namespace Document

variable {manner : Manner} {good : World → Prop} (kept : World.KeptByRegistering manner good)

include kept in
theorem keeps_relaxIf (optional : Data) (field : FieldRef) : Keeps good (relaxIf optional field) := by
  unfold relaxIf
  split
  · exact kept.relax field
  · exact (still_pure _).keeps

mutual

/-- Declaring a field keeps what the simple operations keep. -/
theorem keeps_declareField (kept : World.KeptByRegistering manner good) (schema : SchemaRef) :
    ∀ field : FieldDecl, field.Obeys manner → Keeps good (declareField schema field)
  | .plain name type struct optional, obeys => by
      unfold declareField
      dsimp only
      split
      · exact keeps_bind (kept.keeps_addReference schema obeys.1 (obeys.2 rfl)) fun _ => keeps_relaxIf kept optional _
      · exact keeps_bind (kept.keeps_addPrimitive schema obeys.1 _) fun _ => keeps_relaxIf kept optional _
  | .inline name type optional fields, obeys => by
      unfold declareField
      dsimp only
      split
      · refine keeps_bind_told (kept.keeps_declareNested schema obeys.2.1) fun nested _ after performed isGood => ?_
        have isAddress := kept.address_of_declareNested isGood performed
        exact keeps_bind (keeps_declareFields kept nested fields obeys.2.2) (fun _ =>
          keeps_bind (kept.addField schema obeys.1 (Or.inr isAddress)) fun _ => keeps_relaxIf kept optional _)
          after isGood
      · exact keeps_bind (kept.keeps_addPrimitive schema obeys.1 _) fun _ => keeps_relaxIf kept optional _

/-- Declaring fields keeps what the simple operations keep. -/
theorem keeps_declareFields (kept : World.KeptByRegistering manner good) (schema : SchemaRef) :
    ∀ fields : List FieldDecl, FieldDecl.AllObey manner fields → Keeps good (declareFields schema fields)
  | [], _ => (still_pure _).keeps
  | field :: rest, obeys =>
      keeps_bind (keeps_declareField kept schema field obeys.1) fun _ => keeps_declareFields kept schema rest obeys.2

end

include kept

theorem keeps_declareCollection (number : Nat) {collection : CollectionDecl}
    (keys : ∀ name ∈ collection.key, manner.name name) (fields : FieldDecl.AllObey manner collection.fields) :
    Keeps good (declareCollection number collection) := by
  refine keeps_bind (kept.keeps_declareCollection number _) fun ref => ?_
  cases collection.key.isEmpty with
  | true => exact keeps_declareFields kept ref _ fields
  | false => exact keeps_bind (kept.setKey ref keys) fun _ => keeps_declareFields kept ref _ fields

theorem keeps_declareDispatch (number : Nat) {dispatch : DispatchDecl}
    (fields : FieldDecl.AllObey manner (dispatch.fields.getD [])) : Keeps good (declareDispatch number dispatch) := by
  unfold declareDispatch
  split
  · refine keeps_bind_told (kept.keeps_openDispatch number _) fun opened _ after performed isGood => ?_
    refine keeps_bind_told (kept.addSchema opened.1 (kept.path_of_openDispatch performed) kept.fit.off)
      (fun ref _ later registered isGood => ?_) after isGood
    have request := kept.address_of_addSchema isGood registered
    exact keeps_bind (keeps_declareFields kept ref _ fields) (fun _ => kept.addDispatch opened.1 _ request) later isGood
  · exact keeps_discard (kept.keeps_declareDispatch number _ _)

omit kept in
theorem keeps_forM {α : Type} {items : List α} {operation : α → Run Unit}
    (each : ∀ item ∈ items, Keeps good (operation item)) : Keeps good (items.forM operation) := by
  induction items with
  | nil => exact (still_pure _).keeps
  | cons first rest ih =>
      rw [List.forall_mem_cons] at each
      exact keeps_bind each.1 fun _ => ih each.2

/-- Declaring a document keeps what the simple operations keep. -/
theorem keeps_apply (number : Nat) {document : Document} (obeys : document.problems = .ok [] → document.Obeys manner) :
    Keeps good (document.apply number) := by
  intro world isGood
  refine (Run.still_ofExcept _).good_bind isGood fun problems performed => ?_
  cases problems with
  | cons problem rest => exact isGood
  | nil =>
      have obeys := obeys (Run.eq_ok_of_perform performed)
      have schemas : Keeps good (document.schemas.forM (declareSchema number)) :=
        keeps_forM fun schema schemaMem =>
          keeps_bind (kept.keeps_declareSchema number _ (obeys.flags schema schemaMem)) fun ref =>
            keeps_declareFields kept ref _ (obeys.schemas schema schemaMem)
      have collections : Keeps good (document.collections.forM (declareCollection number)) :=
        keeps_forM fun collection collectionMem => keeps_declareCollection kept number
          (obeys.keys collection collectionMem) (obeys.collections collection collectionMem)
      have dispatches : Keeps good (document.dispatches.forM (declareDispatch number)) :=
        keeps_forM fun dispatch dispatchMem =>
          keeps_declareDispatch kept number (obeys.dispatches dispatch dispatchMem)
      exact keeps_bind schemas (fun _ => keeps_bind collections fun _ => dispatches) world isGood

end Document

end SpecGraph
