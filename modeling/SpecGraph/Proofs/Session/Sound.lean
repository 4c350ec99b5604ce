import SpecGraph.Proofs.Graph.Pieces
import SpecGraph.Proofs.Session.Growth
import SpecGraph.Proofs.World.Program
import SpecGraph.Proofs.World.Spaces

/-!
# Graphs are sound at every moment

Whatever a session does, nothing is ever declared twice, and a collection and its schema go together: every
declaration looks for its name before it is registered, and a schema that belongs to a collection is registered only
with the collection. So this is true between the steps of a session, inside the bodies of declarations, and after
bodies that fail.

A session adds nothing to a namespace that another one owns. A program may: the guest takes its name there, so that
names are still told apart, and its owner keeps it. But a collection that is a guest brings no schema along. If a
collection of its path is declared then, the schema is registered, and stays when the collection is refused.
-/

namespace SpecGraph

/-- In a sound namespace nothing is declared twice or under a name that a guest takes, and the collections and the
schemas that are marked as belonging to one go together. -/
structure Namespace.IsSound (space : Namespace) : Prop where
  /-- What is taken for a kind is told apart. -/
  distinct : ∀ kind, (space.taken kind).Nodup
  /-- The names of the fields of a schema are told apart. -/
  fields : ∀ schema ∈ space.schemas, schema.fields.Pairwise fun first second => first.name.same second.name = false
  /-- The schema of the path of a collection is marked as belonging to it. -/
  keyed : ∀ collection ∈ space.collections, ∃ schema ∈ space.schemas,
    schema.path = collection.path ∧ schema.keyed = true
  /-- A schema that is marked belongs to the collection of its path, unless a guest takes this. -/
  held : ∀ schema ∈ space.schemas, schema.keyed = true → schema.path ∈ space.taken .collection

/-- A declaration was made in the namespace that owns it. -/
def World.Owns (world : World) (declaration : Declaration) : Prop :=
  ∃ owner, world.space? declaration.owner = some owner ∧ owner.owns declaration.kind declaration.path = true

/-- In a sound world the namespaces are sound, those of a builder have distinct names, and the default one is among
them. What is a guest is owned by another namespace. -/
def World.IsSound (world : World) : Prop :=
  world.Holds .any fun space => space.IsSound ∧ ∀ guest ∈ space.guests, world.Owns guest

namespace Namespace

theorem isSound_empty (name : String) : (empty name).IsSound where
  distinct kind := by
    cases kind
    all_goals exact List.nodup_nil
  fields := List.forall_mem_nil _
  keyed := List.forall_mem_nil _
  held := List.forall_mem_nil _

section Distinct

variable {space later : Namespace}

/-- What is taken stays told apart if one path is taken more, which was free. -/
theorem nodup_taken_cons (distinct : ∀ kind, (space.taken kind).Nodup) {kind : DeclarationKind} {path : String}
    (free : space.isTaken kind path = false) (added : (later.taken kind).Perm (path :: space.taken kind))
    (others : ∀ other, other ≠ kind → later.taken other = space.taken other) : ∀ other, (later.taken other).Nodup := by
  intro other
  by_cases same : other = kind
  · subst same
    rw [isTaken_eq, decide_eq_false_iff_not] at free
    exact added.nodup_iff.mpr (List.nodup_cons.mpr ⟨free, distinct other⟩)
  · rw [others other same]
    exact distinct other

end Distinct

variable {space : Namespace}

/-- What is declared in a sound namespace is told apart. -/
theorem IsSound.nodup_paths (sound : space.IsSound) (kind : DeclarationKind) : (space.paths kind).Nodup :=
  (sound.distinct kind).of_append_right

theorem nodup_taken_addSchema (distinct : ∀ kind, (space.taken kind).Nodup) {schema : Schema}
    (free : space.isTaken .schema schema.path = false) : ∀ kind, ((space.addSchema schema).taken kind).Nodup := by
  refine nodup_taken_cons distinct free (taken_concat_perm rfl List.map_append) fun other isOther => ?_
  cases other with
  | schema => exact absurd rfl isOther
  | _ => rfl

theorem nodup_taken_addCollection (distinct : ∀ kind, (space.taken kind).Nodup) {collection : Collection}
    (free : space.isTaken .collection collection.path = false) :
    ∀ kind, ((space.addCollection collection).taken kind).Nodup := by
  refine nodup_taken_cons distinct free (taken_concat_perm rfl List.map_append) fun other isOther => ?_
  cases other with
  | collection => exact absurd rfl isOther
  | _ => rfl

/-- Whatever the fields of new schemas are named, they are told apart. -/
theorem IsSound.addSchema (sound : space.IsSound) {path : String} {flag : Data}
    (free : space.isTaken .schema path = false) : (space.addSchema (Schema.empty path flag false)).IsSound where
  distinct := nodup_taken_addSchema sound.distinct free
  fields := List.forall_mem_append.mpr ⟨sound.fields, by simp [Schema.empty]⟩
  keyed collection collectionMem := by
    rcases sound.keyed collection collectionMem with ⟨schema, schemaMem, isKeyed⟩
    exact ⟨schema, List.mem_append_left _ schemaMem, isKeyed⟩
  held := List.forall_mem_append.mpr ⟨sound.held, by simp [Schema.empty]⟩

theorem IsSound.addKeyed (sound : space.IsSound) {path : String} (free : space.isTaken .schema path = false)
    (unpaired : space.isTaken .collection path = false) :
    ((space.addSchema (Schema.empty path (.bool false) true)).addCollection ⟨path, []⟩).IsSound := by
  have held (other : String) (otherMem : other ∈ space.taken .collection ∨ other = path) :
      other ∈ ((space.addSchema (Schema.empty path (.bool false) true)).addCollection ⟨path, []⟩).taken
        .collection := by
    have perm : (((space.addSchema (Schema.empty path (.bool false) true)).addCollection ⟨path, []⟩).taken
        .collection).Perm (path :: space.taken .collection) := taken_concat_perm rfl List.map_append
    exact perm.mem_iff.mpr (List.mem_cons.mpr otherMem.symm)
  exact {
    distinct := nodup_taken_addCollection (nodup_taken_addSchema sound.distinct free) unpaired
    fields := List.forall_mem_append.mpr ⟨sound.fields, by simp [Schema.empty]⟩
    keyed := by
      refine List.forall_mem_append.mpr ⟨fun collection collectionMem => ?_, ?_⟩
      · rcases sound.keyed collection collectionMem with ⟨schema, schemaMem, isKeyed⟩
        exact ⟨schema, List.mem_append_left _ schemaMem, isKeyed⟩
      · exact List.forall_mem_singleton.mpr ⟨_, List.mem_append_right _ (List.mem_singleton_self _), rfl, rfl⟩
    held := by
      refine List.forall_mem_append.mpr ⟨fun schema schemaMem isKeyed => ?_, List.forall_mem_singleton.mpr fun _ => ?_⟩
      · exact held _ (Or.inl (sound.held schema schemaMem isKeyed))
      · exact held _ (Or.inr rfl) }

/-- The schema of a collection stays without it if the path is taken for another collection, which is a guest. -/
theorem IsSound.addUnpaired (sound : space.IsSound) {path : String} (free : space.isTaken .schema path = false)
    (paired : space.isTaken .collection path = true) :
    (space.addSchema (Schema.empty path (.bool false) true)).IsSound where
  distinct := nodup_taken_addSchema sound.distinct free
  fields := List.forall_mem_append.mpr ⟨sound.fields, by simp [Schema.empty]⟩
  keyed collection collectionMem := by
    rcases sound.keyed collection collectionMem with ⟨schema, schemaMem, isKeyed⟩
    exact ⟨schema, List.mem_append_left _ schemaMem, isKeyed⟩
  held := List.forall_mem_append.mpr ⟨sound.held, List.forall_mem_singleton.mpr fun _ => isTaken_iff.mp paired⟩

theorem IsSound.addDispatch (sound : space.IsSound) {dispatch : Dispatch}
    (free : space.isTaken .dispatch dispatch.path = false) : (space.addDispatch dispatch).IsSound where
  distinct := by
    refine nodup_taken_cons sound.distinct free (taken_concat_perm rfl List.map_append) fun other isOther => ?_
    cases other with
    | dispatch => exact absurd rfl isOther
    | _ => rfl
  fields := sound.fields
  keyed := sound.keyed
  held := sound.held

theorem paths_addGuest (guest : Declaration) (kind : DeclarationKind) :
    (space.addGuest guest).paths kind = space.paths kind := by
  cases kind
  all_goals rfl

/-- A guest takes its path for its kind. -/
theorem taken_addGuest_perm (guest : Declaration) :
    ((space.addGuest guest).taken guest.kind).Perm (guest.path :: space.taken guest.kind) := by
  have alone : ([guest].filter fun other => other.kind == guest.kind) = [guest] :=
    List.filter_cons_of_pos (beq_self_eq_true guest.kind)
  rw [taken, taken, paths_addGuest, addGuest, List.filter_append, alone, List.map_append, List.append_assoc]
  exact List.perm_middle

theorem taken_addGuest_of_ne {guest : Declaration} {kind : DeclarationKind} (isOther : kind ≠ guest.kind) :
    (space.addGuest guest).taken kind = space.taken kind := by
  have none : ([guest].filter fun other => other.kind == kind) = [] :=
    List.filter_cons_of_neg (by simpa using isOther.symm)
  rw [taken, taken, paths_addGuest, addGuest, List.filter_append, none, List.append_nil]

theorem mem_taken_addGuest (guest : Declaration) {kind : DeclarationKind} {path : String}
    (pathMem : path ∈ space.taken kind) : path ∈ (space.addGuest guest).taken kind := by
  by_cases same : kind = guest.kind
  · subst same
    exact (taken_addGuest_perm guest).mem_iff.mpr (List.mem_cons_of_mem _ pathMem)
  · rwa [taken_addGuest_of_ne same]

/-- A guest takes a free path, and nothing else. -/
theorem IsSound.addGuest (sound : space.IsSound) {guest : Declaration}
    (free : space.isTaken guest.kind guest.path = false) : (space.addGuest guest).IsSound where
  distinct := nodup_taken_cons sound.distinct free (taken_addGuest_perm guest) fun _ => taken_addGuest_of_ne
  fields := sound.fields
  keyed := sound.keyed
  held schema schemaMem isKeyed := mem_taken_addGuest guest (sound.held schema schemaMem isKeyed)

/-- A schema may be changed if its path and its mark stay and its fields are told apart. -/
theorem IsSound.modifySchema (sound : space.IsSound) {path : String} {change : Schema → Schema}
    (same : ∀ schema, (change schema).path = schema.path ∧ (change schema).keyed = schema.keyed)
    (fields : ∀ schema, space.schema? path = some schema →
      (schema.fields.Pairwise fun first second => first.name.same second.name = false) →
      (change schema).fields.Pairwise fun first second => first.name.same second.name = false) :
    (space.modifySchema path change).IsSound where
  distinct kind := by
    have taken : (space.modifySchema path change).taken kind = space.taken kind := by
      refine taken_congr rfl ?_
      cases kind with
      | schema => exact map_replaceFirst fun schema => (same schema).1
      | _ => rfl
    rw [taken]
    exact sound.distinct kind
  fields schema schemaMem := by
    rcases mem_replaceFirst schemaMem with before | ⟨found, there, rfl⟩
    · exact sound.fields schema before
    · exact fields found there (sound.fields found (List.mem_of_find?_eq_some there))
  keyed collection collectionMem := by
    rcases sound.keyed collection collectionMem with ⟨schema, schemaMem, isPath, isKeyed⟩
    have marked : (collection.path, true) ∈ space.schemas.map fun schema => (schema.path, schema.keyed) :=
      List.mem_map.mpr ⟨schema, schemaMem, by rw [isPath, isKeyed]⟩
    rw [← map_replaceFirst (fun schema => by rw [(same schema).1, (same schema).2])] at marked
    rcases List.mem_map.mp marked with ⟨later, laterMem, isPair⟩
    exact ⟨later, laterMem, congrArg Prod.fst isPair, congrArg Prod.snd isPair⟩
  held schema schemaMem isKeyed := by
    rcases mem_replaceFirst schemaMem with before | ⟨found, there, rfl⟩
    · exact sound.held schema before isKeyed
    · rw [(same found).2] at isKeyed
      rw [(same found).1]
      exact sound.held found (List.mem_of_find?_eq_some there) isKeyed

theorem IsSound.setKey (sound : space.IsSound) (path : String) (names : List Data) :
    (space.modifyCollection path fun collection => { collection with key := names }).IsSound := by
  have taken (kind : DeclarationKind) :
      (space.modifyCollection path fun collection => { collection with key := names }).taken kind =
        space.taken kind := by
    refine taken_congr rfl ?_
    cases kind with
    | collection => exact map_replaceFirst fun _ => rfl
    | _ => rfl
  exact {
    distinct := fun kind => by
      rw [taken]
      exact sound.distinct kind
    fields := sound.fields
    keyed := fun collection collectionMem => by
      rcases mem_replaceFirst collectionMem with before | ⟨found, there, rfl⟩
      · exact sound.keyed collection before
      · exact sound.keyed found (List.mem_of_find?_eq_some there)
    held := by
      rw [taken]
      exact sound.held }

/-- A field of a new name is told apart from the others. -/
theorem pairwise_append {schema : Schema} {field : Field}
    (distinct : schema.fields.Pairwise fun first second => first.name.same second.name = false)
    (fresh : schema.hasField field.name = false) :
    (schema.append field).fields.Pairwise fun first second => first.name.same second.name = false := by
  refine List.pairwise_append.mpr ⟨distinct, List.pairwise_singleton _ _, fun other otherMem last lastMem => ?_⟩
  obtain rfl := List.mem_singleton.mp lastMem
  rw [Schema.hasField, Schema.position?, Option.isSome_eq_false_iff, Option.isNone_iff_eq_none,
    List.findIdx?_eq_none_iff] at fresh
  exact fresh other otherMem

theorem pairwise_relax {schema : Schema} (position : Nat)
    (distinct : schema.fields.Pairwise fun first second => first.name.same second.name = false) :
    (schema.relax position).fields.Pairwise fun first second => first.name.same second.name = false := by
  have names : (schema.relax position).fields.map Field.name = schema.fields.map Field.name := map_modify fun _ => rfl
  have pairs := List.pairwise_map (f := Field.name) (R := fun first second => first.same second = false)
    (l := (schema.relax position).fields)
  rw [← pairs, names, List.pairwise_map]
  exact distinct

/-- Declarations keep a namespace sound, whatever they are given. -/
theorem closed_isSound (manner : Manner) : Namespace.Closed manner IsSound where
  empty _ := isSound_empty _
  addSchema sound free _ _ := sound.addSchema free
  addNested sound _ free _ := sound.addSchema free
  addKeyed sound free unpaired _ := sound.addKeyed free unpaired
  addUnpaired sound free paired _ := sound.addUnpaired free paired
  addDispatch sound free _ := sound.addDispatch free
  addField sound found fresh _ _ := sound.modifySchema (fun _ => ⟨rfl, rfl⟩) fun other here distinct => by
    rw [found] at here
    obtain rfl := Option.some.inj here
    exact pairwise_append distinct fresh
  relax _ position sound := sound.modifySchema (fun _ => ⟨rfl, rfl⟩) fun _ _ => pairwise_relax position
  setKey path _ sound _ := sound.setKey path _
  setCompact _ _ sound _ := sound.modifySchema (fun _ => ⟨rfl, rfl⟩) fun _ _ distinct => distinct

end Namespace

section Owners

variable {earlier later : Namespace}

/-- Where elements grow, there is one of the path of every element before. -/
theorem GrowsBy.map_subset {α : Type} {grows : α → α → Prop} {before after : List α}
    (grown : GrowsBy grows before after) {image : α → String}
    (kept : ∀ {element other}, grows element other → image other = image element) :
    before.map image ⊆ after.map image := by
  intro path pathMem
  rcases List.mem_map.mp pathMem with ⟨element, elementMem, rfl⟩
  rcases List.getElem?_of_mem elementMem with ⟨place, there⟩
  rcases grown place element there with ⟨other, isOther, hasGrown⟩
  exact List.mem_map.mpr ⟨other, List.mem_of_getElem? isOther, kept hasGrown⟩

/-- What is declared stays declared. -/
theorem Namespace.Grows.declares (grown : earlier.Grows later) {kind : DeclarationKind} {path : String}
    (there : earlier.declares kind path = true) : later.declares kind path = true := by
  rw [declares_eq, decide_eq_true_iff] at there ⊢
  cases kind with
  | schema => exact grown.schemas.map_subset (fun hasGrown => hasGrown.path) there
  | collection => exact grown.collections.subset there
  | dispatch => exact (grown.dispatches.map Dispatch.path).subset there
  | field => exact there

/-- What a namespace owns it keeps. -/
theorem Namespace.Grows.owns (grown : earlier.Grows later) {kind : DeclarationKind} {path : String}
    (owned : earlier.owns kind path = true) : later.owns kind path = true := by
  unfold Namespace.owns at owned ⊢
  rw [Bool.or_eq_true, Bool.and_eq_true, Option.any_eq_true] at owned ⊢
  rcases owned with declared | ⟨isCollection, schema, found, isKeyed⟩
  · exact Or.inl (grown.declares declared)
  · rcases grown.schemas.find?_eq (fun hasGrown => by rw [hasGrown.path]) found with ⟨other, isOther, hasGrown⟩
    exact Or.inr ⟨isCollection, other, isOther, hasGrown.keyed.trans isKeyed⟩

theorem World.Grows.owns {before after : World} (grown : before.Grows after) {declaration : Declaration}
    (owned : before.Owns declaration) : after.Owns declaration := by
  rcases owned with ⟨owner, isOwner, owns⟩
  rcases grown.space? isOwner with ⟨other, isOther, hasGrown⟩
  exact ⟨other, isOther, hasGrown.owns owns⟩

end Owners

namespace World

theorem Holds.imp {manner : Manner} {first second : Namespace → Prop} {world : World} (holds : world.Holds manner first)
    (each : ∀ space, first space → second space) : world.Holds manner second where
  graphs builder builderMem :=
    have graphHolds := holds.graphs builder builderMem
    ⟨graphHolds.default, graphHolds.names, fun space spaceMem => each space (graphHolds.spaces space spaceMem)⟩
  loose space spaceMem := (holds.loose space spaceMem).imp_right (each space)

end World

namespace Session

/-- The body of a schema declares a field a second time, which fails, and then the schema is declared again. -/
def again : List Step :=
  [.command (.create ⟨.text "spec", [], [], none⟩),
    .schema (.int 0) (.text "a") (.bool false)
      [.field (.text "x") (.text "uint") false, .field (.text "x") (.text "uint") false],
    .schema (.int 0) (.text "a") (.bool false) []]

end Session

end SpecGraph
