import Mathlib.Data.List.Induction
import SpecGraph.Error.Basic
import SpecGraph.Proofs.Graph.Plain

/-!
# Graphs put together from pieces

A declaration puts a piece into a namespace: schemas, collections and dispatches at the ends of its lists. The
namespace is made on its first use. Pieces that are put one after the other give the same graph as the pieces of each
namespace together, with the namespaces in the order of their first pieces. A piece is admitted by a graph if nothing
in it is declared twice or taken in the graph.
-/

namespace SpecGraph

namespace Namespace

/-- The namespace with a piece at its end. -/
def put (space piece : Namespace) : Namespace :=
  { space with
    schemas := space.schemas ++ piece.schemas
    collections := space.collections ++ piece.collections
    dispatches := space.dispatches ++ piece.dispatches }

@[simp]
theorem name_put (space piece : Namespace) : (space.put piece).name = space.name := rfl

/-- The paths of the declarations of a kind. -/
def paths (space : Namespace) : DeclarationKind → List String
  | .schema => space.schemas.map Schema.path
  | .collection => space.collections.map Collection.path
  | .dispatch => space.dispatches.map Dispatch.path
  | .field => []

theorem paths_put (space piece : Namespace) (kind : DeclarationKind) :
    (space.put piece).paths kind = space.paths kind ++ piece.paths kind := by
  cases kind with
  | field => rfl
  | _ => exact List.map_append

/-- The names of the declarations of a kind. -/
def names (space : Namespace) (kind : DeclarationKind) : List Name :=
  (space.paths kind).map fun path => ⟨space.name, path⟩

theorem mem_names {space : Namespace} {kind : DeclarationKind} {name : Name} :
    name ∈ space.names kind ↔ name.space = space.name ∧ name.path ∈ space.paths kind := by
  constructor
  · intro nameMem
    rcases List.mem_map.mp nameMem with ⟨path, pathMem, rfl⟩
    exact ⟨rfl, pathMem⟩
  · rintro ⟨same, pathMem⟩
    exact List.mem_map.mpr ⟨name.path, pathMem, by rw [← same]⟩

theorem nodup_names {space : Namespace} {kind : DeclarationKind} :
    (space.names kind).Nodup ↔ (space.paths kind).Nodup :=
  List.nodup_map_iff fun _ _ same => (Name.mk.inj same).2

/-- The paths that are taken for a kind: those of the guests of the kind, and those of its own declarations. -/
def taken (space : Namespace) (kind : DeclarationKind) : List String :=
  (space.guests.filter fun guest => guest.kind == kind).map Declaration.path ++ space.paths kind

theorem taken_put (space piece : Namespace) (kind : DeclarationKind) :
    (space.put piece).taken kind = space.taken kind ++ piece.paths kind := by
  rw [taken, paths_put, ← List.append_assoc]
  rfl

/-- If a path is declared at the end, it is taken more. -/
theorem taken_concat_perm {space later : Namespace} {kind : DeclarationKind} {path : String}
    (guests : later.guests = space.guests) (paths : later.paths kind = space.paths kind ++ [path]) :
    (later.taken kind).Perm (path :: space.taken kind) := by
  rw [taken, taken, guests, paths, ← List.append_assoc]
  exact List.perm_append_singleton _ _

theorem taken_congr {space later : Namespace} {kind : DeclarationKind} (guests : later.guests = space.guests)
    (paths : later.paths kind = space.paths kind) : later.taken kind = space.taken kind := by
  rw [taken, taken, guests, paths]

theorem mem_taken_of_mem_paths {space : Namespace} {kind : DeclarationKind} {path : String}
    (pathMem : path ∈ space.paths kind) : path ∈ space.taken kind := List.mem_append_right _ pathMem

/-- There is an element of a path exactly if this is one of the paths. -/
theorem isSome_find?_path {α : Type} (pathOf : α → String) (elements : List α) (path : String) :
    (elements.find? fun element => pathOf element == path).isSome = decide (path ∈ elements.map pathOf) := by
  rw [Bool.eq_iff_iff, decide_eq_true_iff, List.find?_isSome, List.mem_map]
  simp

theorem declares_eq (space : Namespace) (kind : DeclarationKind) (path : String) :
    space.declares kind path = decide (path ∈ space.paths kind) := by
  cases kind with
  | schema => exact isSome_find?_path Schema.path space.schemas path
  | collection => exact isSome_find?_path Collection.path space.collections path
  | dispatch => exact isSome_find?_path Dispatch.path space.dispatches path
  | field => rfl

theorem isTaken_eq (space : Namespace) (kind : DeclarationKind) (path : String) :
    space.isTaken kind path = decide (path ∈ space.taken kind) := by
  have byGuests : (space.guests.any fun guest => guest.kind == kind && guest.path == path) =
      decide (path ∈ (space.guests.filter fun guest => guest.kind == kind).map Declaration.path) := by
    rw [Bool.eq_iff_iff, decide_eq_true_iff, List.any_eq_true, List.mem_map]
    simp [and_assoc]
  rw [isTaken, declares_eq, byGuests, Bool.or_comm, ← Bool.decide_or]
  exact decide_eq_decide.mpr List.mem_append.symm

theorem isTaken_iff {space : Namespace} {kind : DeclarationKind} {path : String} :
    space.isTaken kind path = true ↔ path ∈ space.taken kind := by
  rw [isTaken_eq, decide_eq_true_iff]

/-- Nothing in a piece is given twice or taken in the namespace. -/
def Admits (space piece : Namespace) : Prop :=
  ∀ kind, (piece.paths kind).Nodup ∧ ∀ path ∈ piece.paths kind, path ∉ space.taken kind

/-- What a namespace has comes first in another one of its name. -/
structure Extends (earlier later : Namespace) : Prop where
  /-- The name is the same. -/
  name : later.name = earlier.name
  /-- The schemas come first. -/
  schemas : earlier.schemas <+: later.schemas
  /-- The collections come first. -/
  collections : earlier.collections <+: later.collections
  /-- The dispatches come first. -/
  dispatches : earlier.dispatches <+: later.dispatches
  /-- The guests are the same. -/
  guests : later.guests = earlier.guests

theorem extends_put (space piece : Namespace) : space.Extends (space.put piece) :=
  ⟨rfl, List.prefix_append _ _, List.prefix_append _ _, List.prefix_append _ _, rfl⟩

theorem Extends.refl (space : Namespace) : space.Extends space :=
  ⟨rfl, List.prefix_refl _, List.prefix_refl _, List.prefix_refl _, rfl⟩

theorem Extends.trans {first second third : Namespace} (before : first.Extends second) (after : second.Extends third) :
    first.Extends third :=
  ⟨after.name.trans before.name, before.schemas.trans after.schemas, before.collections.trans after.collections,
    before.dispatches.trans after.dispatches, after.guests.trans before.guests⟩

end Namespace

namespace Graph

/-- The graph with a namespace of a name, which is made if there is none. -/
def ensure (graph : Graph) (name : String) : Graph :=
  if (graph.space? name).isNone then graph.addSpace name else graph

/-- The graph with the namespace of a name replaced. -/
def setSpace (graph : Graph) (space : Namespace) : Graph := graph.modifySpace space.name fun _ => space

/-- The graph with a piece in its namespace. -/
def put (graph : Graph) (piece : Namespace) : Graph :=
  (graph.ensure piece.name).modifySpace piece.name (·.put piece)

/-- A name is taken for a kind. -/
def Has (graph : Graph) (kind : DeclarationKind) (name : Name) : Prop :=
  ∃ space, graph.space? name.space = some space ∧ name.path ∈ space.taken kind

/-- No name is given twice or taken in the graph. -/
def Admits (graph : Graph) (names : DeclarationKind → List Name) : Prop :=
  ∀ kind, (names kind).Nodup ∧ ∀ name ∈ names kind, ¬graph.Has kind name

/-- Every namespace of a graph is at its place in another one, with what it has first. -/
def Extends (earlier later : Graph) : Prop :=
  ∀ (place : Nat) (space : Namespace), earlier.spaces[place]? = some space →
    ∃ other, later.spaces[place]? = some other ∧ space.Extends other

theorem Extends.refl (graph : Graph) : graph.Extends graph :=
  fun _ space there => ⟨space, there, Namespace.Extends.refl space⟩

theorem Extends.trans {first second third : Graph} (before : first.Extends second) (after : second.Extends third) :
    first.Extends third := by
  intro place space there
  rcases before place space there with ⟨other, otherThere, extended⟩
  rcases after place other otherThere with ⟨last, lastThere, extendedLast⟩
  exact ⟨last, lastThere, extended.trans extendedLast⟩

theorem extends_ensure (graph : Graph) (name : String) : graph.Extends (graph.ensure name) := by
  unfold ensure
  split
  · intro place space there
    have less := (List.getElem?_eq_some_iff.mp there).1
    exact ⟨space, (List.getElem?_append_left less).trans there, Namespace.Extends.refl space⟩
  · exact Extends.refl graph

theorem extends_setSpace {graph : Graph} {space later : Namespace} (found : graph.space? later.name = some space)
    (extended : space.Extends later) : graph.Extends (graph.setSpace later) := by
  intro place other there
  have stays : (graph.setSpace later).spaces[place]? = some other ∨
      (graph.space? later.name = some other ∧ (graph.setSpace later).spaces[place]? = some later) :=
    getElem?_replaceFirst there
  rcases stays with same | ⟨isFound, changed⟩
  · exact ⟨other, same, Namespace.Extends.refl other⟩
  · cases found.symm.trans isFound
    exact ⟨later, changed, extended⟩

section Lookup

variable {graph : Graph} {space : Namespace} {name : String}

theorem name_of_space? (found : graph.space? name = some space) : space.name = name := by
  simpa using List.find?_some found

/-- After a change of a namespace it is found as it was changed, and the others are as they were. -/
theorem space?_modifySpace (graph : Graph) (name : String) {change : Namespace → Namespace}
    (kept : ∀ space, space.name = name → (change space).name = name) (other : String) :
    (graph.modifySpace name change).space? other =
      if other = name then (graph.space? name).map change else graph.space? other := by
  split
  next same =>
    subst same
    exact find?_replaceFirst fun space isSpace => by simpa using kept space (by simpa using isSpace)
  next apart =>
    refine find?_replaceFirst_of_apart fun space isSpace => ?_
    have isName : space.name = name := by simpa using isSpace
    rw [beq_eq_false_iff_ne, beq_eq_false_iff_ne, kept space isName, isName]
    exact ⟨Ne.symm apart, Ne.symm apart⟩

theorem space?_ensure (graph : Graph) (name other : String) :
    (graph.ensure name).space? other =
      if other = name then some ((graph.space? name).getD (Namespace.empty name)) else graph.space? other := by
  have added : (graph.addSpace name).space? other =
      (graph.space? other).or (if name == other then some (Namespace.empty name) else none) := by
    rw [space?, addSpace, List.find?_append, List.find?_singleton]
    rfl
  unfold ensure
  cases found : graph.space? name with
  | none =>
      rw [Option.isNone_none, if_pos rfl, added]
      by_cases same : other = name
      · subst same
        rw [found, Option.none_or, if_pos (beq_self_eq_true other), if_pos rfl]
        rfl
      · rw [if_neg (by simpa using Ne.symm same), Option.or_none, if_neg same]
  | some space =>
      rw [Option.isNone_some, if_neg Bool.false_ne_true]
      split
      next same => rw [same, found]; rfl
      · rfl

theorem space?_put (graph : Graph) (piece : Namespace) (other : String) :
    (graph.put piece).space? other =
      if other = piece.name then some (((graph.space? piece.name).getD (Namespace.empty piece.name)).put piece)
      else graph.space? other := by
  have kept (space : Namespace) (isName : space.name = piece.name) : (space.put piece).name = piece.name := isName
  rw [put, space?_modifySpace _ _ kept, space?_ensure, space?_ensure]
  split
  · rw [if_pos rfl]
    rfl
  · rfl

/-- A piece is put by replacing its namespace. -/
theorem put_eq_setSpace {piece : Namespace} (found : (graph.ensure piece.name).space? piece.name = some space) :
    graph.put piece = (graph.ensure piece.name).setSpace (space.put piece) := by
  rw [put, setSpace, Namespace.name_put, name_of_space? found]
  refine congrArg Graph.mk (replaceFirst_congr fun other isOther => ?_)
  cases found.symm.trans isOther
  rfl

theorem extends_put (graph : Graph) (piece : Namespace) : graph.Extends (graph.put piece) := by
  have found : (graph.ensure piece.name).space? piece.name =
      some ((graph.space? piece.name).getD (Namespace.empty piece.name)) := by
    rw [space?_ensure, if_pos rfl]
  rw [put_eq_setSpace found]
  refine (extends_ensure graph piece.name).trans (extends_setSpace ?_ (Namespace.extends_put _ piece))
  rwa [Namespace.name_put, name_of_space? found]

theorem extends_foldl_put (graph : Graph) (pieces : List Namespace) : graph.Extends (pieces.foldl put graph) := by
  induction pieces generalizing graph with
  | nil => exact Extends.refl graph
  | cons piece rest ih => exact (extends_put graph piece).trans (ih (graph.put piece))

end Lookup

/-- What there is can be told by the namespace that is found, or by the empty one. -/
theorem has_iff {graph : Graph} {kind : DeclarationKind} {name : Name} :
    graph.Has kind name ↔
      name.path ∈ ((graph.space? name.space).getD (Namespace.empty name.space)).taken kind := by
  have none_ : (Namespace.empty name.space).taken kind = [] := by cases kind <;> rfl
  unfold Has
  cases graph.space? name.space with
  | none => simp [none_]
  | some space => simp

theorem has_put {graph : Graph} {piece : Namespace} {kind : DeclarationKind} {name : Name} :
    (graph.put piece).Has kind name ↔ graph.Has kind name ∨ name ∈ piece.names kind := by
  rw [has_iff, has_iff, space?_put, Namespace.mem_names]
  split
  next same => rw [Option.getD_some, Namespace.taken_put, List.mem_append, same, and_iff_right rfl]
  next apart => rw [or_iff_left fun inPiece => apart inPiece.1]

/-- The names of the declarations of a kind in pieces. -/
def namesOf (pieces : List Namespace) (kind : DeclarationKind) : List Name :=
  pieces.flatMap fun piece => piece.names kind

theorem namesOf_sublist {pieces : List Namespace} {kind other : DeclarationKind}
    (each : ∀ piece ∈ pieces, (piece.paths kind).Sublist (piece.paths other)) :
    (namesOf pieces kind).Sublist (namesOf pieces other) := by
  induction pieces with
  | nil => exact List.nil_sublist _
  | cons piece rest ih =>
      rw [List.forall_mem_cons] at each
      exact (each.1.map _).append (ih each.2)

/-- In a new graph every name is free. -/
theorem admits_initial {names : DeclarationKind → List Name} :
    initial.Admits names ↔ ∀ kind, (names kind).Nodup := by
  have free (kind : DeclarationKind) (name : Name) : ¬initial.Has kind name := by
    rintro ⟨space, found, there⟩
    rcases List.mem_singleton.mp (List.mem_of_find?_eq_some found) with rfl
    cases kind <;> cases there
  exact forall_congr' fun kind => and_iff_left fun name _ => free kind name

/-- A list of pieces is admitted if the first piece is, and the others are after it. -/
theorem admits_cons {graph : Graph} {piece : Namespace} {rest : List Namespace} :
    graph.Admits (namesOf (piece :: rest)) ↔ graph.Admits piece.names ∧ (graph.put piece).Admits (namesOf rest) := by
  unfold Admits namesOf
  rw [← forall_and]
  refine forall_congr' fun kind => ?_
  rw [List.flatMap_cons, List.nodup_append, List.forall_mem_append]
  simp only [has_put, not_or]
  constructor
  · rintro ⟨⟨ofPiece, ofRest, apart⟩, freePiece, freeRest⟩
    exact ⟨⟨ofPiece, freePiece⟩, ofRest, fun name nameMem =>
      ⟨freeRest name nameMem, fun inPiece => apart name inPiece name nameMem rfl⟩⟩
  · rintro ⟨⟨ofPiece, freePiece⟩, ofRest, free⟩
    refine ⟨⟨ofPiece, ofRest, ?_⟩, freePiece, fun name nameMem => (free name nameMem).1⟩
    rintro name inPiece other inRest rfl
    exact (free name inRest).2 inPiece

/-- A list of pieces is admitted if the first ones are, and the others are after them. -/
theorem admits_append {graph : Graph} {first rest : List Namespace} :
    graph.Admits (namesOf (first ++ rest)) ↔
      graph.Admits (namesOf first) ∧ (first.foldl put graph).Admits (namesOf rest) := by
  induction first generalizing graph with
  | nil => exact (and_iff_right fun _ => ⟨List.nodup_nil, List.forall_mem_nil _⟩).symm
  | cons piece others ih => rw [List.cons_append, admits_cons, ih, admits_cons, List.foldl_cons, and_assoc]

/-- A piece is admitted by a graph if it is by its namespace. -/
theorem admits_names_iff {graph : Graph} {space piece : Namespace}
    (found : (graph.ensure piece.name).space? piece.name = some space) :
    graph.Admits piece.names ↔ space.Admits piece := by
  rw [space?_ensure, if_pos rfl, Option.some.injEq] at found
  subst found
  refine forall_congr' fun kind => and_congr Namespace.nodup_names ?_
  rw [Namespace.names, List.forall_mem_map]
  exact forall₂_congr fun path _ => not_congr has_iff

section Merging

/-- The parts of pieces that belong to a namespace. -/
def collect (pieces : List Namespace) (name : String) : Namespace :=
  let own := pieces.filter fun piece => piece.name == name
  ⟨name, own.flatMap Namespace.schemas, own.flatMap Namespace.collections, own.flatMap Namespace.dispatches, []⟩

/-- The graph with the parts of all pieces by namespace, in the order of the first piece of each. -/
def merge (pieces : List Namespace) : Graph :=
  ⟨(pieces.map Namespace.name).eraseDups.map (collect pieces)⟩

theorem collect_concat (pieces : List Namespace) (piece : Namespace) (name : String) :
    collect (pieces ++ [piece]) name =
      if piece.name = name then (collect pieces name).put piece else collect pieces name := by
  unfold collect
  dsimp only
  rw [List.filter_append]
  by_cases same : piece.name = name
  · simp [same, Namespace.put]
  · simp [same]

theorem eraseDups_concat (names : List String) (name : String) :
    (names ++ [name]).eraseDups = if name ∈ names then names.eraseDups else names.eraseDups ++ [name] := by
  rw [List.eraseDups_append, List.removeAll]
  by_cases there : name ∈ names
  · simp [there]
  · simp [there, List.eraseDups_cons]

theorem nodup_eraseDups (names : List String) : names.eraseDups.Nodup := by
  induction names using List.reverseRecOn with
  | nil => exact List.nodup_nil
  | append_singleton front last ih =>
      rw [eraseDups_concat]
      split
      · exact ih
      next absent =>
        refine List.nodup_append.mpr ⟨ih, List.nodup_singleton last, fun name nameMem other otherMem => ?_⟩
        rintro rfl
        rw [List.mem_singleton] at otherMem
        exact absent (otherMem ▸ List.mem_eraseDups.mp nameMem)

/-- Merged pieces have a namespace of a name exactly if one of them is for it. -/
theorem isNone_space?_merge (pieces : List Namespace) (name : String) :
    ((merge pieces).space? name).isNone = true ↔ name ∉ pieces.map Namespace.name := by
  rw [Option.isNone_iff_eq_none, space?, List.find?_eq_none, merge, List.forall_mem_map, ← List.mem_eraseDups]
  constructor
  · exact fun absent there => absent name there (beq_self_eq_true name)
  · exact fun absent other otherMem isName => absent (beq_iff_eq.mp isName ▸ otherMem)

/-- Where there is no piece of a name, nothing is collected. -/
theorem collect_of_not_mem {pieces : List Namespace} {name : String} (absent : name ∉ pieces.map Namespace.name) :
    collect pieces name = Namespace.empty name := by
  have none_ : pieces.filter (fun piece => piece.name == name) = [] := by
    refine List.filter_eq_nil_iff.mpr fun piece pieceMem isName => absent ?_
    exact List.mem_map.mpr ⟨piece, pieceMem, beq_iff_eq.mp isName⟩
  unfold collect
  rw [none_]
  rfl

theorem ensure_merge (pieces : List Namespace) (name : String) :
    (merge pieces).ensure name = ⟨(pieces.map Namespace.name ++ [name]).eraseDups.map (collect pieces)⟩ := by
  rw [ensure, eraseDups_concat]
  by_cases there : name ∈ pieces.map Namespace.name
  · rw [if_pos there, if_neg fun absent => (isNone_space?_merge pieces name).mp absent there]
    rfl
  · rw [if_neg there, if_pos ((isNone_space?_merge pieces name).mpr there), List.map_append, List.map_singleton,
      collect_of_not_mem there]
    rfl

/-- A change of one of the namespaces of distinct names. -/
theorem modifySpace_map {names : List String} (distinct : names.Nodup) {spaceOf : String → Namespace}
    (named : ∀ name, (spaceOf name).name = name) (name : String) (change : Namespace → Namespace) :
    modifySpace ⟨names.map spaceOf⟩ name change =
      ⟨names.map fun other => if name = other then change (spaceOf other) else spaceOf other⟩ := by
  refine congrArg Graph.mk ?_
  induction names with
  | nil => rfl
  | cons first rest ih =>
      rw [List.nodup_cons] at distinct
      rw [List.map_cons, List.map_cons, replaceFirst, named]
      by_cases same : name = first
      · subst same
        rw [if_pos (beq_self_eq_true name), if_pos rfl]
        refine congrArg _ (List.map_congr_left fun other otherMem => ?_)
        rw [if_neg]
        rintro rfl
        exact distinct.1 otherMem
      · rw [if_neg (by simpa using Ne.symm same), if_neg same, ih distinct.2]

/-- A piece after others is put into what these give. -/
theorem merge_concat (pieces : List Namespace) (piece : Namespace) :
    merge (pieces ++ [piece]) = (merge pieces).put piece := by
  rw [put, ensure_merge, modifySpace_map (nodup_eraseDups _) fun _ => rfl, merge, List.map_append]
  exact congrArg Graph.mk (List.map_congr_left fun name _ => collect_concat pieces piece name)

/-- Pieces that are put one after the other give the graph of all pieces. -/
theorem foldl_put_merge (front pieces : List Namespace) :
    pieces.foldl put (merge front) = merge (front ++ pieces) := by
  induction pieces generalizing front with
  | nil => rw [List.append_nil, List.foldl_nil]
  | cons piece rest ih => rw [List.foldl_cons, ← merge_concat, ih, List.append_assoc, List.singleton_append]

end Merging

end Graph

end SpecGraph
