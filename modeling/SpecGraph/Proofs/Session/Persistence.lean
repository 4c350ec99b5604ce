import SpecGraph.Proofs.Session.History

/-!
# What a history leaves on disk

From one moment of a history to a later one what is persisted is extended, and at every moment the collections
and dispatches refer to persisted schemas. This needs names that a manifest tells apart. The two halves of a
code point that escapes name one by one are read back as the code point, so two names that differ may be one
name on disk.
-/

namespace SpecGraph

namespace History

open Session

section

variable {roots : Roots} {history : History roots} (apart : history.KeepsApart) (shown : history.IsShown)
include apart shown

/-- From one moment to a later one the manifests are extended: every schema stays with its flag and its
fields, and gets optional fields at most; every collection and every dispatch stays with its id. -/
theorem manifests_extended :
    (∀ count, (history.worldAfter count).workspace.files = history.filesAt (history.momentAfter count)) ∧
    Monotone history.momentAfter ∧
    ∀ earlier later, earlier ≤ later → ∃ olds news : Persisted,
      roots.persisted? (history.filesAt earlier) = some olds ∧
      roots.persisted? (history.filesAt later) = some news ∧ news.IsDistinct ∧ olds.ExtendedBy news := by
  refine ⟨history.files_worldAfter, history.monotone_momentAfter, fun earlier later before => ?_⟩
  obtain ⟨olds, news, oldsOnDisk, newsOnDisk, extended⟩ := exists_onDisk apart shown before
  exact ⟨olds, news, oldsOnDisk.persisted?_eq, newsOnDisk.persisted?_eq, newsOnDisk.isDistinct, extended⟩

end

/-- Makes a builder. -/
def making : Step := .command (.create ⟨.text "spec", [], [], none⟩)

/-- Declares a collection with a key of one field. -/
def keyed (place : Int) (name : String) : Step :=
  .collection (.int place) (.text name) [.field (.text "id") (.text "uint") false, .key (.list [.text "id"])]

/-- A collection is built, and later with another optional field and with a dispatch besides it. -/
def growing : List Step :=
  [making, keyed 0 "item",
    making, keyed 1 "item", .command (.dispatchTo (.int 1) (.text "put") (.text "item")),
    .edit (.ofBuilder (.int 1) (.text "item")) [.field (.text "note") (.text "string") true]]

/-- What is persisted after the first build. -/
def grownOnce : Persisted :=
  ⟨[⟨"@default/item", false, [⟨"id", "uint", true⟩]⟩], [(⟨"@default/item", "@default/item", ["id"]⟩, 1)], []⟩

/-- What is persisted after the second build. -/
def grownTwice : Persisted :=
  ⟨[⟨"@default/item", false, [⟨"id", "uint", true⟩, ⟨"note", "string", false⟩]⟩],
    [(⟨"@default/item", "@default/item", ["id"]⟩, 1)], [(⟨"@default/put", "@default/item"⟩, 1)]⟩

/-- What a computation tells of the builders and of what they leave. -/
theorem growing_told : Declares growing 2 ∧
    (∀ call ∈ Builder.callsOf (declared growing).builders (List.range 2), call.request.KeepsApart) ∧
    StageCall.weight (Builder.callsOf (declared growing).builders (List.range 2)) < Text.leastUnshown ∧
    (Builder.follow? (declared growing).builders (List.range 1) .empty).bind Manifests.persisted? = some grownOnce ∧
    (Builder.follow? (declared growing).builders (List.range 2) .empty).bind Manifests.persisted? = some grownTwice := by
  decide +kernel

theorem declares_growing : Declares growing 2 := growing_told.1

theorem keepsApart_growing : (ofDeclares growing 2 declares_growing).KeepsApart :=
  keepsApart_ofDeclares declares_growing growing_told.2.1

theorem isShown_growing : (ofDeclares growing 2 declares_growing).IsShown :=
  isShown_ofDeclares declares_growing growing_told.2.2.1

theorem persisted?_growingOnce :
    specRoots.persisted? ((ofDeclares growing 2 declares_growing).filesAt
      ((ofDeclares growing 2 declares_growing).momentAfter (growing.length + 1))) = some grownOnce :=
  persisted?_ofDeclares declares_growing (by decide) growing_told.2.2.2.1

theorem persisted?_growingTwice :
    specRoots.persisted? ((ofDeclares growing 2 declares_growing).filesAt
      ((ofDeclares growing 2 declares_growing).momentAfter (growing.length + 2))) = some grownTwice :=
  persisted?_ofDeclares declares_growing (Nat.le_refl _) growing_told.2.2.2.2

theorem manifests_extended_growing :
    ∃ history : History specRoots, ∃ earlier later, earlier ≤ later ∧
      specRoots.persisted? (history.filesAt earlier) = some grownOnce ∧
      specRoots.persisted? (history.filesAt later) = some grownTwice ∧ grownOnce.ExtendedBy grownTwice := by
  rcases manifests_extended keepsApart_growing isShown_growing with ⟨_, monotone, extends_⟩
  have before := monotone (Nat.add_le_add_left (by decide : 1 ≤ 2) growing.length)
  rcases extends_ _ _ before with ⟨olds, news, isOld, isNew, _, extended⟩
  cases persisted?_growingOnce.symm.trans isOld
  cases persisted?_growingTwice.symm.trans isNew
  exact ⟨_, _, _, before, persisted?_growingOnce, persisted?_growingTwice, extended⟩

/-- A name that is made of the two halves of a code point. -/
def halves : Data := .text (String.ofList (Text.ofCode 0xD83D ++ Text.ofCode 0xDE00))

/-- A schema is built, later a schema of the halved name with a flag besides it, and then the first schema with
the flag. -/
def flagging : List Step :=
  [making, .schema (.int 0) (.text "😀") (.bool false) [],
    making, .schema (.int 1) (.text "😀") (.bool false) [], .schema (.int 1) halves (.bool true) [],
    making, .schema (.int 2) (.text "😀") (.bool true) []]

theorem flagging_told : Declares flagging 3 ∧
    (Builder.follow? (declared flagging).builders (List.range 1) .empty).bind Manifests.persisted? =
      some ⟨[⟨"@default/😀", false, []⟩], [], []⟩ ∧
    (Builder.follow? (declared flagging).builders (List.range 3) .empty).bind Manifests.persisted? =
      some ⟨[⟨"@default/😀", true, []⟩], [], []⟩ := by
  decide +kernel

/-- A schema whose flag changes is accepted after a name that a manifest does not tell from its name. -/
theorem flag_changed_flagging :
    ∃ history : History specRoots, ∃ earlier later, earlier ≤ later ∧ ∃ olds news : Persisted,
      specRoots.persisted? (history.filesAt earlier) = some olds ∧
      specRoots.persisted? (history.filesAt later) = some news ∧ ¬olds.ExtendedBy news := by
  refine ⟨ofDeclares flagging 3 flagging_told.1, _, _,
    monotone_momentAfter _ (Nat.add_le_add_left (by decide : 1 ≤ 3) flagging.length),
    ⟨[⟨"@default/😀", false, []⟩], [], []⟩, ⟨[⟨"@default/😀", true, []⟩], [], []⟩,
    persisted?_ofDeclares _ (by decide) flagging_told.2.1,
    persisted?_ofDeclares _ (by decide) flagging_told.2.2, ?_⟩
  intro extended
  rcases extended.schemas _ List.mem_cons_self with ⟨new, newMem, _, same, _⟩
  rw [List.mem_singleton] at newMem
  subst newMem
  cases same

section

variable {roots : Roots} {history : History roots} (apart : history.KeepsApart) (shown : history.IsShown)
include apart shown

/-- At every moment, where there is a manifest of collections or dispatches there is one of schemas, and it
has the schemas that they refer to, with the fields of the keys. -/
theorem references_resolved :
    (∀ count, (history.worldAfter count).workspace.files = history.filesAt (history.momentAfter count)) ∧
    ∀ moment, ∃ state : Persisted, roots.persisted? (history.filesAt moment) = some state ∧
      ((history.filesAt moment).textAt? (roots.place .storage) ≠ none →
        (history.filesAt moment).textAt? (roots.place .schema) ≠ none ∧
        ∀ collection ∈ state.collections, collection.1.ResolvedIn state.schemas) ∧
      ((history.filesAt moment).textAt? (roots.place .dispatch) ≠ none →
        (history.filesAt moment).textAt? (roots.place .schema) ≠ none ∧
        ∀ dispatch ∈ state.dispatches, dispatch.1.ResolvedIn state.schemas) := by
  refine ⟨history.files_worldAfter, fun moment => ?_⟩
  obtain ⟨state, _, onDisk, _⟩ := exists_onDisk apart shown (Nat.le_refl moment)
  exact ⟨state, onDisk.persisted?_eq,
    fun there => ⟨onDisk.schemasFirst _ there, onDisk.collectionsFit.resolved⟩,
    fun there => ⟨onDisk.schemasFirst _ there, onDisk.dispatchesFit.resolved⟩⟩

end

theorem references_resolved_growing :
    ∃ history : History specRoots, ∃ moment, specRoots.persisted? (history.filesAt moment) = some grownTwice ∧
      ∀ collection ∈ grownTwice.collections, collection.1.ResolvedIn grownTwice.schemas := by
  rcases references_resolved keepsApart_growing isShown_growing with ⟨_, resolved⟩
  rcases resolved ((ofDeclares growing 2 declares_growing).momentAfter (growing.length + 2)) with
    ⟨state, isState, collections, _⟩
  cases persisted?_growingTwice.symm.trans isState
  refine ⟨_, _, persisted?_growingTwice, (collections ?_).2⟩
  apply Roots.textAt?_of_collections persisted?_growingTwice
  simp [grownTwice]

/-- A collection is built, later a schema of the halved name of its schema without the key, and then its schema
without the key. -/
def unkeying : List Step :=
  [making, keyed 0 "😀", making, keyed 1 "😀", .dispatch (.int 1) halves [],
    making, .schema (.int 2) (.text "😀") (.bool false) []]

theorem unkeying_told : Declares unkeying 3 ∧
    (Builder.follow? (declared unkeying).builders (List.range 3) .empty).bind Manifests.persisted? =
      some ⟨[⟨"@default/😀", false, []⟩], [(⟨"@default/😀", "@default/😀", ["id"]⟩, 1)], []⟩ := by
  decide +kernel

/-- A schema without the key of a collection is accepted after a name that a manifest does not tell from its
name. -/
theorem key_dropped_unkeying :
    ∃ history : History specRoots, ∃ moment, ∃ state : Persisted,
      specRoots.persisted? (history.filesAt moment) = some state ∧
      ∃ collection ∈ state.collections, ¬collection.1.ResolvedIn state.schemas := by
  refine ⟨ofDeclares unkeying 3 unkeying_told.1, _,
    ⟨[⟨"@default/😀", false, []⟩], [(⟨"@default/😀", "@default/😀", ["id"]⟩, 1)], []⟩,
    persisted?_ofDeclares _ (Nat.le_refl _) unkeying_told.2, _, List.mem_cons_self, ?_⟩
  rintro ⟨schema, schemaMem, _, _, names⟩
  rw [List.mem_singleton] at schemaMem
  subst schemaMem
  exact List.not_mem_nil (names "id" List.mem_cons_self)

end History

end SpecGraph
