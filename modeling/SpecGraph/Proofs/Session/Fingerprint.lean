import SpecGraph.Proofs.Json.ReadBack
import SpecGraph.Proofs.Session.Decoded
import SpecGraph.Proofs.Session.Legible

/-!
# Fingerprints

The fingerprint of a builder is the digest of the canonical text of its declarations, so it tells them if no two texts
have one digest: the members of what is declared always come in one order, and are equal if they are alike. The two
halves of a code point that a text has one by one are written as the code point is, and an integer with too many digits
has no text; so neither may occur.
-/

namespace SpecGraph

open Json (IsJson IsSettled Alike AreKeys reread)

namespace Json

/-- Settled values that are read back as one are one. -/
def Told (layout : Layout) (value other : Data) : Prop :=
  IsSettled value → IsSettled other → reread layout value = reread layout other → value = other

variable {layout : Layout}

theorem IsJson.text_isSuch {ints : Int → Prop} {texts : String → Prop} {value : String}
    (json : IsJson ints texts (.text value)) : texts value := by
  generalize isText : Data.text value = shown at json
  cases json with
  | text isSuch =>
      cases isText
      exact isSuch
  | _ => cases isText

theorem told_text (value other : String) : Told layout (.text value) (.text other) := by
  intro json otherJson same
  rw [reread_text, reread_text, json.text_isSuch, otherJson.text_isSuch] at same
  exact same

theorem told_bool (value other : Bool) : Told layout (.bool value) (.bool other) := fun _ _ same => same

theorem told_list {items others : List Data} (each : ∀ item ∈ items, ∀ other ∈ others, Told layout item other) :
    Told layout (.list items) (.list others) := by
  intro json otherJson same
  rw [reread_list, reread_list, Data.list.injEq] at same
  rcases exists_pairs_of_map_eq same with ⟨pairs, rfl, rfl, samePairs⟩
  refine congrArg Data.list (List.map_congr_left fun pair pairMem => ?_)
  have firstMem := List.mem_map_of_mem (f := Prod.fst) pairMem
  have secondMem := List.mem_map_of_mem (f := Prod.snd) pairMem
  exact each _ firstMem _ secondMem (json.items _ firstMem) (otherJson.items _ secondMem) (samePairs pair pairMem)

theorem told_list_map {α β : Type} {image : α → Data} {otherImage : β → Data} {elements : List α} {others : List β}
    (each : ∀ element ∈ elements, ∀ other ∈ others, Told layout (image element) (otherImage other)) :
    Told layout (.list (elements.map image)) (.list (others.map otherImage)) :=
  told_list (List.forall_mem_map.mpr fun element elementMem => List.forall_mem_map.mpr (each element elementMem))

/-- Entries under the same names in the same order are the same if they are so up to the order. -/
theorem eq_of_perm_of_names {α β : Type} {lefts rights : List (α × β)} (same : lefts.Perm rights)
    (names : lefts.map Prod.fst = rights.map Prod.fst) (apart : (lefts.map Prod.fst).Nodup) : lefts = rights := by
  induction lefts generalizing rights with
  | nil => exact same.nil_eq
  | cons left rest ih =>
      cases rights with
      | nil => exact same.eq_nil
      | cons right others =>
          rcases List.cons.inj names with ⟨sameName, otherNames⟩
          rcases List.nodup_cons.mp apart with ⟨notLater, restApart⟩
          have isFirst : left = right := by
            rcases List.mem_cons.mp (same.mem_iff.mp List.mem_cons_self) with isFirst | later
            · exact isFirst
            · exact absurd (otherNames ▸ List.mem_map_of_mem later) notLater
          subst isFirst
          rw [ih same.cons_inv otherNames restApart]

/-- Mappings with the same keys in the same order are told by their values. -/
theorem told_object {entries others : List (String × Data)} (names : entries.map Prod.fst = others.map Prod.fst)
    (each : List.Forall₂ (fun entry other => Told layout entry.2 other.2) entries others) :
    Told layout (Data.object entries) (Data.object others) := by
  intro json otherJson same
  rcases json.entries with ⟨parts, settled, apart⟩
  rcases otherJson.entries with ⟨otherParts, otherSettled, otherApart⟩
  rw [reread_object_of_keys layout (IsSettled.areKeys settled apart),
    reread_object_of_keys layout (IsSettled.areKeys otherSettled otherApart)] at same
  let asRead (entry : String × Data) : String × Data := (entry.1, reread layout entry.2)
  have permuted : (entries.map asRead).Perm (others.map asRead) :=
    ((ordered_perm layout entries).map asRead).symm.trans
      ((List.Perm.of_eq (Data.object_inj same)).trans ((ordered_perm layout others).map asRead))
  have sameRead : entries.map asRead = others.map asRead := by
    refine eq_of_perm_of_names permuted ?_ ?_
    · rwa [List.map_map, List.map_map]
    · rwa [List.map_map]
  rcases exists_pairs each with ⟨pairs, rfl, rfl, told⟩
  rw [List.map_map, List.map_map] at sameRead
  refine congrArg Data.object (List.map_congr_left fun pair pairMem => ?_)
  have samePair := Prod.ext_iff.mp (List.map_inj_left.mp sameRead pair pairMem)
  have firstMem := List.mem_map_of_mem (f := Prod.fst) pairMem
  have secondMem := List.mem_map_of_mem (f := Prod.snd) pairMem
  exact Prod.ext samePair.1 (told pair pairMem (parts _ firstMem) (otherParts _ secondMem) samePair.2)

end Json

open Json (Told told_text told_bool told_list told_list_map told_object)

section Records

variable {layout : Json.Layout}

/-! Declarations of one kind are told when they are read back. -/

theorem Field.told {first second : Field} (plain : first.IsPlain) (otherPlain : second.IsPlain) :
    Told layout first.toData second.toData := by
  rcases plain.name with ⟨name, isName⟩
  rcases otherPlain.name with ⟨other, isOther⟩
  rw [toData, toData, isName, isOther]
  exact told_object rfl (.cons (told_text _ _) (.cons (told_text _ _) (.cons (told_bool _ _) .nil)))

theorem Schema.told {first second : Schema} (plain : first.IsPlain) (otherPlain : second.IsPlain) (space other : String) :
    Told layout (first.toData space) (second.toData other) := by
  rcases plain.compact with ⟨flag, isFlag⟩
  rcases otherPlain.compact with ⟨otherFlag, isOther⟩
  rw [toData, toData, isFlag, isOther]
  have fields : Told layout (.list (first.fields.map Field.toData)) (.list (second.fields.map Field.toData)) :=
    told_list_map fun field fieldMem other otherMem =>
      Field.told (plain.fields field fieldMem) (otherPlain.fields other otherMem)
  exact told_object rfl (.cons (told_text _ _) (.cons (told_text _ _) (.cons (told_bool _ _) (.cons fields .nil))))

theorem Collection.told {first second : Collection} (plain : ∀ name ∈ first.key, ∃ text, name = .text text)
    (otherPlain : ∀ name ∈ second.key, ∃ text, name = .text text) (space other : String) :
    Told layout (first.toData space) (second.toData other) := by
  have key : Told layout (.list first.key) (.list second.key) := by
    refine told_list fun name nameMem otherName otherMem => ?_
    rcases plain name nameMem with ⟨text, rfl⟩
    rcases otherPlain otherName otherMem with ⟨otherText, rfl⟩
    exact told_text text otherText
  exact told_object rfl (.cons (told_text _ _) (.cons (told_text _ _) (.cons (told_text _ _) (.cons key .nil))))

theorem Dispatch.told (first second : Dispatch) (space other : String) :
    Told layout (first.toData space) (second.toData other) :=
  told_object rfl (.cons (told_text _ _) (.cons (told_text _ _) (.cons (told_text _ _) .nil)))

theorem Namespace.told {first second : Namespace} (plain : first.IsPlain) (otherPlain : second.IsPlain) :
    Told layout first.toData second.toData := by
  refine told_object rfl (.cons (told_text _ _) (.cons ?schemas (.cons ?collections (.cons ?dispatches .nil))))
  case schemas =>
    exact told_list_map fun schema schemaMem other otherMem =>
      Schema.told (plain.schemas schema schemaMem) (otherPlain.schemas other otherMem) first.name second.name
  case collections =>
    exact told_list_map fun collection collectionMem other otherMem =>
      Collection.told (plain.keys collection collectionMem) (otherPlain.keys other otherMem) first.name second.name
  case dispatches =>
    exact told_list_map fun dispatch _ other _ => Dispatch.told dispatch other first.name second.name

theorem Graph.IsPlain.told {first second : Graph} (plain : first.IsPlain) (otherPlain : second.IsPlain) :
    Told layout first.toData second.toData :=
  told_list_map fun space spaceMem other otherMem =>
    Namespace.told (plain.spaces space spaceMem) (otherPlain.spaces other otherMem)

end Records

open Json (IsForm isForm_text isForm_bool isForm_list_map isForm_object)

section Forms

/-! The declarations of a builder are a tree of few levels, if its flags are truth values and its names are texts. -/

/-- A graph with truth values for the flags of its schemas and texts for the names of fields and keys. -/
structure Graph.IsTyped (graph : Graph) : Prop where
  /-- The flags are truth values. -/
  flags : ∀ space ∈ graph.spaces, ∀ schema ∈ space.schemas, ∃ flag, schema.compact = .bool flag
  /-- The names are texts. -/
  texts : ∀ space ∈ graph.spaces, space.IsTexted

theorem Graph.IsPlain.isTyped {graph : Graph} (plain : graph.IsPlain) : graph.IsTyped where
  flags space spaceMem schema schemaMem := ((plain.spaces space spaceMem).schemas schema schemaMem).compact
  texts space spaceMem :=
    ⟨fun schema schemaMem field fieldMem =>
      (((plain.spaces space spaceMem).schemas schema schemaMem).fields field fieldMem).name,
      (plain.spaces space spaceMem).keys⟩

variable {levels : Nat}

theorem Field.isForm_toData {field : Field} (isText : ∃ text, field.name = .text text) :
    IsForm (levels + 1) field.toData := by
  rcases isText with ⟨name, isName⟩
  rw [toData, isName]
  refine isForm_object (show Json.AreKeys ["name", "type", "required"] by decide +kernel) ?_
  simp only [List.forall_mem_cons]
  exact ⟨isForm_text _, isForm_text _, isForm_bool _, List.forall_mem_nil _⟩

theorem Schema.isForm_toData {schema : Schema} (isFlag : ∃ flag, schema.compact = .bool flag)
    (areTexts : ∀ field ∈ schema.fields, ∃ text, field.name = .text text) (space : String) :
    IsForm (levels + 3) (schema.toData space) := by
  rcases isFlag with ⟨flag, isFlag⟩
  rw [toData, isFlag]
  refine isForm_object (show Json.AreKeys ["name", "fqn", "compact", "fields"] by decide +kernel) ?_
  simp only [List.forall_mem_cons]
  have fields : IsForm (levels + 2) (.list (schema.fields.map Field.toData)) :=
    isForm_list_map fun field fieldMem => Field.isForm_toData (areTexts field fieldMem)
  exact ⟨isForm_text _, isForm_text _, isForm_bool _, fields, List.forall_mem_nil _⟩

theorem Collection.isForm_toData {collection : Collection}
    (areTexts : ∀ name ∈ collection.key, ∃ text, name = .text text) (space : String) :
    IsForm (levels + 2) (collection.toData space) := by
  refine isForm_object (show Json.AreKeys ["name", "fqn", "schema", "key"] by decide +kernel) ?_
  simp only [List.forall_mem_cons]
  have key : IsForm (levels + 1) (.list (collection.key.map id)) := by
    refine isForm_list_map fun name nameMem => ?_
    rcases areTexts name nameMem with ⟨text, rfl⟩
    exact isForm_text text
  rw [List.map_id] at key
  exact ⟨isForm_text _, isForm_text _, isForm_text _, key, List.forall_mem_nil _⟩

theorem Dispatch.isForm_toData (dispatch : Dispatch) (space : String) :
    IsForm (levels + 1) (dispatch.toData space) := by
  refine isForm_object (show Json.AreKeys ["name", "fqn", "request_type"] by decide +kernel) ?_
  simp only [List.forall_mem_cons]
  exact ⟨isForm_text _, isForm_text _, isForm_text _, List.forall_mem_nil _⟩

theorem Namespace.isForm_toData {space : Namespace}
    (flags : ∀ schema ∈ space.schemas, ∃ flag, schema.compact = .bool flag) (texted : space.IsTexted) :
    IsForm (levels + 5) space.toData := by
  refine isForm_object (show Json.AreKeys ["name", "schemas", "collections", "dispatches"] by decide +kernel) ?_
  simp only [List.forall_mem_cons]
  refine ⟨isForm_text _, ?schemas, ?collections, ?dispatches, List.forall_mem_nil _⟩
  case schemas =>
    exact isForm_list_map fun schema schemaMem =>
      Schema.isForm_toData (flags schema schemaMem) (texted.names schema schemaMem) space.name
  case collections =>
    exact isForm_list_map fun collection collectionMem =>
      Collection.isForm_toData (texted.keys collection collectionMem) space.name
  case dispatches =>
    exact isForm_list_map fun dispatch _ => dispatch.isForm_toData space.name

theorem Graph.IsTyped.isForm_toData {graph : Graph} (typed : graph.IsTyped) : IsForm (levels + 6) graph.toData :=
  isForm_list_map fun space spaceMem =>
    Namespace.isForm_toData (typed.flags space spaceMem) (typed.texts space spaceMem)

theorem Builder.isForm_toData {builder : Builder} (typed : builder.graph.IsTyped) :
    IsForm (levels + 7) builder.toData := by
  refine isForm_object (show Json.AreKeys ["spec_root", "namespaces"] by decide +kernel) ?_
  simp only [List.forall_mem_cons]
  exact ⟨isForm_text _, typed.isForm_toData, List.forall_mem_nil _⟩

end Forms

/-- What a fingerprint is made of. -/
def Graph.fingerprinted (graph : Graph) : Data := .object [("namespaces", graph.toData)]

theorem Graph.IsTyped.isSettled_fingerprinted {graph : Graph} (typed : graph.IsTyped)
    (settled : graph.toData.allTexts Text.isSettled = true) : Json.IsSettled graph.fingerprinted := by
  have form : IsForm 6 graph.toData := typed.isForm_toData
  have isName : Text.joined "namespaces" = "namespaces" := by decide +kernel
  exact .object (List.forall_mem_singleton.mpr (form.isSettled settled)) (List.forall_mem_singleton.mpr isName)
    (List.nodup_singleton _)

theorem Graph.IsPlain.isSettled_fingerprinted {graph : Graph} (plain : graph.IsPlain)
    (settled : graph.toData.allTexts Text.isSettled = true) : Json.IsSettled graph.fingerprinted :=
  plain.isTyped.isSettled_fingerprinted settled

/-- The canonical text of a tree of JSON whose integers can be shown tells the tree up to the order of its keys. The
fingerprints of populated builders with settled texts tell their declarations if their texts have different digests. -/
theorem fingerprint_tells_declarations :
    (∀ value other, IsJson (Text.isShowable · = true) (fun text => Text.IsPlain text.toList) value →
      IsJson (Text.isShowable · = true) (fun text => Text.IsPlain text.toList) other →
      ∃ text others, value.canonical = .ok text ∧ other.canonical = .ok others ∧
        (text = others ↔ Alike value other)) ∧
    ∀ first second : Builder, first.graph.IsPopulated → second.graph.IsPopulated →
      first.graph.toData.allTexts Text.isSettled = true → second.graph.toData.allTexts Text.isSettled = true →
      (∀ message other, first.graph.fingerprinted.message = .ok message → second.graph.fingerprinted.message = .ok other →
        Sha256.digest message = Sha256.digest other → message = other) →
      ∃ fingerprint other, first.fingerprint = .ok fingerprint ∧ second.fingerprint = .ok other ∧
        (fingerprint = other ↔ first.graph.toData = second.graph.toData) := by
  refine ⟨fun value other json otherJson => ?_, fun first second populated otherPopulated settled otherSettled apart => ?_⟩
  · exact Json.IsSettled.canonical_eq_iff (json.imp (fun _ isSuch => isSuch) fun _ => Text.joined_of_isPlain)
      (otherJson.imp (fun _ isSuch => isSuch) fun _ => Text.joined_of_isPlain)
  · have json := populated.isPlain.isSettled_fingerprinted settled
    have otherJson := otherPopulated.isPlain.isSettled_fingerprinted otherSettled
    rcases json.exists_canonical with ⟨text, isText⟩
    rcases otherJson.exists_canonical with ⟨others, isOther⟩
    refine ⟨_, _, Data.fingerprint_of_canonical isText, Data.fingerprint_of_canonical isOther, fun same => ?_,
      fun same => ?_⟩
    · have sameText := Data.canonical_eq_of_fingerprint json otherJson apart
        (by rw [Data.fingerprint_of_canonical isText, Data.fingerprint_of_canonical isOther, same])
      have sameRead := json.reread_eq_of_canonical otherJson sameText
      have told : Told .compact first.graph.fingerprinted second.graph.fingerprinted :=
        told_object rfl (.cons (populated.isPlain.told otherPopulated.isPlain) .nil)
      simpa using Data.object_inj (told json otherJson sameRead)
    · rw [Graph.fingerprinted, same] at isText
      cases isText.symm.trans isOther
      rfl

section Examples

open Session (Declares declared)
open History

/-- A mapping of a number and a list. -/
def pairOfParts : Data := .object [("one", .int 1), ("parts", .list [.null, .bool true, .text "é"])]

/-- The same in the other order. -/
def partsOfPair : Data := .object [("parts", .list [.null, .bool true, .text "é"]), ("one", .int 1)]

/-- A mapping and one with its entries in the other order, and two builders with different declarations. -/
theorem fingerprint_tells_declarations_growing :
    pairOfParts.canonical = partsOfPair.canonical ∧ Alike pairOfParts partsOfPair ∧
      ∃ first second : Builder, first.graph.IsPopulated ∧ second.graph.IsPopulated ∧
        ∃ fingerprint other, first.fingerprint = .ok fingerprint ∧ second.fingerprint = .ok other ∧
          (fingerprint = other ↔ first.graph.toData = second.graph.toData) := by
  have parts : IsJson (Text.isShowable · = true) (fun text => Text.IsPlain text.toList)
      (.list [.null, .bool true, .text "é"]) := by
    refine .list (List.forall_mem_cons.mpr ⟨.null, List.forall_mem_cons.mpr ⟨.bool, ?_⟩⟩)
    exact List.forall_mem_singleton.mpr (.text ⟨['é'], rfl⟩)
  have one : IsJson (Text.isShowable · = true) (fun text => Text.IsPlain text.toList) (.int 1) :=
    .int (by decide +kernel)
  have json : IsJson (Text.isShowable · = true) (fun text => Text.IsPlain text.toList) pairOfParts :=
    .object (List.forall_mem_cons.mpr ⟨one, List.forall_mem_singleton.mpr parts⟩)
      (List.forall_mem_cons.mpr ⟨⟨"one".toList, rfl⟩, List.forall_mem_singleton.mpr ⟨"parts".toList, rfl⟩⟩) (by simp)
  have otherJson : IsJson (Text.isShowable · = true) (fun text => Text.IsPlain text.toList) partsOfPair :=
    .object (List.forall_mem_cons.mpr ⟨parts, List.forall_mem_singleton.mpr one⟩)
      (List.forall_mem_cons.mpr ⟨⟨"parts".toList, rfl⟩, List.forall_mem_singleton.mpr ⟨"one".toList, rfl⟩⟩) (by simp)
  rcases fingerprint_tells_declarations.1 _ _ json otherJson with ⟨text, others, isText, isOther, iff⟩
  have sameText : pairOfParts.canonical.toOption = partsOfPair.canonical.toOption := by decide +kernel
  rw [isText, isOther] at sameText
  refine ⟨by rw [isText, isOther, Option.some.inj sameText], iff.mp (Option.some.inj sameText), ?_⟩
  rcases declares_growing.exists_ready (by decide : 0 < 2) with ⟨first, ready⟩
  rcases declares_growing.exists_ready (by decide : 1 < 2) with ⟨second, otherReady⟩
  have evaluated : (declared growing).builders[0]?.any (fun first => (declared growing).builders[1]?.any fun second =>
      (first.graph.toData.allTexts Text.isSettled && second.graph.toData.allTexts Text.isSettled) &&
      first.graph.fingerprinted.message.toOption.any fun message =>
        second.graph.fingerprinted.message.toOption.any fun other =>
          Sha256.hexDigest message != Sha256.hexDigest other) = true := by
    decide +kernel
  rw [ready.found, Option.any_some, otherReady.found, Option.any_some, Bool.and_eq_true, Bool.and_eq_true] at evaluated
  rcases evaluated with ⟨⟨settled, otherSettled⟩, differ⟩
  refine ⟨first, second, ready.populated, otherReady.populated, ?_⟩
  refine fingerprint_tells_declarations.2 first second ready.populated otherReady.populated settled otherSettled ?_
  intro message other isMessage isOtherMessage sameDigest
  rw [isMessage, isOtherMessage] at differ
  have sameDigits : Sha256.hexDigest message = Sha256.hexDigest other := by
    unfold Sha256.hexDigest
    rw [sameDigest]
  simp [Except.toOption, sameDigits] at differ

/-- Two schemas with names that are written alike. -/
def writtenAlike : List Step :=
  [making, .schema (.int 0) (.text "😀") (.bool false) [], making, .schema (.int 1) halves (.bool false) []]

theorem writtenAlike_told : Declares writtenAlike 2 ∧
    (declared writtenAlike).builders[0]?.any (fun first =>
        (declared writtenAlike).builders[1]?.any fun second =>
          (first.graph.toData.allTexts Text.isSettled && !second.graph.toData.allTexts Text.isSettled) &&
          first.fingerprint.toOption.any fun fingerprint =>
            second.fingerprint.toOption.any fun other => fingerprint == other) = true := by
  decide +kernel

theorem declares_writtenAlike : Declares writtenAlike 2 := writtenAlike_told.1

/-- An integer with too many digits has no canonical text, and builders whose declarations differ in the halves of a
code point have one fingerprint. -/
theorem fingerprint_not_told_writtenAlike :
    (∃ value, IsJson (fun _ => True) (fun text => Text.IsPlain text.toList) value ∧
      ∀ text, value.canonical ≠ .ok text) ∧
    ∃ first second : Builder, first.graph.IsPopulated ∧ second.graph.IsPopulated ∧
      (∃ fingerprint, first.fingerprint = .ok fingerprint ∧ second.fingerprint = .ok fingerprint) ∧
      first.graph.toData ≠ second.graph.toData := by
  have unshown : Text.isShowable ((10 : Int) ^ 4300) = false := by decide +kernel
  refine ⟨⟨.int (10 ^ 4300), .int trivial, Data.canonical_ne_of_unshown unshown⟩, ?_⟩
  · rcases declares_writtenAlike.exists_ready (by decide : 0 < 2) with ⟨first, ready⟩
    rcases declares_writtenAlike.exists_ready (by decide : 1 < 2) with ⟨second, otherReady⟩
    have evaluated := writtenAlike_told.2
    rw [ready.found, Option.any_some, otherReady.found, Option.any_some, Bool.and_eq_true, Bool.and_eq_true,
      Bool.not_eq_true'] at evaluated
    rcases evaluated with ⟨⟨settled, unsettled⟩, sameFingerprint⟩
    refine ⟨first, second, ready.populated, otherReady.populated, ?_, fun same => ?_⟩
    · rcases (Option.any_eq_true _ _).mp sameFingerprint with ⟨fingerprint, isFirst, sameSecond⟩
      rcases (Option.any_eq_true _ _).mp sameSecond with ⟨other, isSecond, areSame⟩
      obtain rfl := beq_iff_eq.mp areSame
      exact ⟨fingerprint, eq_ok_of_toOption isFirst, eq_ok_of_toOption isSecond⟩
    · rw [same, unsettled] at settled
      cases settled

end Examples

end SpecGraph
