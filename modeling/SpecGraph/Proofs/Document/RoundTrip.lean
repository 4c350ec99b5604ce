import SpecGraph.Document.Writer
import SpecGraph.Proofs.Data.Conveyed
import SpecGraph.Proofs.Document.Valid
import SpecGraph.Proofs.Manifest.Replay

/-!
# Documents that come back

A document that has texts for names and truth values for flags is written as a tree of texts, truth values, lists and
mappings, and it is read back from every value that conveys the tree. What is not given is left out on one side and
found missing on the other; an empty list of inline fields is written, but an absent one is not.

Fields are read with room for a number of levels of fields inside one another. Reading is followed with any room that
the document fits in.
-/

namespace SpecGraph

namespace FieldDecl

mutual

/-- A field with texts for its name, its type and its schema, if these are given, and a truth value for its flag. -/
def IsTyped : FieldDecl → Prop
  | .plain name type struct optional =>
      (∃ text, name = .text text) ∧ (type = .null ∨ ∃ text, type = .text text) ∧
        (struct = .null ∨ ∃ text, struct = .text text) ∧ ∃ flag, optional = .bool flag
  | .inline name type optional fields =>
      (∃ text, name = .text text) ∧ (type = .null ∨ ∃ text, type = .text text) ∧ (∃ flag, optional = .bool flag) ∧
        AreTyped fields

def AreTyped : List FieldDecl → Prop
  | [] => True
  | field :: rest => field.IsTyped ∧ AreTyped rest

end

theorem areTyped_iff {fields : List FieldDecl} : AreTyped fields ↔ ∀ field ∈ fields, field.IsTyped := by
  induction fields with
  | nil => simp [AreTyped]
  | cons field rest ih => rw [AreTyped, ih, List.forall_mem_cons]

mutual

/-- The levels of fields inside one another. -/
def levels : FieldDecl → Nat
  | .plain .. => 1
  | .inline _ _ _ fields => mostLevelsOf fields + 1

/-- The greatest number of levels of some fields. -/
def mostLevelsOf : List FieldDecl → Nat
  | [] => 0
  | field :: rest => max field.levels (mostLevelsOf rest)

end

theorem mostLevelsOf_le_iff {fields : List FieldDecl} {room : Nat} :
    mostLevelsOf fields ≤ room ↔ ∀ field ∈ fields, field.levels ≤ room := by
  induction fields with
  | nil => simp [mostLevelsOf]
  | cons field rest ih => rw [mostLevelsOf, Nat.max_le, ih, List.forall_mem_cons]

theorem toDataList_eq_mapM (fields : List FieldDecl) : toDataList fields = fields.mapM toData := by
  induction fields with
  | nil => rfl
  | cons field rest ih => rw [toDataList, List.mapM_cons, ih]

end FieldDecl

/-- Something is written as a tree, and it is read back from every value that conveys the tree, with room for its
levels. -/
def ComesBack {α : Type} (write : α → Except Error Data) (read : Nat → Data → Except Error α) (levels : α → Nat)
    (subject : α) : Prop :=
  ∃ tree, write subject = .ok tree ∧ tree.conveys tree = true ∧
    ∀ (room : Nat) (value : Data), levels subject ≤ room → value.conveys tree = true → read room value = .ok subject

theorem exists_mapM_comesBack {α : Type} {write : α → Except Error Data} {read : Nat → Data → Except Error α}
    {levels : α → Nat} {subjects : List α} (each : ∀ subject ∈ subjects, ComesBack write read levels subject) :
    ∃ trees, subjects.mapM write = .ok trees ∧ (Data.list trees).conveys (.list trees) = true ∧
      ∀ (room : Nat) (items : List Data), (∀ subject ∈ subjects, levels subject ≤ room) →
        List.Forall₂ (fun item tree => item.conveys tree = true) items trees →
        items.mapM (read room) = .ok subjects := by
  induction subjects with
  | nil =>
      refine ⟨[], rfl, rfl, fun room items _ conveyed => ?_⟩
      cases conveyed
      rfl
  | cons subject rest ih =>
      rw [List.forall_mem_cons] at each
      rcases each.1 with ⟨tree, written, self, back⟩
      rcases ih each.2 with ⟨trees, restWritten, restSelf, restBack⟩
      refine ⟨tree :: trees, ?_, ?_, fun room items fits conveyed => ?_⟩
      · rw [List.mapM_cons, written, restWritten]
        rfl
      · exact Bool.and_eq_true_iff.mpr ⟨self, restSelf⟩
      · cases conveyed with
        | cons first others =>
            rw [List.forall_mem_cons] at fits
            rw [List.mapM_cons, back room _ fits.1 first, restBack room _ fits.2 others]
            rfl

namespace FieldDecl

/-- The entries of a mapping convey the members of a tree, and what the tree does not have is missing in them. -/
def HaveMembers (entries : List (Data × Data)) (trees : List (String × Data)) : Prop :=
  ∀ (name : String) (default : Data), (trees.lookup name = none → memberOf entries name default = default) ∧
    ∀ tree, trees.lookup name = some tree → (memberOf entries name default).conveys tree = true

theorem haveMembers_of_conveyed {members trees : List (String × Data)}
    (conveyed : List.Forall₂ (fun member tree => member.1 = tree.1 ∧ member.2.conveys tree.2 = true) members trees) :
    HaveMembers (Table.textual members) trees := by
  intro name default
  rcases Data.lookup_of_conveyed conveyed name with ⟨absent, there⟩
  unfold memberOf
  rw [Table.get?_textual]
  refine ⟨fun missing => by rw [absent missing, Option.getD_none], fun tree found => ?_⟩
  rcases there tree found with ⟨value, isValue, valueConveys⟩
  rw [isValue, Option.getD_some]
  exact valueConveys

theorem exists_haveMembers {value : Data} {trees : List (String × Data)}
    (conveyed : value.conveys (.object trees) = true) :
    ∃ entries, value.bare = .map entries ∧ HaveMembers entries trees := by
  rcases Data.conveys_object.mp conveyed with ⟨members, isObject, each⟩
  exact ⟨_, isObject, haveMembers_of_conveyed each⟩

theorem lookup_given_of_ne {name other : String} (isOther : other ≠ name) (value : Data) :
    (given name value).lookup other = none := by
  cases value <;> simp [given, List.lookup_cons, beq_eq_false_iff_ne.mpr isOther]

theorem lookup_flag_of_ne {name other : String} (isOther : other ≠ name) (value : Data) :
    (flag name value).lookup other = none := by
  unfold flag
  split <;> simp [List.lookup_cons, beq_eq_false_iff_ne.mpr isOther]

namespace HaveMembers

variable {entries : List (Data × Data)} {trees : List (String × Data)} (have_ : HaveMembers entries trees)
  {name : String}
include have_

theorem text {word : String} (there : trees.lookup name = some (.text word)) (default : Data) :
    memberOf entries name default = .text word :=
  Data.eq_of_conveys_text ((have_ name default).2 _ there)

/-- A member that is a text or not given is the one that was written. -/
theorem given {value : Data} (isText : value = .null ∨ ∃ word, value = .text word)
    (there : trees.lookup name = (FieldDecl.given name value).lookup name) : memberOf entries name .null = value := by
  rcases isText with rfl | ⟨word, rfl⟩
  · exact (have_ name .null).1 there
  · refine have_.text ?_ .null
    rw [there]
    exact List.lookup_cons_self

/-- A flag is the one that was written, also if it was left out. -/
theorem flag {value : Bool} (there : trees.lookup name = (FieldDecl.flag name (.bool value)).lookup name) :
    memberOf entries name (.bool false) = .bool value := by
  cases value with
  | false => exact (have_ name _).1 there
  | true =>
      refine Data.eq_of_conveys_bool ((have_ name _).2 _ ?_)
      rw [there]
      exact List.lookup_cons_self

theorem list {parts : List Data} (there : trees.lookup name = some (.list parts)) (default : Data) :
    ∃ items, (memberOf entries name default).bare = .list items ∧
      List.Forall₂ (fun item tree => item.conveys tree = true) items parts :=
  Data.conveys_list.mp ((have_ name default).2 _ there)

end HaveMembers

theorem given_conveys_self {value : Data} (isText : value = .null ∨ ∃ word, value = .text word) (name : String) :
    ∀ entry ∈ given name value, entry.2.conveys entry.2 = true := by
  rcases isText with rfl | ⟨word, rfl⟩
  · exact List.forall_mem_nil _
  · exact List.forall_mem_singleton.mpr (beq_self_eq_true word)

theorem flag_conveys_self (name : String) (value : Data) :
    ∀ entry ∈ flag name value, entry.2.conveys entry.2 = true := by
  unfold flag
  split
  · exact List.forall_mem_singleton.mpr rfl
  · exact List.forall_mem_nil _

theorem items_of_list {value : Data} {items : List Data} (isList : value.bare = .list items) :
    value.items = .ok items := by
  rw [Data.items, isList]
  rfl

section Read

variable {room : Nat} {value : Data} {entries : List (Data × Data)} (isMap : value.bare = .map entries)
include isMap

/-- An entry without inline fields gives its members. -/
theorem read_plain
    (isText : memberOf entries "struct" .null = .null ∨ ∃ word, memberOf entries "struct" .null = .text word) :
    read (room + 1) value = .ok (.plain (memberOf entries "name" (.text "")) (memberOf entries "type" .null)
      (memberOf entries "struct" .null) (memberOf entries "optional" (.bool false))) := by
  rw [read, isMap]
  dsimp only
  rcases isText with isNull | ⟨word, isWord⟩
  · rw [isNull]
    rfl
  · rw [isWord]
    rfl

/-- An entry with inline fields gives these and its other members. -/
theorem read_inline {members : List (Data × Data)} {items : List Data} {fields : List FieldDecl}
    (isStruct : (memberOf entries "struct" .null).bare = .map members)
    (areItems : (memberOf members "fields" (.list [])).bare = .list items)
    (areFields : items.mapM (read room) = .ok fields) :
    read (room + 1) value = .ok (.inline (memberOf entries "name" (.text "")) (memberOf entries "type" .null)
      (memberOf entries "optional" (.bool false)) fields) := by
  rw [read, isMap]
  dsimp only
  rw [isStruct]
  dsimp only
  rw [items_of_list areItems]
  dsimp only
  rw [areFields]
  rfl

end Read

mutual

/-- A typed field comes back. -/
theorem comesBack : ∀ field : FieldDecl, field.IsTyped → ComesBack toData read levels field
  | .plain name type struct optional, isTyped => by
      obtain ⟨⟨word, rfl⟩, isType, isStruct, ⟨flag, rfl⟩⟩ := isTyped
      refine ⟨.object ([("name", .text word)] ++ given "type" type ++ given "struct" struct ++
        FieldDecl.flag "optional" (.bool flag)), ?_, ?_, fun room value fits conveyed => ?_⟩
      · rcases isStruct with rfl | ⟨struct, rfl⟩
        · rfl
        · rfl
      · refine Data.object_conveys_self (List.forall_mem_append.mpr ⟨?_, flag_conveys_self _ _⟩)
        refine List.forall_mem_append.mpr ⟨?_, given_conveys_self isStruct _⟩
        exact List.forall_mem_append.mpr
          ⟨List.forall_mem_singleton.mpr (beq_self_eq_true word), given_conveys_self isType _⟩
      · rcases exists_haveMembers conveyed with ⟨entries, isMap, have_⟩
        obtain ⟨room, rfl⟩ : ∃ below, room = below + 1 := Nat.exists_eq_add_of_le' fits
        -- a member that was left out is read as what it was left out for
        have ofStruct : memberOf entries "struct" .null = struct := have_.given isStruct (by
          simp [List.lookup_append, List.lookup_cons, lookup_given_of_ne, lookup_flag_of_ne])
        have ofType : memberOf entries "type" .null = type := have_.given isType (by
          simp [List.lookup_append, List.lookup_cons, lookup_given_of_ne, lookup_flag_of_ne])
        have ofFlag : memberOf entries "optional" (.bool false) = .bool flag := have_.flag (by
          simp [List.lookup_append, List.lookup_cons, lookup_given_of_ne])
        rw [read_plain isMap (by rwa [ofStruct]), have_.text rfl, ofType, ofStruct, ofFlag]
  | .inline name type optional fields, isTyped => by
      obtain ⟨⟨word, rfl⟩, isType, ⟨flag, rfl⟩, areTyped⟩ := isTyped
      rcases exists_mapM_comesBack (allComeBack fields areTyped) with ⟨trees, written, self, back⟩
      refine ⟨.object ([("name", .text word)] ++ given "type" type ++ [("struct", .object [("fields", .list trees)])] ++
        FieldDecl.flag "optional" (.bool flag)), ?_, ?_, fun room value fits conveyed => ?_⟩
      · rw [toData, toDataList_eq_mapM, written]
        rfl
      · refine Data.object_conveys_self (List.forall_mem_append.mpr ⟨?_, flag_conveys_self _ _⟩)
        refine List.forall_mem_append.mpr ⟨?_, List.forall_mem_singleton.mpr ?_⟩
        · exact List.forall_mem_append.mpr
            ⟨List.forall_mem_singleton.mpr (beq_self_eq_true word), given_conveys_self isType _⟩
        · exact Data.object_conveys_self (List.forall_mem_singleton.mpr self)
      · rcases exists_haveMembers conveyed with ⟨entries, isMap, have_⟩
        obtain ⟨room, rfl⟩ : ∃ below, room = below + 1 := Nat.exists_eq_add_of_le' ((Nat.le_add_left 1 _).trans fits)
        have ofType : memberOf entries "type" .null = type := have_.given isType (by
          simp [List.lookup_append, List.lookup_cons, lookup_flag_of_ne])
        have ofFlag : memberOf entries "optional" (.bool false) = .bool flag := have_.flag (by
          simp [List.lookup_append, List.lookup_cons, lookup_given_of_ne])
        have ofStruct := (have_ "struct" .null).2 (.object [("fields", .list trees)]) (by
          simp [List.lookup_append, List.lookup_cons, lookup_given_of_ne])
        rcases exists_haveMembers ofStruct with ⟨members, isStruct, haveInner⟩
        rcases haveInner.list List.lookup_cons_self (.list []) with ⟨items, areItems, itemsConveyed⟩
        have areFields := back room items (mostLevelsOf_le_iff.mp (Nat.le_of_succ_le_succ fits)) itemsConveyed
        rw [read_inline isMap isStruct areItems areFields, have_.text rfl, ofType, ofFlag]

theorem allComeBack : ∀ fields : List FieldDecl, AreTyped fields → ∀ field ∈ fields, ComesBack toData read levels field
  | [], _ => List.forall_mem_nil _
  | field :: rest, areTyped => List.forall_mem_cons.mpr ⟨comesBack field areTyped.1, allComeBack rest areTyped.2⟩

end

/-- The fields of a list of typed ones are written together, and read back from the items of a list. -/
theorem exists_list {fields : List FieldDecl} (areTyped : ∀ field ∈ fields, field.IsTyped) :
    ∃ trees, toDataList fields = .ok trees ∧ (Data.list trees).conveys (.list trees) = true ∧
      ∀ (room : Nat) (value : Data), mostLevelsOf fields ≤ room → value.conveys (.list trees) = true →
        readList room value = .ok fields := by
  rcases exists_mapM_comesBack (allComeBack fields (areTyped_iff.mpr areTyped)) with ⟨trees, written, self, back⟩
  refine ⟨trees, by rw [toDataList_eq_mapM, written], self, fun room value fits conveyed => ?_⟩
  rcases Data.conveys_list.mp conveyed with ⟨items, areItems, itemsConveyed⟩
  rw [readList, items_of_list areItems]
  exact back room items (mostLevelsOf_le_iff.mp fits) itemsConveyed

end FieldDecl

namespace Document

open FieldDecl (readList mostLevelsOf HaveMembers exists_haveMembers memberOf)

section Declarations

theorem entryMember_eq {entry : Data} {entries : List (Data × Data)} (isMap : entry.bare = .map entries)
    (name : String) (default : Data) : entryMember entry name default = .ok (memberOf entries name default) := by
  rw [entryMember, Data.memberOr, isMap]
  rfl

theorem comesBack_schema {schema : SchemaDecl} (isName : ∃ text, schema.name = .text text)
    (isFlag : ∃ flag, schema.compact = .bool flag) (areTyped : ∀ field ∈ schema.fields, field.IsTyped) :
    ComesBack SchemaDecl.toData readSchema (fun schema => mostLevelsOf schema.fields) schema := by
  rcases schema with ⟨name, fields, compact⟩
  obtain ⟨word, rfl⟩ := isName
  obtain ⟨flag, rfl⟩ := isFlag
  rcases FieldDecl.exists_list areTyped with ⟨trees, written, self, back⟩
  refine ⟨.object ([("name", .text word), ("fields", .list trees)] ++ FieldDecl.flag "compact" (.bool flag)), ?_, ?_,
    fun room value fits conveyed => ?_⟩
  · rw [SchemaDecl.toData, written]
    rfl
  · refine Data.object_conveys_self (List.forall_mem_append.mpr ⟨?_, FieldDecl.flag_conveys_self _ _⟩)
    exact List.forall_mem_cons.mpr ⟨beq_self_eq_true word, List.forall_mem_singleton.mpr self⟩
  · rcases exists_haveMembers conveyed with ⟨entries, isMap, have_⟩
    have ofFields := back room _ fits ((have_ "fields" (.list [])).2 _ rfl)
    have ofFlag : memberOf entries "compact" (.bool false) = .bool flag := have_.flag rfl
    rw [readSchema, entryMember_eq isMap, entryMember_eq isMap, entryMember_eq isMap, have_.text rfl, ofFlag]
    change (do let fields ← readList room _; pure (⟨.text word, fields, .bool flag⟩ : SchemaDecl)) = _
    rw [ofFields]
    rfl

theorem comesBack_collection {collection : CollectionDecl} (isName : ∃ text, collection.name = .text text)
    (areKeys : ∀ name ∈ collection.key, ∃ text, name = .text text)
    (areTyped : ∀ field ∈ collection.fields, field.IsTyped) :
    ComesBack CollectionDecl.toData readCollection (fun collection => mostLevelsOf collection.fields)
      collection := by
  rcases collection with ⟨name, key, fields⟩
  obtain ⟨word, rfl⟩ := isName
  rcases FieldDecl.exists_list areTyped with ⟨trees, written, self, back⟩
  refine ⟨.object [("name", .text word), ("key", .list key), ("fields", .list trees)], ?_, ?_,
    fun room value fits conveyed => ?_⟩
  · rw [CollectionDecl.toData, written]
    rfl
  · refine Data.object_conveys_self (List.forall_mem_cons.mpr ⟨beq_self_eq_true word, ?_⟩)
    refine List.forall_mem_cons.mpr ⟨Data.conveys_list.mpr ⟨key, rfl, List.forall₂_same.mpr fun name nameMem => ?_⟩,
      List.forall_mem_singleton.mpr self⟩
    rcases areKeys name nameMem with ⟨text, rfl⟩
    exact beq_self_eq_true text
  · rcases exists_haveMembers conveyed with ⟨entries, isMap, have_⟩
    have ofFields := back room _ fits ((have_ "fields" (.list [])).2 _ rfl)
    have ofKey : (memberOf entries "key" (.list [])).conveys (.list key) = true := (have_ "key" (.list [])).2 _ rfl
    rcases Data.conveys_list.mp ofKey with ⟨names, isKey, namesConveyed⟩
    rw [Data.eq_of_conveyed_texts areKeys namesConveyed] at isKey
    have ofName : memberOf entries "name" (.text "") = .text word := have_.text rfl _
    rw [readCollection, entryMember_eq isMap, entryMember_eq isMap, entryMember_eq isMap, ofName]
    change (do let fields ← readList room _; pure (⟨.text word, readKey _, fields⟩ : CollectionDecl)) = _
    rw [ofFields, readKey, isKey]
    rfl

/-- A dispatch that gives fields has the fields that are read from them. -/
theorem readDispatch_of_fields {entry : Data} {entries : List (Data × Data)} {room : Nat}
    {fields : List FieldDecl} (isMap : entry.bare = .map entries) (given : memberOf entries "fields" .null ≠ .null)
    (ofFields : readList room (memberOf entries "fields" .null) = .ok fields) :
    readDispatch room entry =
      .ok ⟨memberOf entries "name" (.text ""), memberOf entries "request" .null, some fields⟩ := by
  rw [readDispatch, entryMember_eq isMap, entryMember_eq isMap, entryMember_eq isMap]
  -- as the entry of the fields is not null, the match goes on to read them
  simp only [bind, Except.bind, ofFields]
  rfl

theorem comesBack_dispatch {dispatch : DispatchDecl} (isName : ∃ text, dispatch.name = .text text)
    (isRequest : dispatch.request = .null ∨ ∃ text, dispatch.request = .text text)
    (areTyped : ∀ field ∈ dispatch.fields.getD [], field.IsTyped) :
    ComesBack DispatchDecl.toData readDispatch (fun dispatch => mostLevelsOf (dispatch.fields.getD []))
      dispatch := by
  rcases dispatch with ⟨name, request, given⟩
  dsimp only at isName isRequest areTyped
  obtain ⟨word, rfl⟩ := isName
  have isWord : ∀ entry ∈ [("name", Data.text word)], entry.2.conveys entry.2 = true :=
    List.forall_mem_singleton.mpr (beq_self_eq_true word)
  have first := FieldDecl.given_conveys_self isRequest "request"
  cases given with
  | none =>
      refine ⟨.object ([("name", .text word)] ++ FieldDecl.given "request" request ++ []), rfl, ?_,
        fun room value fits conveyed => ?_⟩
      · rw [List.append_nil]
        exact Data.object_conveys_self (List.forall_mem_append.mpr ⟨isWord, first⟩)
      · rcases exists_haveMembers conveyed with ⟨entries, isMap, have_⟩
        have ofRequest : memberOf entries "request" .null = request := have_.given isRequest (by
          simp [List.lookup_cons])
        have ofFields : memberOf entries "fields" .null = .null := (have_ "fields" .null).1 (by
          simp [List.lookup_cons, FieldDecl.lookup_given_of_ne])
        rw [readDispatch, entryMember_eq isMap, entryMember_eq isMap, entryMember_eq isMap, have_.text rfl,
          ofRequest, ofFields]
        rfl
  | some fields =>
      rw [Option.getD_some] at areTyped
      rcases FieldDecl.exists_list areTyped with ⟨trees, written, self, back⟩
      refine ⟨.object ([("name", .text word)] ++ FieldDecl.given "request" request ++ [("fields", .list trees)]), ?_,
        ?_, fun room value fits conveyed => ?_⟩
      · rw [DispatchDecl.toData]
        dsimp only
        rw [written]
        rfl
      · exact Data.object_conveys_self (List.forall_mem_append.mpr
          ⟨List.forall_mem_append.mpr ⟨isWord, first⟩, List.forall_mem_singleton.mpr self⟩)
      · rcases exists_haveMembers conveyed with ⟨entries, isMap, have_⟩
        have ofRequest : memberOf entries "request" .null = request := have_.given isRequest (by
          simp [List.lookup_append, List.lookup_cons])
        have isFields : (memberOf entries "fields" .null).conveys (.list trees) = true :=
          (have_ "fields" .null).2 _ (by
            simp [List.lookup_append, List.lookup_cons, FieldDecl.lookup_given_of_ne])
        have ofFields := back room _ fits isFields
        have notNull : memberOf entries "fields" .null ≠ .null := by
          intro isNull
          rw [isNull] at isFields
          cases isFields
        rw [readDispatch_of_fields isMap notNull ofFields, have_.text rfl, ofRequest]

end Declarations

/-- The fields of all declarations. -/
def fields (document : Document) : List FieldDecl :=
  document.schemas.flatMap SchemaDecl.fields ++ document.collections.flatMap CollectionDecl.fields ++
    document.dispatches.flatMap fun dispatch => dispatch.fields.getD []

/-- The levels of the fields of a document inside one another. -/
def levels (document : Document) : Nat := mostLevelsOf document.fields

/-- A document with texts for names, types, references, requests and keys, where these are given, and truth values for
flags. -/
structure IsTyped (document : Document) : Prop where
  /-- The schemas have texts for names. -/
  schemaNames : ∀ schema ∈ document.schemas, ∃ text, schema.name = .text text
  /-- The flags of the schemas are truth values. -/
  compact : ∀ schema ∈ document.schemas, ∃ flag, schema.compact = .bool flag
  /-- The collections have texts for names. -/
  collectionNames : ∀ collection ∈ document.collections, ∃ text, collection.name = .text text
  /-- The keys are texts. -/
  keys : ∀ collection ∈ document.collections, ∀ name ∈ collection.key, ∃ text, name = .text text
  /-- The dispatches have texts for names. -/
  dispatchNames : ∀ dispatch ∈ document.dispatches, ∃ text, dispatch.name = .text text
  /-- The requests are texts, where they are given. -/
  requests : ∀ dispatch ∈ document.dispatches, dispatch.request = .null ∨ ∃ text, dispatch.request = .text text
  /-- The fields are typed at every depth. -/
  fields : ∀ field ∈ document.fields, field.IsTyped

section Sections

theorem mem_fields {document : Document} {field : FieldDecl} :
    field ∈ document.fields ↔ (∃ schema ∈ document.schemas, field ∈ schema.fields) ∨
      (∃ collection ∈ document.collections, field ∈ collection.fields) ∨
        ∃ dispatch ∈ document.dispatches, field ∈ dispatch.fields.getD [] := by
  rw [fields, List.mem_append, List.mem_append, List.mem_flatMap, List.mem_flatMap, List.mem_flatMap, or_assoc]

/-- The entries of a section that was written are those that convey it, also if there are none. -/
theorem exists_sectionEntries {entries : List (Data × Data)} {trees : List (String × Data)}
    (have_ : HaveMembers entries trees) (name : String) {parts : List Data}
    (there : trees.lookup name = some (.list parts)) :
    ∃ items, sectionEntries entries name = .ok items ∧
      List.Forall₂ (fun item tree => item.conveys tree = true) items parts := by
  rcases have_.list there .null with ⟨items, isList, conveyed⟩
  refine ⟨items, ?_, conveyed⟩
  rw [sectionEntries, FieldDecl.items_of_list isList, Data.isTruthy, isList]
  cases items with
  | nil => rfl
  | cons item items => rfl

/-- A mapping with the sections of a document alone has no other sections. -/
theorem unknownSections_eq {members : List (String × Data)} (areSections : members.map Prod.fst = sections) :
    unknownSections (Table.textual members) = .ok [] := by
  have keys : (Table.textual members).map Prod.fst = sections.map Data.text := by
    rw [← areSections, Table.textual, List.map_map, List.map_map]
    rfl
  have allKnown :
      (sections.map Data.text).filter (fun key => !sections.any fun name => key.same (.text name)) = [] := by
    simp [sections, Data.same_text]
  rw [unknownSections, keys, allKnown]
  rfl

end Sections

/-- A typed document comes back. -/
theorem comesBack {document : Document} (isTyped : document.IsTyped) :
    ComesBack toData ofDataWithin levels document := by
  have ofSchemas := exists_mapM_comesBack fun schema schemaMem =>
    comesBack_schema (isTyped.schemaNames schema schemaMem) (isTyped.compact schema schemaMem) fun field fieldMem =>
      isTyped.fields field (mem_fields.mpr (Or.inl ⟨schema, schemaMem, fieldMem⟩))
  have ofCollections := exists_mapM_comesBack fun collection collectionMem =>
    comesBack_collection (isTyped.collectionNames collection collectionMem) (isTyped.keys collection collectionMem)
      fun field fieldMem =>
        isTyped.fields field (mem_fields.mpr (Or.inr (Or.inl ⟨collection, collectionMem, fieldMem⟩)))
  have ofDispatches := exists_mapM_comesBack fun dispatch dispatchMem =>
    comesBack_dispatch (isTyped.dispatchNames dispatch dispatchMem) (isTyped.requests dispatch dispatchMem)
      fun field fieldMem => isTyped.fields field (mem_fields.mpr (Or.inr (Or.inr ⟨dispatch, dispatchMem, fieldMem⟩)))
  rcases ofSchemas with ⟨schemas, schemasWritten, schemasSelf, schemasBack⟩
  rcases ofCollections with ⟨collections, collectionsWritten, collectionsSelf, collectionsBack⟩
  rcases ofDispatches with ⟨dispatches, dispatchesWritten, dispatchesSelf, dispatchesBack⟩
  refine ⟨.object [("schemas", .list schemas), ("collections", .list collections), ("dispatches", .list dispatches)],
    ?_, ?_, fun room value fits conveyed => ?_⟩
  · rw [toData, schemasWritten, collectionsWritten, dispatchesWritten]
    rfl
  · refine Data.object_conveys_self (List.forall_mem_cons.mpr ⟨schemasSelf, ?_⟩)
    exact List.forall_mem_cons.mpr ⟨collectionsSelf, List.forall_mem_singleton.mpr dispatchesSelf⟩
  · have fitsAll := FieldDecl.mostLevelsOf_le_iff.mp fits
    rcases Data.conveys_object.mp conveyed with ⟨members, isObject, each⟩
    have have_ := FieldDecl.haveMembers_of_conveyed each
    have isMap : value.bare = .map (Table.textual members) := isObject
    have areSections : members.map Prod.fst = sections := by
      have names := List.forall₂_map_left_iff.mpr (List.forall₂_map_right_iff.mpr (each.imp fun _ _ both => both.1))
      exact List.forall₂_eq_eq_eq ▸ names
    rcases exists_sectionEntries have_ "schemas" rfl with ⟨schemaItems, areSchemas, schemasConveyed⟩
    rcases exists_sectionEntries have_ "collections" rfl with ⟨collectionItems, areCollections, collectionsConveyed⟩
    rcases exists_sectionEntries have_ "dispatches" rfl with ⟨dispatchItems, areDispatches, dispatchesConveyed⟩
    have schemasRead := schemasBack room schemaItems (fun schema schemaMem =>
      FieldDecl.mostLevelsOf_le_iff.mpr fun field fieldMem =>
        fitsAll field (mem_fields.mpr (Or.inl ⟨schema, schemaMem, fieldMem⟩))) schemasConveyed
    have collectionsRead := collectionsBack room collectionItems (fun collection collectionMem =>
      FieldDecl.mostLevelsOf_le_iff.mpr fun field fieldMem =>
        fitsAll field (mem_fields.mpr (Or.inr (Or.inl ⟨collection, collectionMem, fieldMem⟩)))) collectionsConveyed
    have dispatchesRead := dispatchesBack room dispatchItems (fun dispatch dispatchMem =>
      FieldDecl.mostLevelsOf_le_iff.mpr fun field fieldMem =>
        fitsAll field (mem_fields.mpr (Or.inr (Or.inr ⟨dispatch, dispatchMem, fieldMem⟩)))) dispatchesConveyed
    rw [ofDataWithin, isMap]
    dsimp only
    rw [unknownSections_eq areSections, areSchemas, areCollections, areDispatches]
    change (do
      let schemas ← schemaItems.mapM (readSchema room)
      let collections ← collectionItems.mapM (readCollection room)
      let dispatches ← dispatchItems.mapM (readDispatch room)
      return (⟨schemas, collections, dispatches⟩ : Document)) = _
    rw [schemasRead, collectionsRead, dispatchesRead]
    rfl

end Document

/-- A tree has a JSON text, which is read as a value that conveys the tree. -/
def Json.readsBack (layout : Layout) (tree : Data) : Bool :=
  match write layout tree with
  | .ok text => (read text).toOption.any (·.conveys tree)
  | .error _ => false

/-- A tree that JSON has a form for is read back if it is the same with the halves of pairs in its texts joined. -/
theorem Json.readsBack_of_hasForm {layout : Layout} (regular : layout.IsRegular) {tree : Data}
    (form : hasForm mostLevels tree = true) (conveyed : (reread layout tree).conveys tree = true) :
    readsBack layout tree = true := by
  rcases write_read regular (isTree_of_hasForm form) (Nat.le_refl mostLevels) with ⟨text, isText, _, isRead⟩
  have isValue := isRead "" (List.forall_mem_nil _)
  rw [String.append_empty] at isValue
  rw [readsBack, isText]
  dsimp only
  rw [isValue]
  exact conveyed

/-- A tree has a YAML text, which is read as a value that conveys the tree. -/
def Yaml.readsBack (reading : Nat) (tree : Data) : Bool :=
  match write tree with
  | .ok text => (read reading text).toOption.any (·.conveys tree)
  | .error _ => false

namespace Document

section Texts

variable {document : Document} {tree : Data} {room : Nat}

/-- A document comes back from JSON if its plain data does. -/
theorem exists_json (written : document.toData = .ok tree)
    (back : ∀ value, value.conveys tree = true → ofDataWithin room value = .ok document)
    (readsBack : Json.readsBack (.lines 2) tree = true) :
    ∃ text, document.toJson = .ok text ∧ ofJsonWithin room text = .ok document := by
  unfold Json.readsBack at readsBack
  split at readsBack
  next text isText =>
    rcases (Option.any_eq_true _ _).mp readsBack with ⟨value, isValue, conveyed⟩
    refine ⟨text, ?_, ?_⟩
    · rw [toJson, written]
      change writeJson (.lines 2) tree = _
      rw [writeJson, isText]
      rfl
    · rw [ofJsonWithin, eq_ok_of_toOption isValue]
      exact back value conveyed
  · cases readsBack

/-- A document comes back from YAML if its plain data does. -/
theorem exists_yaml {reading : Nat} (written : document.toData = .ok tree)
    (back : ∀ value, value.conveys tree = true → ofDataWithin room value = .ok document)
    (readsBack : Yaml.readsBack reading tree = true) :
    ∃ text, document.toYaml = .ok text ∧ ofYamlWithin room reading text = .ok document := by
  unfold Yaml.readsBack at readsBack
  split at readsBack
  next text isText =>
    rcases (Option.any_eq_true _ _).mp readsBack with ⟨value, isValue, conveyed⟩
    refine ⟨text, ?_, ?_⟩
    · rw [toYaml, written]
      change (match Yaml.write tree with
        | .ok text => (pure text : Except Error String)
        | .error fault => throw (Error.fault fault)) = _
      rw [isText]
      rfl
    · rw [ofYamlWithin, eq_ok_of_toOption isValue]
      exact back value conveyed
  · cases readsBack

end Texts

/-- A document with texts for names and truth values for flags, with inline fields of any depth, comes back from its
plain data, and from JSON and YAML if these bring its plain data back. Room for the levels of its fields is all that
is needed, and documents are read with room for the greatest depth. -/
theorem documents_come_back {document : Document} (isTyped : document.IsTyped) :
    (∃ tree, document.toData = .ok tree ∧ ∀ room, document.levels ≤ room →
      ofDataWithin room tree = .ok document ∧
      (Json.readsBack (.lines 2) tree = true →
        ∃ text, document.toJson = .ok text ∧ ofJsonWithin room text = .ok document) ∧
      ∀ reading, Yaml.readsBack reading tree = true →
        ∃ text, document.toYaml = .ok text ∧ ofYamlWithin room reading text = .ok document) ∧
    ofDataWithin FieldDecl.mostLevels = ofData ∧ ofJsonWithin FieldDecl.mostLevels = ofJson ∧
      ofYamlWithin FieldDecl.mostLevels = ofYaml := by
  rcases comesBack isTyped with ⟨tree, written, self, back⟩
  refine ⟨⟨tree, written, fun room fits => ?_⟩, rfl, rfl, rfl⟩
  have backHere (value : Data) := back room value fits
  exact ⟨backHere tree self, exists_json written backHere, fun _ => exists_yaml written backHere⟩

/-- A document with an inline field, a flag of each kind, and a dispatch without fields. -/
def nested : Document where
  schemas := [⟨.text "a", [.inline (.text "n") .null (.bool true)
    [.plain (.text "y") .null (.text "a") (.bool false)]], .bool true⟩]
  collections := []
  dispatches := [⟨.text "d", .null, some []⟩]

theorem documents_come_back_nested :
    (∃ tree, nested.toData = .ok tree ∧ ofData tree = .ok nested) ∧
      (∃ text, nested.toJson = .ok text ∧ ofJson text = .ok nested) ∧
      ∃ text, nested.toYaml = .ok text ∧ ofYaml 0 text = .ok nested := by
  have isTyped : nested.IsTyped := by
    constructor
    all_goals simp [nested, fields, FieldDecl.IsTyped, FieldDecl.AreTyped]
  have fits : nested.levels ≤ FieldDecl.mostLevels := by decide
  rcases (documents_come_back isTyped).1 with ⟨tree, written, back⟩
  rcases back FieldDecl.mostLevels fits with ⟨ofTree, ofText, ofYamlText⟩
  have ofLibraries : nested.toData.toOption.any (fun tree => Json.hasForm Json.mostLevels tree &&
      (Json.reread (.lines 2) tree).conveys tree && Yaml.readsBack 0 tree) = true := by decide +kernel
  rw [written] at ofLibraries
  have all := Bool.and_eq_true_iff.mp ofLibraries
  have settled := Bool.and_eq_true_iff.mp all.1
  have readsBack := Json.readsBack_of_hasForm (Json.isRegular_lines 2) settled.1 settled.2
  exact ⟨⟨tree, written, ofTree⟩, ofText readsBack, ofYamlText 0 all.2⟩

end Document

end SpecGraph
