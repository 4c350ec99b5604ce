import SpecGraph.Proofs.Document.Reported

/-!
# Admitted documents

A document has no problems exactly if its names are names, its types are primitive types and each of its fields and
dispatches gives one of its alternatives. What it gives for the flags of its fields and schemas is not looked at, so a
document without problems is well-typed exactly if these are truth values.
-/

namespace SpecGraph

/-- A value is a truth value. -/
def Data.IsFlag (value : Data) : Prop := ∃ flag, value = .bool flag

/-- A value is the tag of a primitive type. -/
def Data.IsTag (value : Data) : Prop := ∃ tag, value = .text tag ∧ FieldTag.isTag tag = true

namespace FieldDecl

mutual

/-- A field has a name, gives either a primitive type, or the name of a schema, or well-typed fields, and has a truth
value for its flag. -/
def IsWellTyped : FieldDecl → Prop
  | .plain name type struct optional =>
      (name.IsFieldName ∧ ((type.IsTag ∧ struct.bare = .null) ∨ (type = .null ∧ struct.IsName))) ∧ optional.IsFlag
  | .inline name type optional fields =>
      (name.IsFieldName ∧ type = .null) ∧ AreWellTyped fields ∧ optional.IsFlag

/-- Fields are well-typed, and no two of them have one name. -/
def AreWellTyped : List FieldDecl → Prop
  | [] => True
  | field :: rest => field.IsWellTyped ∧ (∀ other ∈ rest, other.name ≠ field.name) ∧ AreWellTyped rest

end

mutual

/-- The flags of a field and of the fields inside it are truth values. -/
def HasFlags : FieldDecl → Prop
  | .plain _ _ _ optional => optional.IsFlag
  | .inline _ _ optional fields => HaveFlags fields ∧ optional.IsFlag

def HaveFlags : List FieldDecl → Prop
  | [] => True
  | field :: rest => field.HasFlags ∧ HaveFlags rest

end

mutual

/-- A field with other flags, also inside it. -/
def withFlags (change : Data → Data) : FieldDecl → FieldDecl
  | .plain name type struct optional => .plain name type struct (change optional)
  | .inline name type optional fields => .inline name type (change optional) (allWithFlags change fields)

def allWithFlags (change : Data → Data) : List FieldDecl → List FieldDecl
  | [] => []
  | field :: rest => field.withFlags change :: allWithFlags change rest

end

@[simp]
theorem name_withFlags (change : Data → Data) (field : FieldDecl) : (field.withFlags change).name = field.name := by
  cases field
  · rfl
  · rfl

mutual

/-- A field with other flags was read if it was. -/
theorem isRead_withFlags (change : Data → Data) : ∀ field : FieldDecl, field.IsRead → (field.withFlags change).IsRead
  | .plain .., isRead => isRead
  | .inline _ _ _ fields, areRead => areRead_withFlags change fields areRead

theorem areRead_withFlags (change : Data → Data) : ∀ fields : List FieldDecl,
    AreRead fields → AreRead (allWithFlags change fields)
  | [], _ => trivial
  | field :: rest, ⟨isRead, areRead⟩ => ⟨isRead_withFlags change field isRead, areRead_withFlags change rest areRead⟩

end

mutual

/-- Where all flags are made truth values, the flags are truth values. -/
theorem hasFlags_withFlags {change : Data → Data} (areFlags : ∀ value, (change value).IsFlag) :
    ∀ field : FieldDecl, (field.withFlags change).HasFlags
  | .plain _ _ _ optional => areFlags optional
  | .inline _ _ optional fields => ⟨haveFlags_withFlags areFlags fields, areFlags optional⟩

theorem haveFlags_withFlags {change : Data → Data} (areFlags : ∀ value, (change value).IsFlag) :
    ∀ fields : List FieldDecl, HaveFlags (allWithFlags change fields)
  | [] => trivial
  | field :: rest => ⟨hasFlags_withFlags areFlags field, haveFlags_withFlags areFlags rest⟩

end

theorem IsWellTyped.isFieldName {field : FieldDecl} (wellTyped : field.IsWellTyped) : field.name.IsFieldName := by
  cases field
  · exact wellTyped.1.1
  · exact wellTyped.1.1

end FieldDecl

namespace Document

/-- A document with well-typed declarations. -/
structure IsWellTyped (document : Document) : Prop where
  /-- The schemas have names. -/
  schemaNames : ∀ schema ∈ document.schemas, schema.name.IsName
  /-- The fields of the schemas are well-typed. -/
  schemaFields : ∀ schema ∈ document.schemas, FieldDecl.AreWellTyped schema.fields
  /-- The flags of the schemas are truth values. -/
  compactFlags : ∀ schema ∈ document.schemas, schema.compact.IsFlag
  /-- The collections have names. -/
  collectionNames : ∀ collection ∈ document.collections, collection.name.IsName
  /-- The keys of the collections are texts. -/
  keys : ∀ collection ∈ document.collections, ∀ name ∈ collection.key, ∃ text, name = .text text
  /-- The fields of the collections are well-typed. -/
  collectionFields : ∀ collection ∈ document.collections, FieldDecl.AreWellTyped collection.fields
  /-- The dispatches have names. -/
  dispatchNames : ∀ dispatch ∈ document.dispatches, dispatch.name.IsName
  /-- The dispatches give one of their alternatives. -/
  requests : ∀ dispatch ∈ document.dispatches,
    (dispatch.request.IsName ∧ dispatch.fields = none) ∨ (dispatch.request = .null ∧ dispatch.fields.isSome = true)
  /-- The fields of the dispatches are well-typed. -/
  dispatchFields : ∀ dispatch ∈ document.dispatches, FieldDecl.AreWellTyped (dispatch.fields.getD [])

/-- The flags of a document are truth values, at any depth. -/
structure HasFlags (document : Document) : Prop where
  /-- Those of the schemas are. -/
  compact : ∀ schema ∈ document.schemas, schema.compact.IsFlag
  /-- Those of the fields of the schemas are. -/
  schemas : ∀ schema ∈ document.schemas, FieldDecl.HaveFlags schema.fields
  /-- Those of the fields of the collections are. -/
  collections : ∀ collection ∈ document.collections, FieldDecl.HaveFlags collection.fields
  /-- Those of the fields of the dispatches are. -/
  dispatches : ∀ dispatch ∈ document.dispatches, FieldDecl.HaveFlags (dispatch.fields.getD [])

/-- A document with other flags, at any depth. -/
def withFlags (change : Data → Data) (document : Document) : Document where
  schemas := document.schemas.map fun schema =>
    { schema with fields := FieldDecl.allWithFlags change schema.fields, compact := change schema.compact }
  collections := document.collections.map fun collection =>
    { collection with fields := FieldDecl.allWithFlags change collection.fields }
  dispatches := document.dispatches.map fun dispatch =>
    { dispatch with fields := dispatch.fields.map (FieldDecl.allWithFlags change) }

section Values

variable {place label : String}

theorem nameProblems_eq_nil_iff {value : Data} (place : String) : nameProblems value place = .ok [] ↔ value.IsName := by
  refine ⟨isName_of_nameProblems, ?_⟩
  rintro ⟨text, rfl, name, isRead⟩
  refine bind_eq_ok.mpr ⟨text, shown_eq_ok.mpr ⟨rfl, rfl⟩, ?_⟩
  dsimp only
  rw [isRead]
  rfl

theorem fieldNameProblems_eq_nil_iff {name : Data} : fieldNameProblems place label name = [] ↔ name.IsFieldName := by
  refine ⟨isFieldName_of_fieldNameProblems, ?_⟩
  rintro ⟨text, rfl, notEmpty⟩
  exact reportIf_eq_nil.mpr (beq_false_of_ne notEmpty)

theorem repeatProblems_eq_nil_iff {seen : List Data} (areNames : ∀ other ∈ seen, other.IsFieldName) {name : Data}
    (isFieldName : name.IsFieldName) : repeatProblems place seen name = [] ↔ ∀ other ∈ seen, name ≠ other := by
  refine ⟨ne_of_repeatProblems isFieldName, fun fresh => reportIf_eq_nil.mpr ?_⟩
  rcases isFieldName with ⟨text, rfl, _⟩
  rw [Data.isText, Bool.true_and, List.any_eq_false]
  intro other otherMem
  rcases areNames other otherMem with ⟨taken, rfl, _⟩
  rw [Data.same_text, beq_iff_eq]
  rintro rfl
  exact fresh _ otherMem rfl

theorem typeProblems_tag {type : Data} (isTag : type.IsTag) : typeProblems label type = .ok [] := by
  rcases isTag with ⟨tag, rfl, isTag⟩
  unfold typeProblems
  dsimp only
  rw [isTag]
  rfl

theorem structProblems_eq_nil {struct : Data} (absent : struct.bare = .null) :
    structProblems label struct = .ok [] := by
  unfold structProblems
  rw [absent]
  rfl

theorem structProblems_isName {struct : Data} (isName : struct.IsName) : structProblems label struct = .ok [] := by
  have noProblem := (nameProblems_eq_nil_iff (label ++ ": struct")).mpr isName
  rcases isName with ⟨text, rfl, _⟩
  exact noProblem

theorem fieldLabel_eq {name : Data} (isFieldName : name.IsFieldName) :
    fieldLabel place name = .ok (place ++ ": field " ++ Message.inQuotes name.display) := by
  rcases isFieldName with ⟨text, rfl, _⟩
  exact bind_eq_ok.mpr ⟨text, shown_eq_ok.mpr ⟨rfl, rfl⟩, rfl⟩

end Values

section Fields

variable {place : String} {name type optional : Data}

/-- A field without inline fields has no problems exactly if it has a name and gives one of its alternatives. -/
theorem plainProblems_eq_nil_iff {struct : Data} (isRead : struct.bare ≠ .list []) :
    fieldProblems place (.plain name type struct optional) = .ok [] ↔
      name.IsFieldName ∧ ((type.IsTag ∧ struct.bare = .null) ∨ (type = .null ∧ struct.IsName)) := by
  refine ⟨fun found => ?_, fun ⟨isFieldName, alternatives⟩ => ?_⟩
  · rcases bind_eq_ok.mp found with ⟨label, _, found⟩
    rcases bind_eq_ok.mp found with ⟨ofType, isType, found⟩
    rcases bind_eq_ok.mp found with ⟨ofStruct, isStruct, found⟩
    simp only [pure, Except.pure, Except.ok.injEq, List.append_eq_nil_iff] at found
    obtain ⟨⟨⟨ofName, alternative⟩, rfl⟩, rfl⟩ := found
    refine ⟨isFieldName_of_fieldNameProblems ofName, ?_⟩
    have one : isGiven type ≠ isGiven struct.bare := by simpa using reportIf_eq_nil.mp alternative
    cases given : isGiven struct.bare with
    | true =>
        rw [given] at one
        exact Or.inr ⟨eq_null_of_isGiven (Bool.not_eq_true _ ▸ one), isName_of_structProblems isStruct given isRead⟩
    | false =>
        rw [given] at one
        exact Or.inl ⟨isTag_of_typeProblems isType (Bool.not_eq_false _ ▸ one), eq_null_of_isGiven given⟩
  · refine bind_eq_ok.mpr ⟨_, fieldLabel_eq isFieldName, ?_⟩
    rcases alternatives with ⟨isTag, absent⟩ | ⟨rfl, isName⟩
    · refine bind_eq_ok.mpr ⟨_, typeProblems_tag isTag, bind_eq_ok.mpr ⟨_, structProblems_eq_nil absent, ?_⟩⟩
      rcases isTag with ⟨tag, rfl, _⟩
      rw [fieldNameProblems_eq_nil_iff.mpr isFieldName, absent]
      rfl
    · refine bind_eq_ok.mpr ⟨[], rfl, bind_eq_ok.mpr ⟨_, structProblems_isName isName, ?_⟩⟩
      rcases isName with ⟨text, rfl, _⟩
      rw [fieldNameProblems_eq_nil_iff.mpr isFieldName]
      rfl

/-- A field with inline fields has no problems exactly if it has a name and no type, and the fields have none. -/
theorem inlineProblems_eq_nil_iff {fields : List FieldDecl} :
    fieldProblems place (.inline name type optional fields) = .ok [] ↔
      (name.IsFieldName ∧ type = .null) ∧ fieldsProblems (place ++ "/" ++ name.display) [] fields = .ok [] := by
  refine ⟨fun found => ?_, fun ⟨⟨isFieldName, absent⟩, noProblem⟩ => ?_⟩
  · rcases bind_eq_ok.mp found with ⟨label, _, found⟩
    rcases bind_eq_ok.mp found with ⟨ofType, isType, found⟩
    rcases bind_eq_ok.mp found with ⟨text, isShown, found⟩
    rcases bind_eq_ok.mp found with ⟨inner, isInner, found⟩
    simp only [pure, Except.pure, Except.ok.injEq, List.append_eq_nil_iff] at found
    obtain ⟨⟨⟨ofName, alternative⟩, rfl⟩, rfl⟩ := found
    rw [(shown_eq_ok.mp isShown).2] at isInner
    have notGiven : isGiven type = false := by simpa using reportIf_eq_nil.mp alternative
    exact ⟨⟨isFieldName_of_fieldNameProblems ofName, eq_null_of_isGiven notGiven⟩, isInner⟩
  · subst absent
    refine bind_eq_ok.mpr ⟨_, fieldLabel_eq isFieldName, bind_eq_ok.mpr ⟨[], rfl, ?_⟩⟩
    have isShown : shown name = .ok name.display := by
      rcases isFieldName with ⟨text, rfl, _⟩
      exact shown_eq_ok.mpr ⟨rfl, rfl⟩
    refine bind_eq_ok.mpr ⟨_, isShown, bind_eq_ok.mpr ⟨_, noProblem, ?_⟩⟩
    rw [fieldNameProblems_eq_nil_iff.mpr isFieldName]
    rfl

theorem fieldsProblems_cons_eq_nil_iff {seen : List Data} {field : FieldDecl} {rest : List FieldDecl} :
    fieldsProblems place seen (field :: rest) = .ok [] ↔
      repeatProblems place seen field.name = [] ∧ fieldProblems place field = .ok [] ∧
        fieldsProblems place (field.name :: seen) rest = .ok [] := by
  refine ⟨fun found => ?_, fun ⟨isNew, ofField, ofRest⟩ => ?_⟩
  · rcases bind_eq_ok.mp found with ⟨ofField, isField, found⟩
    rcases bind_eq_ok.mp found with ⟨ofRest, isRest, found⟩
    simp only [pure, Except.pure, Except.ok.injEq, List.append_eq_nil_iff] at found
    obtain ⟨⟨isNew, rfl⟩, rfl⟩ := found
    exact ⟨isNew, isField, isRest⟩
  · refine bind_eq_ok.mpr ⟨_, ofField, bind_eq_ok.mpr ⟨_, ofRest, ?_⟩⟩
    rw [isNew]
    rfl

end Fields

mutual

/-- A field has no problems and truth values for its flags exactly if it is well-typed. -/
theorem isWellTyped_field_iff : ∀ (field : FieldDecl) (place : String), field.IsRead →
    (fieldProblems place field = .ok [] ∧ field.HasFlags ↔ field.IsWellTyped)
  | .plain name type struct optional, place, isRead => by
      rw [plainProblems_eq_nil_iff isRead]
      exact Iff.rfl
  | .inline name type optional fields, place, areRead => by
      have ofFields := areWellTyped_iff fields (place ++ "/" ++ name.display) [] (List.forall_mem_nil _) areRead
      rw [inlineProblems_eq_nil_iff, and_assoc]
      refine and_congr_right fun _ => ?_
      refine Iff.trans and_assoc.symm (and_congr_left fun _ => ofFields.trans ?_)
      exact and_iff_left fun _ _ => List.forall_mem_nil _

/-- Fields have no problems and truth values for their flags exactly if they are well-typed and their names are none
of those before them. -/
theorem areWellTyped_iff : ∀ (fields : List FieldDecl) (place : String) (seen : List Data),
    (∀ name ∈ seen, name.IsFieldName) → FieldDecl.AreRead fields →
      (fieldsProblems place seen fields = .ok [] ∧ FieldDecl.HaveFlags fields ↔
        FieldDecl.AreWellTyped fields ∧ ∀ field ∈ fields, ∀ name ∈ seen, field.name ≠ name)
  | [], _, _, _, _ => iff_of_true ⟨rfl, trivial⟩ ⟨trivial, List.forall_mem_nil _⟩
  | field :: rest, place, seen, areNames, areRead => by
      have ofField := isWellTyped_field_iff field place areRead.1
      -- names are compared as texts only where both are texts, which the well-typed fields before this one ensure
      rw [fieldsProblems_cons_eq_nil_iff, List.forall_mem_cons]
      refine ⟨fun ⟨⟨isNew, noneOfField, noneOfRest⟩, hasFlags, haveFlags⟩ => ?_,
        fun ⟨⟨wellTyped, distinct, areWellTyped⟩, isNew, areNew⟩ => ?_⟩
      · have wellTyped := ofField.mp ⟨noneOfField, hasFlags⟩
        have seenNames := List.forall_mem_cons.mpr ⟨wellTyped.isFieldName, areNames⟩
        rcases (areWellTyped_iff rest place _ seenNames areRead.2).mp ⟨noneOfRest, haveFlags⟩ with
          ⟨areWellTyped, areNew⟩
        refine ⟨⟨wellTyped, fun other otherMem => areNew other otherMem _ List.mem_cons_self, areWellTyped⟩,
          (repeatProblems_eq_nil_iff areNames wellTyped.isFieldName).mp isNew, fun other otherMem name nameMem => ?_⟩
        exact areNew other otherMem name (List.mem_cons_of_mem _ nameMem)
      · rcases ofField.mpr wellTyped with ⟨noneOfField, hasFlags⟩
        have seenNames := List.forall_mem_cons.mpr ⟨wellTyped.isFieldName, areNames⟩
        have areNewAfter : ∀ other ∈ rest, ∀ name ∈ field.name :: seen, other.name ≠ name :=
          fun other otherMem => List.forall_mem_cons.mpr ⟨distinct other otherMem, areNew other otherMem⟩
        rcases (areWellTyped_iff rest place _ seenNames areRead.2).mpr ⟨areWellTyped, areNewAfter⟩ with
          ⟨noneOfRest, haveFlags⟩
        exact ⟨⟨(repeatProblems_eq_nil_iff areNames wellTyped.isFieldName).mpr isNew, noneOfField, noneOfRest⟩,
          hasFlags, haveFlags⟩

end

section Declarations

/-- The fields of a place have no problems and truth values for their flags exactly if they are well-typed. -/
theorem areWellTyped_of_place_iff {fields : List FieldDecl} (areRead : FieldDecl.AreRead fields) (place : String) :
    fieldsProblems place [] fields = .ok [] ∧ FieldDecl.HaveFlags fields ↔ FieldDecl.AreWellTyped fields :=
  (areWellTyped_iff fields place [] (List.forall_mem_nil _) areRead).trans
    (and_iff_left fun _ _ => List.forall_mem_nil _)

theorem schemaProblems_eq_nil_iff {schema : SchemaDecl} :
    schemaProblems schema = .ok [] ↔ schema.name.IsName ∧
      fieldsProblems ("schema " ++ Message.inQuotes schema.name.display) [] schema.fields = .ok [] := by
  rw [← nameProblems_eq_nil_iff "schema"]
  refine ⟨fun found => ?_, fun ⟨ofName, ofFields⟩ => bind_eq_ok.mpr ⟨_, ofName, bind_eq_ok.mpr ⟨_, ofFields, rfl⟩⟩⟩
  rcases bind_eq_ok.mp found with ⟨ofName, isName, found⟩
  rcases bind_eq_ok.mp found with ⟨ofFields, areFields, found⟩
  simp only [pure, Except.pure, Except.ok.injEq, List.append_eq_nil_iff] at found
  obtain ⟨rfl, rfl⟩ := found
  exact ⟨isName, areFields⟩

theorem all_isText_iff {key : List Data} : key.all Data.isText = true ↔ ∀ name ∈ key, ∃ text, name = .text text := by
  rw [List.all_eq_true]
  refine forall₂_congr fun name _ => ⟨fun isText => ?_, fun ⟨text, isText⟩ => isText ▸ rfl⟩
  cases name with
  | text text => exact ⟨text, rfl⟩
  | _ => cases isText

theorem collectionProblems_eq_nil_iff {collection : CollectionDecl} :
    collectionProblems collection = .ok [] ↔ collection.name.IsName ∧
      (∀ name ∈ collection.key, ∃ text, name = .text text) ∧
      fieldsProblems ("collection " ++ Message.inQuotes collection.name.display) [] collection.fields = .ok [] := by
  rw [← nameProblems_eq_nil_iff "collection", ← all_isText_iff]
  refine ⟨fun found => ?_, fun ⟨ofName, areTexts, ofFields⟩ =>
    bind_eq_ok.mpr ⟨_, ofName, bind_eq_ok.mpr ⟨_, ofFields, ?_⟩⟩⟩
  · rcases bind_eq_ok.mp found with ⟨ofName, isName, found⟩
    rcases bind_eq_ok.mp found with ⟨ofFields, areFields, found⟩
    simp only [pure, Except.pure, Except.ok.injEq, List.append_eq_nil_iff, reportIf_eq_nil] at found
    obtain ⟨⟨rfl, areTexts⟩, rfl⟩ := found
    exact ⟨isName, by simpa using areTexts, areFields⟩
  · rw [areTexts]
    rfl

theorem requestProblems_eq_nil_iff {dispatch : DispatchDecl} :
    requestProblems dispatch = .ok [] ↔ dispatch.request = .null ∨ dispatch.request.IsName := by
  unfold requestProblems
  cases given : isGiven dispatch.request with
  | true =>
      rw [if_pos rfl, nameProblems_eq_nil_iff]
      refine (or_iff_right fun absent => ?_).symm
      rw [absent] at given
      cases given
  | false => exact iff_of_true rfl (Or.inl (eq_null_of_isGiven given))

/-- A dispatch has no problems exactly if it has a name and gives one of its alternatives without problems. -/
theorem dispatchProblems_eq_nil_iff {dispatch : DispatchDecl} :
    dispatchProblems dispatch = .ok [] ↔ dispatch.name.IsName ∧
      ((dispatch.request.IsName ∧ dispatch.fields = none) ∨
        (dispatch.request = .null ∧ dispatch.fields.isSome = true)) ∧
      fieldsProblems ("dispatch " ++ Message.inQuotes dispatch.name.display) [] (dispatch.fields.getD []) = .ok [] := by
  rw [dispatchProblems_eq, ← nameProblems_eq_nil_iff "dispatch"]
  refine ⟨fun found => ?_, fun ⟨ofName, alternatives, ofFields⟩ => ?_⟩
  · rcases bind_eq_ok.mp found with ⟨ofName, isName, found⟩
    rcases bind_eq_ok.mp found with ⟨ofRequest, isRequest, found⟩
    rcases bind_eq_ok.mp found with ⟨ofFields, areFields, found⟩
    simp only [pure, Except.pure, Except.ok.injEq, List.append_eq_nil_iff, reportIf_eq_nil] at found
    obtain ⟨⟨⟨rfl, alternative⟩, rfl⟩, rfl⟩ := found
    refine ⟨isName, ?_, areFields⟩
    rcases requestProblems_eq_nil_iff.mp isRequest with absent | isGivenName
    · rw [absent] at alternative
      exact Or.inr ⟨absent, by simpa [isGiven] using alternative⟩
    · refine Or.inl ⟨isGivenName, ?_⟩
      rcases isGivenName with ⟨text, isText, _⟩
      rw [isText] at alternative
      simpa [isGiven] using alternative
  · rcases alternatives with ⟨isName, absent⟩ | ⟨absent, given⟩
    · refine bind_eq_ok.mpr ⟨_, ofName, bind_eq_ok.mpr ⟨_, requestProblems_eq_nil_iff.mpr (Or.inr isName),
        bind_eq_ok.mpr ⟨_, ofFields, ?_⟩⟩⟩
      rcases isName with ⟨text, isText, _⟩
      rw [isText, absent]
      rfl
    · refine bind_eq_ok.mpr ⟨_, ofName, bind_eq_ok.mpr ⟨_, requestProblems_eq_nil_iff.mpr (Or.inl absent),
        bind_eq_ok.mpr ⟨_, ofFields, ?_⟩⟩⟩
      rw [absent, given]
      rfl

/-- A document has no problems exactly if none of its declarations has one. -/
theorem problems_eq_nil_iff {document : Document} :
    document.problems = .ok [] ↔ (∀ schema ∈ document.schemas, schemaProblems schema = .ok []) ∧
      (∀ collection ∈ document.collections, collectionProblems collection = .ok []) ∧
      ∀ dispatch ∈ document.dispatches, dispatchProblems dispatch = .ok [] := by
  have parts : document.problems = (do
      return (← (do return (← document.schemas.mapM schemaProblems).flatten)) ++
        (← (do return (← document.collections.mapM collectionProblems).flatten)) ++
        (← (do return (← document.dispatches.mapM dispatchProblems).flatten))) := by
    unfold problems
    simp only [bind_assoc, pure_bind]
  rw [parts, bind_append_eq_nil, mapM_flatten_eq_nil, mapM_flatten_eq_nil, mapM_flatten_eq_nil]

end Declarations

mutual

/-- The problems of a field do not depend on its flags. -/
theorem fieldProblems_withFlags (change : Data → Data) : ∀ (field : FieldDecl) (place : String),
    fieldProblems place (field.withFlags change) = fieldProblems place field
  | .plain .., _ => rfl
  | .inline name type optional fields, place => by
      rw [FieldDecl.withFlags, fieldProblems, fieldProblems]
      simp only [fieldsProblems_withFlags change fields]

theorem fieldsProblems_withFlags (change : Data → Data) : ∀ (fields : List FieldDecl) (place : String)
    (seen : List Data), fieldsProblems place seen (FieldDecl.allWithFlags change fields) =
      fieldsProblems place seen fields
  | [], _, _ => rfl
  | field :: rest, place, seen => by
      rw [FieldDecl.allWithFlags, fieldsProblems, fieldsProblems, FieldDecl.name_withFlags,
        fieldProblems_withFlags change field, fieldsProblems_withFlags change rest]

end

/-- The problems of a document do not depend on its flags. -/
theorem problems_withFlags (change : Data → Data) (document : Document) :
    (document.withFlags change).problems = document.problems := by
  unfold problems withFlags
  dsimp only
  rw [List.mapM_map, List.mapM_map, List.mapM_map]
  have schemas (schema : SchemaDecl) : schemaProblems { schema with
      fields := FieldDecl.allWithFlags change schema.fields, compact := change schema.compact } =
      schemaProblems schema := by
    unfold schemaProblems
    simp only [fieldsProblems_withFlags]
  have collections (collection : CollectionDecl) : collectionProblems { collection with
      fields := FieldDecl.allWithFlags change collection.fields } = collectionProblems collection := by
    unfold collectionProblems
    simp only [fieldsProblems_withFlags]
  have dispatches (dispatch : DispatchDecl) : dispatchProblems { dispatch with
      fields := dispatch.fields.map (FieldDecl.allWithFlags change) } = dispatchProblems dispatch := by
    rcases dispatch with ⟨name, request, fields⟩
    unfold dispatchProblems
    cases fields with
    | none => rfl
    | some fields => simp only [Option.map_some, Option.getD_some, Option.isSome_some, fieldsProblems_withFlags]
  simp only [Function.comp_def, schemas, collections, dispatches]

/-- A document that was read is well-typed exactly if it has no problems and its flags are truth values. -/
theorem isWellTyped_iff_of_isRead {document : Document} (isRead : document.IsRead) :
    document.IsWellTyped ↔ document.problems = .ok [] ∧ document.HasFlags := by
  have schemas (schema : SchemaDecl) (schemaMem : schema ∈ document.schemas) (place : String) :=
    areWellTyped_of_place_iff (isRead.schemas schema schemaMem) place
  have collections (collection : CollectionDecl) (collectionMem : collection ∈ document.collections) (place : String) :=
    areWellTyped_of_place_iff (isRead.collections collection collectionMem) place
  have dispatches (dispatch : DispatchDecl) (dispatchMem : dispatch ∈ document.dispatches) (place : String) :=
    areWellTyped_of_place_iff (isRead.dispatches dispatch dispatchMem) place
  rw [problems_eq_nil_iff]
  refine ⟨fun wellTyped => ⟨⟨fun schema schemaMem => ?_, fun collection collectionMem => ?_,
    fun dispatch dispatchMem => ?_⟩, ?_⟩, fun ⟨⟨ofSchemas, ofCollections, ofDispatches⟩, hasFlags⟩ => ?_⟩
  · exact schemaProblems_eq_nil_iff.mpr ⟨wellTyped.schemaNames schema schemaMem,
      ((schemas schema schemaMem _).mpr (wellTyped.schemaFields schema schemaMem)).1⟩
  · exact collectionProblems_eq_nil_iff.mpr ⟨wellTyped.collectionNames collection collectionMem,
      wellTyped.keys collection collectionMem,
      ((collections collection collectionMem _).mpr (wellTyped.collectionFields collection collectionMem)).1⟩
  · exact dispatchProblems_eq_nil_iff.mpr ⟨wellTyped.dispatchNames dispatch dispatchMem,
      wellTyped.requests dispatch dispatchMem,
      ((dispatches dispatch dispatchMem _).mpr (wellTyped.dispatchFields dispatch dispatchMem)).1⟩
  · exact {
      compact := wellTyped.compactFlags
      schemas := fun schema schemaMem => ((schemas schema schemaMem "").mpr
        (wellTyped.schemaFields schema schemaMem)).2
      collections := fun collection collectionMem => ((collections collection collectionMem "").mpr
        (wellTyped.collectionFields collection collectionMem)).2
      dispatches := fun dispatch dispatchMem => ((dispatches dispatch dispatchMem "").mpr
        (wellTyped.dispatchFields dispatch dispatchMem)).2 }
  · have schemasOk (schema : SchemaDecl) (schemaMem : schema ∈ document.schemas) :=
      schemaProblems_eq_nil_iff.mp (ofSchemas schema schemaMem)
    have collectionsOk (collection : CollectionDecl) (collectionMem : collection ∈ document.collections) :=
      collectionProblems_eq_nil_iff.mp (ofCollections collection collectionMem)
    have dispatchesOk (dispatch : DispatchDecl) (dispatchMem : dispatch ∈ document.dispatches) :=
      dispatchProblems_eq_nil_iff.mp (ofDispatches dispatch dispatchMem)
    exact {
      schemaNames := fun schema schemaMem => (schemasOk schema schemaMem).1
      schemaFields := fun schema schemaMem => (schemas schema schemaMem _).mp
        ⟨(schemasOk schema schemaMem).2, hasFlags.schemas schema schemaMem⟩
      compactFlags := hasFlags.compact
      collectionNames := fun collection collectionMem => (collectionsOk collection collectionMem).1
      keys := fun collection collectionMem => (collectionsOk collection collectionMem).2.1
      collectionFields := fun collection collectionMem => (collections collection collectionMem _).mp
        ⟨(collectionsOk collection collectionMem).2.2, hasFlags.collections collection collectionMem⟩
      dispatchNames := fun dispatch dispatchMem => (dispatchesOk dispatch dispatchMem).1
      requests := fun dispatch dispatchMem => (dispatchesOk dispatch dispatchMem).2.1
      dispatchFields := fun dispatch dispatchMem => (dispatches dispatch dispatchMem _).mp
        ⟨(dispatchesOk dispatch dispatchMem).2.2, hasFlags.dispatches dispatch dispatchMem⟩ }

theorem isRead_withFlags (change : Data → Data) {document : Document} (isRead : document.IsRead) :
    (document.withFlags change).IsRead where
  schemas := List.forall_mem_map.mpr fun schema schemaMem =>
    FieldDecl.areRead_withFlags change _ (isRead.schemas schema schemaMem)
  collections := List.forall_mem_map.mpr fun collection collectionMem =>
    FieldDecl.areRead_withFlags change _ (isRead.collections collection collectionMem)
  dispatches := List.forall_mem_map.mpr fun dispatch dispatchMem => by
    have areRead := isRead.dispatches dispatch dispatchMem
    rcases dispatch with ⟨name, request, fields⟩
    cases fields with
    | none => trivial
    | some fields => exact FieldDecl.areRead_withFlags change fields areRead

theorem hasFlags_withFlags {change : Data → Data} (areFlags : ∀ value, (change value).IsFlag) (document : Document) :
    (document.withFlags change).HasFlags where
  compact := List.forall_mem_map.mpr fun schema _ => areFlags schema.compact
  schemas := List.forall_mem_map.mpr fun schema _ => FieldDecl.haveFlags_withFlags areFlags schema.fields
  collections := List.forall_mem_map.mpr fun collection _ => FieldDecl.haveFlags_withFlags areFlags collection.fields
  dispatches := List.forall_mem_map.mpr fun dispatch _ => by
    rcases dispatch with ⟨name, request, fields⟩
    cases fields with
    | none => trivial
    | some fields => exact FieldDecl.haveFlags_withFlags areFlags fields

/-- A document that a value gives is well-typed exactly if it has no problems and its flags are truth values. It has no
problems exactly if it is well-typed but for its flags. -/
theorem isWellTyped_iff {value : Data} {document : Document} (found : ofData value = .ok document) :
    (document.IsWellTyped ↔ document.problems = .ok [] ∧ document.HasFlags) ∧
      (document.problems = .ok [] ↔ (document.withFlags fun _ => .bool false).IsWellTyped) := by
  have isRead := isRead_of_ofData found
  refine ⟨isWellTyped_iff_of_isRead isRead, ?_⟩
  rw [isWellTyped_iff_of_isRead (isRead_withFlags _ isRead), problems_withFlags]
  exact (and_iff_left (hasFlags_withFlags (fun _ => ⟨false, rfl⟩) document)).symm

/-- A value of a document with one schema, whose one field has a value for its flag. -/
def flagSource (flag : Data) : Data :=
  .object [("schemas", .list [.object [("name", .text "a"), ("fields", .list
    [.object [("name", .text "x"), ("type", .text "uint"), ("optional", flag)]])]])]

theorem isWellTyped_iff_optional :
    let document := ofField (.plain (.text "x") (.text "uint") .null (.bool true))
    ofData (flagSource (.bool true)) = .ok document ∧ document.IsWellTyped := by
  intro document
  have isRead : ofData (flagSource (.bool true)) = .ok document := by cbv
  have noProblem : document.problems = .ok [] := by cbv
  have hasFlags : document.HasFlags := by
    constructor
    all_goals simp [document, ofField, Data.IsFlag, FieldDecl.HaveFlags, FieldDecl.HasFlags]
  exact ⟨isRead, (isWellTyped_iff isRead).1.mpr ⟨noProblem, hasFlags⟩⟩

/-- A text is admitted for a flag, and counts as true. -/
theorem textFlag_admitted :
    let document := ofField (.plain (.text "x") (.text "uint") .null (.text "false"))
    ofData (flagSource (.text "false")) = .ok document ∧ document.problems = .ok [] ∧ ¬document.IsWellTyped ∧
      (Data.text "false").isTruthy = true := by
  refine ⟨by cbv, by cbv, fun wellTyped => ?_, by decide⟩
  rcases (wellTyped.schemaFields _ List.mem_cons_self).1.2 with ⟨flag, isFlag⟩
  cases isFlag

end Document

end SpecGraph
