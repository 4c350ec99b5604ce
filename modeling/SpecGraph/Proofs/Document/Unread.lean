import SpecGraph.Proofs.Document.Apply
import SpecGraph.Proofs.Document.Reported
import SpecGraph.Proofs.Document.Shape
import SpecGraph.Proofs.Foreign
import SpecGraph.Proofs.Session.Legible

/-!
# Documents whose references cannot be read

Reading and checking a document fails with errors from outside the package, or with that of a document. A document
without problems can give the field of a nested schema a name with an empty segment. Then the address of the nested
schema, which is the type of the field, cannot be read, and the graph of the document cannot be asked for its problems.
This is the only way for it to fail.
-/

namespace SpecGraph

/-- An error tells that a reference is no name. -/
def Error.IsOfName (error : Error) : Prop := ∃ reference fault, error = .name reference fault

/-- An error is that of a document. -/
def Error.IsOfDocument (error : Error) : Prop := ∃ fault, error = .document fault

namespace Document

section Reading

theorem failsOnly_shown (value : Data) : FailsOnly Error.IsForeign (shown value) := by
  simp only [shown]
  split
  · exact failsOnly_ok _
  · exact failsOnly_error rfl

theorem failsOnly_nameProblems (name : Data) (place : String) :
    FailsOnly Error.IsForeign (nameProblems name place) := by
  refine (failsOnly_shown name).bind fun _ _ => ?_
  split
  · split
    · exact failsOnly_ok _
    · exact failsOnly_ok _
  · exact failsOnly_ok _

theorem failsOnly_typeProblems (label : String) (type : Data) :
    FailsOnly Error.IsForeign (typeProblems label type) :=
  failsOnly_ite ((failsOnly_shown type).bind fun _ _ => failsOnly_ok _) (failsOnly_ok _)

theorem failsOnly_structProblems (label : String) (struct : Data) :
    FailsOnly Error.IsForeign (structProblems label struct) := by
  simp only [structProblems]
  split
  · exact failsOnly_ok _
  · exact failsOnly_nameProblems _ _
  · exact failsOnly_error rfl
  · exact failsOnly_ok _
  · exact failsOnly_ok _

theorem failsOnly_fieldLabel (place : String) (name : Data) : FailsOnly Error.IsForeign (fieldLabel place name) :=
  (failsOnly_shown name).bind fun _ _ => failsOnly_ok _

mutual

theorem failsOnly_fieldProblems (place : String) : ∀ field : FieldDecl,
    FailsOnly Error.IsForeign (fieldProblems place field)
  | .plain name type struct _ => by
      rw [fieldProblems]
      refine (failsOnly_fieldLabel place name).bind fun label _ => ?_
      refine (failsOnly_typeProblems label type).bind fun _ _ => ?_
      exact (failsOnly_structProblems label struct).bind fun _ _ => failsOnly_ok _
  | .inline name type _ fields => by
      rw [fieldProblems]
      refine (failsOnly_fieldLabel place name).bind fun label _ => ?_
      refine (failsOnly_typeProblems label type).bind fun _ _ => ?_
      refine (failsOnly_shown name).bind fun _ _ => ?_
      exact (failsOnly_fieldsProblems _ [] fields).bind fun _ _ => failsOnly_ok _

theorem failsOnly_fieldsProblems (place : String) (seen : List Data) : ∀ fields : List FieldDecl,
    FailsOnly Error.IsForeign (fieldsProblems place seen fields)
  | [] => by
      rw [fieldsProblems]
      exact failsOnly_ok _
  | field :: rest => by
      rw [fieldsProblems]
      refine (failsOnly_fieldProblems place field).bind fun _ _ => ?_
      exact (failsOnly_fieldsProblems place _ rest).bind fun _ _ => failsOnly_ok _

end

/-- A document is checked without errors of the package. -/
theorem failsOnly_problems (document : Document) : FailsOnly Error.IsForeign document.problems := by
  refine (failsOnly_mapM fun schema _ => ?_).bind fun _ _ => (failsOnly_mapM fun collection _ => ?_).bind fun _ _ =>
    (failsOnly_mapM fun dispatch _ => ?_).bind fun _ _ => failsOnly_ok _
  · exact (failsOnly_nameProblems _ _).bind fun _ _ =>
      (failsOnly_fieldsProblems _ _ _).bind fun _ _ => failsOnly_ok _
  · exact (failsOnly_nameProblems _ _).bind fun _ _ =>
      (failsOnly_fieldsProblems _ _ _).bind fun _ _ => failsOnly_ok _
  · rw [dispatchProblems_eq]
    refine (failsOnly_nameProblems _ _).bind fun _ _ => ?_
    refine (failsOnly_ite (failsOnly_nameProblems _ _) (failsOnly_ok _)).bind fun _ _ => ?_
    exact (failsOnly_fieldsProblems _ _ _).bind fun _ _ => failsOnly_ok _

/-- A value that gives no document is refused with the error of a document or one from outside the package. -/
theorem failsOnly_ofData (value : Data) :
    FailsOnly (fun error => error.IsForeign ∨ error.IsOfDocument) (ofData value) := by
  intro error failed
  have decided := describes_ofData value
  by_cases escapes : shape.escapes value
  · rcases decided.escaped.mpr escapes with ⟨fault, isFault⟩
    cases failed.symm.trans isFault
    exact Or.inl rfl
  · by_cases accepts : shape.accepts value
    · rcases decided.accepted.mpr accepts with ⟨document, isOk⟩
      cases failed.symm.trans isOk
    · rcases decided.refused accepts escapes with ⟨fault, isRefused⟩
      cases failed.symm.trans isRefused
      exact Or.inr ⟨fault, rfl⟩

end Reading

end Document

namespace Name

variable {outer inner : String} {name : Name}

theorem isWhole_below_iff (outerWhole : IsWhole outer) : IsWhole (outer ++ "/" ++ inner) ↔ IsWhole inner := by
  refine ⟨fun whole => ?_, outerWhole.below⟩
  have text : (outer ++ "/" ++ inner).toList = outer.toList ++ '/' :: inner.toList := by
    simp only [String.toList_append, List.append_assoc]
    rfl
  intro segment segmentMem
  apply whole
  rw [text, segments_append_slash]
  exact List.mem_append_right _ segmentMem

/-- The full name of a path can be read exactly if no segment of the path is empty. -/
theorem isLegible_format_iff (isSpace : IsSpace name.space) : IsLegible name.format ↔ IsWhole name.path := by
  constructor
  · rintro ⟨other, read⟩
    have sameText := format_of_parse (startsFull_format name) read
    rw [← format_inj (isSpace_of_parse read).2 isSpace.2 sameText]
    exact isWhole_of_parse read
  · intro whole
    exact ⟨name, parse_format isSpace whole⟩

end Name

theorem FieldTag.isTag_format (name : Name) : isTag name.format = false := by
  have noMark : ∀ type ∈ all, type.tag.toList.head? ≠ some '@' := by decide
  rw [isTag, ofTag?, Option.isSome_eq_false_iff, Option.isNone_iff_eq_none, List.find?_eq_none]
  intro type typeMem same
  apply noMark type typeMem
  rw [beq_iff_eq.mp same]
  exact Name.startsFull_format name

theorem Data.IsName.isSpace_toName {value : Data} (isName : value.IsName) : Name.IsSpace value.toName.space :=
  Reference.isSpace_of_parse isName.parse

theorem Data.IsName.isWhole_toName {value : Data} (isName : value.IsName) : Name.IsWhole value.toName.path :=
  Reference.isWhole_of_parse isName.parse

theorem Data.IsName.isLegible_format {value : Data} (isName : value.IsName) : Name.IsLegible value.toName.format :=
  (Name.isLegible_format_iff isName.isSpace_toName).mpr isName.isWhole_toName

namespace FieldDecl

/-- The names of valid fields are texts. -/
theorem names_fields (own : Name) (fields : List FieldDecl) (valid : AreValid fields) :
    ∀ field ∈ fields.map (toField own), ∃ text, field.name = .text text := by
  intro field fieldMem
  rcases List.mem_map.mp fieldMem with ⟨declared, declaredMem, rfl⟩
  rcases (isValid_of_mem valid declared declaredMem).isFieldName with ⟨text, isText, _⟩
  exact ⟨text, (name_toField own declared).trans isText⟩

mutual

/-- A valid field is added as a legible one, and so are those inside it, exactly if the names of the fields of nested
schemas have no empty segment. -/
theorem isLegible_field_iff : ∀ (own : Name) (field : FieldDecl), Name.IsSpace own.space → Name.IsWhole own.path →
    field.IsValid →
      ((field.toField own).IsLegible ∧ (∀ schema ∈ field.nested own, ∀ inner ∈ schema.fields, inner.IsLegible) ↔
        ∀ name ∈ field.nestedNames, Name.IsWhole name)
  | own, .plain name type struct optional, _, _, valid => by
      rcases valid with ⟨⟨text, rfl, _⟩, alternative⟩
      refine iff_of_true ⟨⟨⟨text, rfl⟩, ?_⟩, List.forall_mem_nil _⟩ (List.forall_mem_nil _)
      rcases alternative with ⟨tag, rfl, isTag⟩ | ⟨rfl, isName⟩
      · exact Or.inl isTag
      · exact Or.inr isName.isLegible_format
  | own, .inline name type optional fields, isSpace, isWhole, valid => by
      rcases valid with ⟨⟨text, rfl, _⟩, _, areValid⟩
      let address := inside own (.text text)
      have ofAddress : Name.IsLegible address.format ↔ Name.IsWhole text := by
        have addressSpace : Name.IsSpace address.space := isSpace
        rw [Name.isLegible_format_iff addressSpace]
        exact Name.isWhole_below_iff isWhole
      have ofField : (toField own (.inline (.text text) type optional fields)).IsLegible ↔ Name.IsWhole text := by
        rw [← ofAddress]
        constructor
        · intro legible
          exact legible.type.resolve_left (ne_true_of_eq_false (FieldTag.isTag_format address))
        · intro legible
          exact ⟨⟨text, rfl⟩, Or.inr legible⟩
      rw [nested, nestedNames, List.forall_mem_cons, List.forall_mem_append, List.forall_mem_map, ofField]
      rw [← List.forall_mem_singleton (p := Name.IsWhole)]
      refine and_congr_right fun whole => ?_
      exact areLegible_fields_iff address fields isSpace (isWhole.below (List.forall_mem_singleton.mp whole)) areValid

theorem areLegible_fields_iff : ∀ (own : Name) (fields : List FieldDecl), Name.IsSpace own.space →
    Name.IsWhole own.path → AreValid fields →
      ((∀ field ∈ fields, (field.toField own).IsLegible) ∧
          (∀ schema ∈ allNested own fields, ∀ inner ∈ schema.fields, inner.IsLegible) ↔
        ∀ name ∈ allNestedNames fields, Name.IsWhole name)
  | own, [], _, _, _ => by
      exact iff_of_true ⟨List.forall_mem_nil _, List.forall_mem_nil _⟩ (List.forall_mem_nil _)
  | own, field :: rest, isSpace, isWhole, valid => by
      rw [allNested, allNestedNames, List.forall_mem_cons, List.forall_mem_append, List.forall_mem_append,
        and_and_and_comm, isLegible_field_iff own field isSpace isWhole valid.1,
        areLegible_fields_iff own rest isSpace isWhole valid.2.2]

end

/-- The fields of the schema of a name and of those nested in it are legible exactly if the names of the fields of
nested schemas have no empty segment. -/
theorem areLegible_schemas_iff {value : Data} (isName : value.IsName) {fields : List FieldDecl}
    (valid : AreValid fields) (compact : Data) (keyed : Bool) :
    (∀ schema ∈ schemas value.toName compact keyed fields, ∀ field ∈ schema.fields, field.IsLegible) ↔
      ∀ name ∈ allNestedNames fields, Name.IsWhole name := by
  rw [schemas, List.forall_mem_cons, List.forall_mem_map]
  exact areLegible_fields_iff value.toName fields isName.isSpace_toName isName.isWhole_toName valid

mutual

/-- The names of the fields of the schemas that are nested in a valid field are texts. -/
theorem names_nested : ∀ (own : Name) (field : FieldDecl), field.IsValid →
    ∀ schema ∈ field.nested own, ∀ inner ∈ schema.fields, ∃ text, inner.name = .text text
  | _, .plain .., _ => List.forall_mem_nil _
  | own, .inline name type optional fields, valid => by
      rw [nested, List.forall_mem_cons]
      exact ⟨names_fields _ fields valid.2.2, names_allNested _ fields valid.2.2⟩

theorem names_allNested : ∀ (own : Name) (fields : List FieldDecl), AreValid fields →
    ∀ schema ∈ allNested own fields, ∀ inner ∈ schema.fields, ∃ text, inner.name = .text text
  | _, [], _ => List.forall_mem_nil _
  | own, field :: rest, valid => by
      rw [allNested, List.forall_mem_append]
      exact ⟨names_nested own field valid.1, names_allNested own rest valid.2.2⟩

end

theorem names_schemas (own : Name) {fields : List FieldDecl} (valid : AreValid fields) (compact : Data) (keyed : Bool) :
    ∀ schema ∈ schemas own compact keyed fields, ∀ inner ∈ schema.fields, ∃ text, inner.name = .text text := by
  rw [schemas, List.forall_mem_cons]
  exact ⟨names_fields own fields valid, names_allNested own fields valid⟩

end FieldDecl

namespace Graph

section Merging

variable {pieces : List Namespace} {α : Type} {part : Namespace → List α}

/-- What is collected under a name is what the pieces of this name have. -/
theorem mem_collected {name : String} {element : α} :
    element ∈ (pieces.filter fun piece => piece.name == name).flatMap part ↔
      ∃ piece ∈ pieces, piece.name = name ∧ element ∈ part piece := by
  simp only [List.mem_flatMap, List.mem_filter, beq_iff_eq, and_assoc]

/-- A namespace of merged pieces has the name of one of them. -/
theorem mem_spaces_merge {space : Namespace} :
    space ∈ (merge pieces).spaces ↔ ∃ piece ∈ pieces, collect pieces piece.name = space := by
  simp only [merge, List.mem_map, List.mem_eraseDups, exists_exists_and_eq_and]

/-- Merged pieces have the schemas of the pieces. -/
theorem forall_schemas_merge {such : Schema → Prop} :
    (∀ space ∈ (merge pieces).spaces, ∀ schema ∈ space.schemas, such schema) ↔
      ∀ piece ∈ pieces, ∀ schema ∈ piece.schemas, such schema := by
  constructor
  · intro each piece pieceMem schema schemaMem
    apply each (collect pieces piece.name) (mem_spaces_merge.mpr ⟨piece, pieceMem, rfl⟩)
    exact mem_collected.mpr ⟨piece, pieceMem, rfl, schemaMem⟩
  · intro each space spaceMem schema schemaMem
    rcases mem_spaces_merge.mp spaceMem with ⟨first, _, rfl⟩
    rcases mem_collected.mp schemaMem with ⟨piece, pieceMem, _, inPiece⟩
    exact each piece pieceMem schema inPiece

theorem isLegible_merge (each : ∀ piece ∈ pieces, piece.IsLegible) :
    ∀ space ∈ (merge pieces).spaces, space.IsLegible := by
  intro space spaceMem
  have schemas := forall_schemas_merge.mpr fun piece pieceMem => (each piece pieceMem).fields
  rcases mem_spaces_merge.mp spaceMem with ⟨first, firstMem, rfl⟩
  refine ⟨(each first firstMem).name, schemas _ spaceMem, ?_, ?_⟩
  · intro collection collectionMem
    rcases mem_collected.mp collectionMem with ⟨piece, pieceMem, _, inPiece⟩
    exact (each piece pieceMem).keys collection inPiece
  · intro dispatch dispatchMem
    rcases mem_collected.mp dispatchMem with ⟨piece, pieceMem, _, inPiece⟩
    exact (each piece pieceMem).requests dispatch inPiece

theorem isTexted_merge (each : ∀ piece ∈ pieces, piece.IsTexted) : ∀ space ∈ (merge pieces).spaces, space.IsTexted := by
  intro space spaceMem
  have schemas := forall_schemas_merge.mpr fun piece pieceMem => (each piece pieceMem).names
  rcases mem_spaces_merge.mp spaceMem with ⟨first, _, rfl⟩
  refine ⟨schemas _ spaceMem, fun collection collectionMem => ?_⟩
  rcases mem_collected.mp collectionMem with ⟨piece, pieceMem, _, inPiece⟩
  exact (each piece pieceMem).keys collection inPiece

end Merging

section Problems

variable {graph : Graph} {space : Namespace}

theorem failsOnly_referenceProblem (graph : Graph) (reference : String) :
    FailsOnly Error.IsOfName (graph.referenceProblem? reference) := by
  refine FailsOnly.bind ?_ fun _ _ => failsOnly_ok _
  simp only [Reference.parse]
  split
  · exact failsOnly_ok _
  · exact failsOnly_error ⟨_, _, rfl⟩

/-- A graph with texts for the names of its fields and keys can be refused its problems only for a reference. -/
theorem failsOnly_problems (texted : ∀ space ∈ graph.spaces, space.IsTexted) :
    FailsOnly Error.IsOfName graph.problems := by
  refine (failsOnly_mapM fun space spaceMem => ?_).bind fun _ _ => failsOnly_ok _
  refine (failsOnly_mapM fun schema _ => ?_).bind fun _ _ => (failsOnly_mapM fun collection collectionMem => ?_).bind
    fun _ _ => (failsOnly_mapM fun dispatch _ => ?_).bind fun _ _ => failsOnly_ok _
  · refine (failsOnly_mapM fun field _ => ?_).bind fun _ _ => failsOnly_ok _
    refine failsOnly_ite (failsOnly_ok _) ?_
    exact (failsOnly_referenceProblem graph field.type).bind fun _ _ => failsOnly_ok _
  · rcases exists_collectionProblems (texted space spaceMem) collectionMem with ⟨problems, found⟩
    rw [found]
    exact failsOnly_ok problems
  · exact (failsOnly_referenceProblem graph dispatch.requestType).bind fun _ _ => failsOnly_ok _

/-- A graph that can be asked for its problems has only types that are primitive or can be read as names. -/
theorem types_of_problems {problems : List String} (found : graph.problems = .ok problems) :
    ∀ space ∈ graph.spaces, ∀ schema ∈ space.schemas, ∀ field ∈ schema.fields,
      FieldTag.isTag field.type = true ∨ Name.IsLegible field.type := by
  intro space spaceMem schema schemaMem field fieldMem
  rcases exists_of_bind_ok found with ⟨ofSpaces, areSpaces, _⟩
  rcases Json.exists_of_mapM areSpaces spaceMem with ⟨ofSpace, isSpace⟩
  rcases exists_of_bind_ok isSpace with ⟨ofSchemas, areSchemas, _⟩
  rcases Json.exists_of_mapM areSchemas schemaMem with ⟨ofSchema, isSchema⟩
  rcases exists_of_bind_ok isSchema with ⟨ofFields, areFields, _⟩
  rcases Json.exists_of_mapM areFields fieldMem with ⟨ofField, isField⟩
  unfold fieldProblems at isField
  split at isField
  next isTag => exact Or.inl isTag
  next =>
    rcases exists_of_bind_ok isField with ⟨problem, isProblem, _⟩
    rcases exists_of_bind_ok isProblem with ⟨name, isName, _⟩
    exact Or.inr ⟨name, Reference.parse_text.mp isName⟩

end Problems

end Graph

namespace Document

variable {document : Document}

theorem forall_mem_pieces {such : Namespace → Prop} :
    (∀ piece ∈ document.pieces, such piece) ↔
      (∀ schema ∈ document.schemas, such schema.piece) ∧
        (∀ collection ∈ document.collections, such collection.piece) ∧
        ∀ dispatch ∈ document.dispatches, such dispatch.piece := by
  rw [pieces, List.forall_mem_append, List.forall_mem_append, List.forall_mem_map, List.forall_mem_map,
    List.forall_mem_map, and_assoc]

section Valid

variable (valid : document.IsValid)
include valid

/-- What a valid document adds is legible exactly if the names of the fields of its nested schemas have no empty
segment. -/
theorem areLegible_pieces_iff :
    (∀ piece ∈ document.pieces, ∀ schema ∈ piece.schemas, ∀ field ∈ schema.fields, field.IsLegible) ↔
      ∀ name ∈ document.nestedNames, Name.IsWhole name := by
  rw [forall_mem_pieces, nestedNames, List.forall_mem_append, List.forall_mem_append, and_assoc,
    List.forall_mem_flatMap, List.forall_mem_flatMap, List.forall_mem_flatMap]
  refine and_congr (forall₂_congr fun schema schemaMem => ?_) (and_congr (forall₂_congr fun collection collectionMem =>
    ?_) (forall₂_congr fun dispatch dispatchMem => ?_))
  · exact FieldDecl.areLegible_schemas_iff (valid.schemaNames schema schemaMem) (valid.schemaFields schema schemaMem)
      schema.compact false
  · exact FieldDecl.areLegible_schemas_iff (valid.collectionNames collection collectionMem)
      (valid.collectionFields collection collectionMem) (.bool false) true
  · have isValid := valid.dispatches dispatch dispatchMem
    rcases dispatch with ⟨name, request, _ | fields⟩
    · exact iff_of_true (List.forall_mem_nil _) (List.forall_mem_nil _)
    · exact FieldDecl.areLegible_schemas_iff isValid.name isValid.fields (.bool false) false

theorem isTexted_pieces : ∀ piece ∈ document.pieces, piece.IsTexted := by
  refine forall_mem_pieces.mpr ⟨fun schema schemaMem => ?_, fun collection collectionMem => ?_,
    fun dispatch dispatchMem => ?_⟩
  · exact ⟨FieldDecl.names_schemas _ (valid.schemaFields schema schemaMem) _ _, List.forall_mem_nil _⟩
  · exact ⟨FieldDecl.names_schemas _ (valid.collectionFields collection collectionMem) _ _,
      List.forall_mem_singleton.mpr (valid.keys collection collectionMem)⟩
  · have isValid := valid.dispatches dispatch dispatchMem
    rcases dispatch with ⟨name, request, _ | fields⟩
    · exact ⟨List.forall_mem_nil _, List.forall_mem_nil _⟩
    · exact ⟨FieldDecl.names_schemas _ isValid.fields _ _, List.forall_mem_nil _⟩

/-- Apart from the types of the fields, what a valid document adds is legible. -/
theorem isLegible_pieces
    (fields : ∀ piece ∈ document.pieces, ∀ schema ∈ piece.schemas, ∀ field ∈ schema.fields, field.IsLegible) :
    ∀ piece ∈ document.pieces, piece.IsLegible := by
  rw [forall_mem_pieces] at fields ⊢
  rcases fields with ⟨ofSchemas, ofCollections, ofDispatches⟩
  refine ⟨fun schema schemaMem => ?_, fun collection collectionMem => ?_, fun dispatch dispatchMem => ?_⟩
  · exact ⟨(valid.schemaNames schema schemaMem).isSpace_toName, ofSchemas schema schemaMem, List.forall_mem_nil _,
      List.forall_mem_nil _⟩
  · exact ⟨(valid.collectionNames collection collectionMem).isSpace_toName, ofCollections collection collectionMem,
      List.forall_mem_singleton.mpr (valid.keys collection collectionMem), List.forall_mem_nil _⟩
  · have ofFields := ofDispatches dispatch dispatchMem
    have isValid := valid.dispatches dispatch dispatchMem
    rcases dispatch with ⟨name, request, _ | fields⟩
    · have isRequest : request.IsName := by
        rcases isValid.request with ⟨_, given, isGiven⟩ | ⟨isName, _⟩
        · cases isGiven
        · exact isName
      exact ⟨isValid.name.isSpace_toName, ofFields, List.forall_mem_nil _,
        List.forall_mem_singleton.mpr isRequest.isLegible_format⟩
    · exact ⟨isValid.name.isSpace_toName, ofFields, List.forall_mem_nil _,
        List.forall_mem_singleton.mpr isValid.name.isLegible_format⟩

/-- The graph of a valid document can be refused its problems only for a reference. -/
theorem failsOnly_flattenProblems : FailsOnly Error.IsOfName document.flatten.problems := by
  apply Graph.failsOnly_problems
  apply Graph.isTexted_merge
  rw [List.forall_mem_cons]
  exact ⟨⟨List.forall_mem_nil _, List.forall_mem_nil _⟩, isTexted_pieces valid⟩

/-- The graph of a valid document can be asked for its problems exactly if the names of the fields of its nested schemas
have no empty segment. -/
theorem exists_flattenProblems_iff :
    (∃ problems, document.flatten.problems = .ok problems) ↔ ∀ name ∈ document.nestedNames, Name.IsWhole name := by
  rw [← areLegible_pieces_iff valid]
  constructor
  · rintro ⟨problems, found⟩
    have types := Graph.forall_schemas_merge.mp (Graph.types_of_problems found)
    intro piece pieceMem schema schemaMem field fieldMem
    refine ⟨(isTexted_pieces valid piece pieceMem).names schema schemaMem field fieldMem, ?_⟩
    exact types piece (List.mem_cons_of_mem _ pieceMem) schema schemaMem field fieldMem
  · intro fields
    apply Graph.exists_problems
    apply Graph.isLegible_merge
    rw [List.forall_mem_cons]
    exact ⟨Namespace.isLegible_empty (by decide), isLegible_pieces valid fields⟩

end Valid

end Document

end SpecGraph
