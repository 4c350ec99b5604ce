import SpecGraph.Proofs.Data.Sort
import SpecGraph.Proofs.Document.Valid

/-!
# Values that are no document

Of each place in a document the shape says which values the reader accepts there, and which ones escape it. The reader
tells the kind of a value at three places only: of the document, of the names of its sections, and of the entry of a
field. There a value of another kind is an error of the document. At the other places a value is looked into as it is,
and one that cannot be looked into so ends the reading with a fault. Values are read one after the other, so that the
first one that is not accepted decides.
-/

namespace SpecGraph

/-- A result is a value in one case and a fault in another, and in all others an error of the document. -/
structure Decides {α : Type} (result : Except Error α) (accepts escapes : Prop) : Prop where
  accepted : (∃ value, result = .ok value) ↔ accepts
  escaped : (∃ fault, result = .error (.fault fault)) ↔ escapes
  refused : ¬accepts → ¬escapes → ∃ fault, result = .error (.document fault)

namespace Decides

variable {α β : Type} {accepts escapes acceptsNext escapesNext : Prop}

theorem of_ok (value : α) : Decides (.ok value) True False := by
  constructor
  all_goals simp

theorem of_fault (fault : Fault) : Decides (.error (.fault fault) : Except Error α) False True := by
  constructor
  all_goals simp

theorem of_document (fault : DocumentFault) : Decides (.error (.document fault) : Except Error α) False False := by
  constructor
  all_goals simp

theorem congr {result : Except Error α} (decided : Decides result accepts escapes) (sameAccepts : accepts ↔ acceptsNext)
    (sameEscapes : escapes ↔ escapesNext) : Decides result acceptsNext escapesNext := by
  rwa [← propext sameAccepts, ← propext sameEscapes]

/-- The rest of a chain is reached where its first step is accepted. -/
theorem bind {first : Except Error α} {next : α → Except Error β} (ofFirst : Decides first accepts escapes)
    (ofNext : ∀ value, first = .ok value → Decides (next value) acceptsNext escapesNext) :
    Decides (first >>= next) (accepts ∧ acceptsNext) (escapes ∨ accepts ∧ escapesNext) := by
  cases first with
  | ok value =>
      have isAccepted : accepts := ofFirst.accepted.mp ⟨value, rfl⟩
      have stays : ¬escapes := by
        intro escaped
        rcases ofFirst.escaped.mpr escaped with ⟨fault, other⟩
        cases other
      exact (ofNext value rfl).congr (by simp [isAccepted]) (by simp [isAccepted, stays])
  | error error =>
      have notAccepted : ¬accepts := by
        intro accepted
        rcases ofFirst.accepted.mpr accepted with ⟨value, other⟩
        cases other
      refine ⟨?_, ?_, ?_⟩
      · simp [notAccepted, Bind.bind, Except.bind]
      · simpa [notAccepted, Bind.bind, Except.bind] using ofFirst.escaped
      · intro _ stays
        rcases ofFirst.refused notAccepted fun escaped => stays (.inl escaped) with ⟨fault, refused⟩
        cases refused
        exact ⟨fault, rfl⟩

end Decides

/-- The values that a reader accepts at a place, and those that escape it. -/
structure Shape where
  accepts : Data → Prop
  escapes : Data → Prop

namespace Shape

variable {α : Type}

/-- A reader accepts the values of a shape, lets those escape that escape it, and refuses all others. -/
def Describes (shape : Shape) (read : Data → Except Error α) : Prop :=
  ∀ value, Decides (read value) (shape.accepts value) (shape.escapes value)

/-- A value with items of a shape. It escapes if it has no items, or if one of them does and those before it are
accepted. -/
def each (shape : Shape) : Shape where
  accepts value := ∃ items, value.items = .ok items ∧ ∀ item ∈ items, shape.accepts item
  escapes value := (∃ fault, value.items = .error fault) ∨
    ∃ before item after, value.items = .ok (before ++ item :: after) ∧ (∀ earlier ∈ before, shape.accepts earlier) ∧
      shape.escapes item

/-- A value that may be absent. -/
def orAbsent (shape : Shape) : Shape where
  accepts value := value = .null ∨ shape.accepts value
  escapes value := value ≠ .null ∧ shape.escapes value

/-- A value that may count as false. -/
def orFalse (shape : Shape) : Shape where
  accepts value := value.isTruthy = false ∨ shape.accepts value
  escapes value := value.isTruthy = true ∧ shape.escapes value

variable {shape : Shape} {read : Data → Except Error α}

/-- A reader reads items one after the other, up to the first one that is not accepted. -/
theorem Describes.mapM (described : shape.Describes read) (items : List Data) :
    Decides (items.mapM read) (∀ item ∈ items, shape.accepts item)
      (∃ before item after, items = before ++ item :: after ∧ (∀ earlier ∈ before, shape.accepts earlier) ∧
        shape.escapes item) := by
  induction items with
  | nil => exact (Decides.of_ok []).congr (by simp) (by simp)
  | cons first rest ih =>
      rw [List.mapM_cons]
      refine ((described first).bind fun value _ => ih.bind fun values _ => Decides.of_ok _).congr ?_ ?_
      · simp
      · constructor
        · rintro (escaped | ⟨accepted, ⟨before, item, after, rfl, areAccepted, escaped⟩ | ⟨_, impossible⟩⟩)
          · exact ⟨[], first, rest, rfl, List.forall_mem_nil _, escaped⟩
          · exact ⟨first :: before, item, after, rfl, List.forall_mem_cons.mpr ⟨accepted, areAccepted⟩, escaped⟩
          · exact impossible.elim
        · rintro ⟨before, item, after, split, areAccepted, escaped⟩
          cases before with
          | nil =>
              cases split
              exact .inl escaped
          | cons earlier before =>
              cases split
              rw [List.forall_mem_cons] at areAccepted
              exact .inr ⟨areAccepted.1, .inl ⟨before, item, after, rfl, areAccepted.2, escaped⟩⟩

theorem Describes.each (described : shape.Describes read) :
    shape.each.Describes fun value =>
      match value.items with
      | .ok items => items.mapM read
      | .error fault => throw (.fault fault) := by
  intro value
  dsimp only [Shape.each]
  cases value.items with
  | ok items => exact (described.mapM items).congr (by simp) (by simp)
  | error fault => exact (Decides.of_fault fault).congr (by simp) (by simp)

end Shape

namespace FieldDecl

/-- The shape of the entry of a field, with fields inside one another up to a depth. Only a mapping in the place of its
schema holds such fields. -/
def shape : (depth : Nat) → Shape
  | 0 => ⟨fun _ => False, fun _ => True⟩
  | depth + 1 => {
      accepts := fun entry => ∃ entries, entry.bare = .map entries ∧
        ∀ members, (memberOf entries "struct" .null).bare = .map members →
          (shape depth).each.accepts (memberOf members "fields" (.list []))
      escapes := fun entry => ∃ entries members, entry.bare = .map entries ∧
        (memberOf entries "struct" .null).bare = .map members ∧
          (shape depth).each.escapes (memberOf members "fields" (.list [])) }

theorem describes_read (depth : Nat) : (shape depth).Describes (read depth) := by
  induction depth with
  | zero => exact fun _ => Decides.of_fault _
  | succ depth ih =>
      intro entry
      unfold read shape
      split
      next entries isMap =>
        dsimp only
        split
        next members isInline =>
          have readInner := (ih.each (memberOf members "fields" (.list []))).bind fun fields _ =>
            Decides.of_ok (some fields)
          refine (readInner.bind fun inner _ => Decides.of_ok _).congr ?_ ?_
          · simp [isMap, isInline]
          · simp [isMap, isInline]
        next isEmpty =>
          refine (Decides.of_ok _).congr ?_ ?_
          · simp [isMap, isEmpty]
          · simp [isMap, isEmpty]
        next notInline _ =>
          refine (Decides.of_ok _).congr (iff_of_true trivial ?_) (iff_of_false not_false ?_)
          · exact ⟨entries, isMap, fun members isInline => (notInline members isInline).elim⟩
          · rintro ⟨others, members, isOther, isInline, _⟩
            cases isMap.symm.trans isOther
            exact notInline members isInline
      next notMap =>
        refine (Decides.of_document _).congr (iff_of_false not_false ?_) (iff_of_false not_false ?_)
        · rintro ⟨entries, isMap, _⟩
          exact notMap entries isMap
        · rintro ⟨entries, members, isMap, _⟩
          exact notMap entries isMap

theorem describes_readList : (shape mostLevels).each.Describes (readList mostLevels) := (describes_read mostLevels).each

end FieldDecl

namespace Document

open FieldDecl (memberOf)

/-- The shape of an entry of a section, which is looked into as a mapping, by that of its fields. -/
def entryShape (fields : Shape) (default : Data) : Shape where
  accepts entry := ∃ entries, entry.bare = .map entries ∧ fields.accepts (memberOf entries "fields" default)
  escapes entry := ∀ entries, entry.bare = .map entries → fields.escapes (memberOf entries "fields" default)

/-- The shape of the entry of a schema or of a collection. -/
def schemaShape : Shape := entryShape (FieldDecl.shape FieldDecl.mostLevels).each (.list [])

/-- The shape of the entry of a dispatch, which may have no fields. -/
def dispatchShape : Shape := entryShape (FieldDecl.shape FieldDecl.mostLevels).each.orAbsent .null

theorem entryMember_of_map {entry : Data} {entries : List (Data × Data)} (isMap : entry.bare = .map entries)
    (name : String) (default : Data) : entryMember entry name default = .ok (memberOf entries name default) := by
  unfold entryMember Data.memberOr
  rw [isMap]
  rfl

theorem entryMember_of_not_map {entry : Data} (notMap : ∀ entries, entry.bare ≠ .map entries) (name : String)
    (default : Data) : entryMember entry name default = .error (.fault .missingMember) := by
  unfold entryMember Data.memberOr
  split
  next found =>
    split at found
    next isMap => exact (notMap _ isMap).elim
    next => cases found
  next failed =>
    split at failed
    next => cases failed
    next =>
      cases failed
      rfl

/-- An entry is described by what is read of its fields, and by the first of its members, which no other value has. -/
theorem describes_entry {α : Type} {read : Data → Except Error α} {fields : Shape} {default : Data}
    (ofMap : ∀ entry entries, entry.bare = .map entries →
      Decides (read entry) (fields.accepts (memberOf entries "fields" default))
        (fields.escapes (memberOf entries "fields" default)))
    (ofOther : ∀ entry, (∀ entries, entry.bare ≠ .map entries) → read entry = .error (.fault .missingMember)) :
    (entryShape fields default).Describes read := by
  intro entry
  rcases Classical.em (∃ entries, entry.bare = .map entries) with ⟨entries, isMap⟩ | notMap
  · refine (ofMap entry entries isMap).congr ?_ ?_
    · simp [entryShape, isMap]
    · simp [entryShape, isMap]
  · rw [not_exists] at notMap
    rw [ofOther entry notMap]
    refine (Decides.of_fault _).congr (iff_of_false not_false ?_) (iff_of_true trivial ?_)
    · rintro ⟨entries, isMap, _⟩
      exact notMap entries isMap
    · intro entries isMap
      exact (notMap entries isMap).elim

theorem describes_readSchema : schemaShape.Describes (readSchema FieldDecl.mostLevels) := by
  apply describes_entry
  · intro entry entries isMap
    unfold readSchema
    rw [entryMember_of_map isMap, entryMember_of_map isMap, entryMember_of_map isMap]
    exact ((FieldDecl.describes_readList _).bind fun fields _ => Decides.of_ok _).congr (by simp) (by simp)
  · intro entry notMap
    unfold readSchema
    rw [entryMember_of_not_map notMap]
    rfl

theorem describes_readCollection : schemaShape.Describes (readCollection FieldDecl.mostLevels) := by
  apply describes_entry
  · intro entry entries isMap
    unfold readCollection
    rw [entryMember_of_map isMap, entryMember_of_map isMap, entryMember_of_map isMap]
    exact ((FieldDecl.describes_readList _).bind fun fields _ => Decides.of_ok _).congr (by simp) (by simp)
  · intro entry notMap
    unfold readCollection
    rw [entryMember_of_not_map notMap]
    rfl

theorem describes_readDispatch : dispatchShape.Describes (readDispatch FieldDecl.mostLevels) := by
  apply describes_entry
  · intro entry entries isMap
    unfold readDispatch
    rw [entryMember_of_map isMap, entryMember_of_map isMap, entryMember_of_map isMap]
    simp only [Manifest.ok_bind]
    split
    next absent => exact (Decides.of_ok _).congr (by simp [Shape.orAbsent, absent]) (by simp [Shape.orAbsent, absent])
    next notAbsent =>
      have given : memberOf entries "fields" .null ≠ .null := notAbsent
      refine ((FieldDecl.describes_readList _).bind fun fields _ => Decides.of_ok _).congr ?_ ?_
      · simp [Shape.orAbsent, given]
      · simp [Shape.orAbsent, given]
  · intro entry notMap
    unfold readDispatch
    rw [entryMember_of_not_map notMap]
    rfl

/-- The shape of a section by that of its entries. -/
def sectionShape (entry : Shape) : Shape := entry.each.orFalse

/-- A section that counts as true is looked into for its entries. -/
theorem decides_section {α : Type} {shape : Shape} {read : Data → Except Error α} (described : shape.Describes read)
    (entries : List (Data × Data)) (name : String) :
    Decides (sectionEntries entries name >>= fun items => items.mapM read)
      ((sectionShape shape).accepts (memberOf entries name .null))
      ((sectionShape shape).escapes (memberOf entries name .null)) := by
  unfold sectionEntries sectionShape
  dsimp only
  split
  next isTrue =>
    have ofItems := described.each (memberOf entries name .null)
    dsimp only at ofItems
    cases items : (memberOf entries name .null).items
    all_goals
      rw [items] at ofItems
      refine ofItems.congr ?_ ?_
      · simp [Shape.orFalse, isTrue]
      · simp [Shape.orFalse, isTrue]
  next isFalse =>
    refine (Decides.of_ok []).congr ?_ ?_
    · simp [Shape.orFalse, isFalse]
    · simp [Shape.orFalse, isFalse]

/-- The keys of a mapping that name no section. -/
def strangers (entries : List (Data × Data)) : List Data :=
  (entries.map Prod.fst).filter fun key => !sections.any fun name => key.same (.text name)

/-- The sections of a mapping are accepted: it has no others. -/
structure AcceptsSections (entries : List (Data × Data)) : Prop where
  names : strangers entries = []
  schemas : (sectionShape schemaShape).accepts (memberOf entries "schemas" .null)
  collections : (sectionShape schemaShape).accepts (memberOf entries "collections" .null)
  dispatches : (sectionShape dispatchShape).accepts (memberOf entries "dispatches" .null)

/-- A section of a mapping escapes, and those before it are accepted; or the names of the others cannot be told. -/
inductive EscapesSections (entries : List (Data × Data)) : Prop where
  /-- The other names cannot be put in order. -/
  | unordered (notSorted : Data.sort? (strangers entries) = none)
  /-- One of the other names has a number with too many digits to be shown. -/
  | unshown (name : Data) (nameMem : name ∈ strangers entries) (isLong : name.hasLongNumeral = true)
  | schemas (names : strangers entries = [])
      (escaped : (sectionShape schemaShape).escapes (memberOf entries "schemas" .null))
  | collections (names : strangers entries = [])
      (schemas : (sectionShape schemaShape).accepts (memberOf entries "schemas" .null))
      (escaped : (sectionShape schemaShape).escapes (memberOf entries "collections" .null))
  | dispatches (names : strangers entries = [])
      (schemas : (sectionShape schemaShape).accepts (memberOf entries "schemas" .null))
      (collections : (sectionShape schemaShape).accepts (memberOf entries "collections" .null))
      (escaped : (sectionShape dispatchShape).escapes (memberOf entries "dispatches" .null))

/-- The shape of a document. -/
def shape : Shape where
  accepts value := value.bare = .null ∨ ∃ entries, value.bare = .map entries ∧ AcceptsSections entries
  escapes value := ∃ entries, value.bare = .map entries ∧ EscapesSections entries

/-- The sections of a mapping that has no others are read in order. -/
theorem decides_sections {entries : List (Data × Data)} (names : strangers entries = []) :
    Decides (do
      let schemas ← (← sectionEntries entries "schemas").mapM (readSchema FieldDecl.mostLevels)
      let collections ← (← sectionEntries entries "collections").mapM (readCollection FieldDecl.mostLevels)
      let dispatches ← (← sectionEntries entries "dispatches").mapM (readDispatch FieldDecl.mostLevels)
      return (⟨schemas, collections, dispatches⟩ : Document)) (AcceptsSections entries) (EscapesSections entries) := by
  have ofSchemas := decides_section describes_readSchema entries "schemas"
  have ofCollections := decides_section describes_readCollection entries "collections"
  have ofDispatches := decides_section describes_readDispatch entries "dispatches"
  have inOrder := ofSchemas.bind fun schemas _ => ofCollections.bind fun collections _ =>
    ofDispatches.bind fun dispatches _ => Decides.of_ok (⟨schemas, collections, dispatches⟩ : Document)
  simp only [bind_assoc] at inOrder
  refine inOrder.congr ?_ ?_
  · constructor
    · rintro ⟨schemas, collections, dispatches, _⟩
      exact ⟨names, schemas, collections, dispatches⟩
    · intro accepted
      exact ⟨accepted.schemas, accepted.collections, accepted.dispatches, trivial⟩
  · constructor
    · rintro (escaped | ⟨schemas, escaped | ⟨collections, escaped | ⟨_, impossible⟩⟩⟩)
      · exact .schemas names escaped
      · exact .collections names schemas escaped
      · exact .dispatches names schemas collections escaped
      · exact impossible.elim
    · intro escapes
      cases escapes with
      | unordered notSorted =>
          rw [names] at notSorted
          cases notSorted
      | unshown name nameMem =>
          rw [names] at nameMem
          cases nameMem
      | schemas _ escaped => exact .inl escaped
      | collections _ schemas escaped => exact .inr ⟨schemas, .inl escaped⟩
      | dispatches _ schemas collections escaped => exact .inr ⟨schemas, .inr ⟨collections, .inl escaped⟩⟩

/-- The names that belong to no section are put in order to be told, which fails if two that meet cannot be ordered, or
if one of them has too many digits. -/
theorem unknownSections_cases (entries : List (Data × Data)) :
    (∃ names, unknownSections entries = .ok names ∧ Data.sort? (strangers entries) = some names ∧
      ∀ name ∈ strangers entries, name.hasLongNumeral = false) ∨
    ((∃ fault, unknownSections entries = .error (.fault fault)) ∧
      (Data.sort? (strangers entries) = none ∨ ∃ name ∈ strangers entries, name.hasLongNumeral = true)) := by
  unfold unknownSections
  dsimp only
  rw [← strangers]
  cases found : Data.sort? (strangers entries) with
  | none => exact .inr ⟨⟨_, rfl⟩, .inl rfl⟩
  | some names =>
      have sameNames := Data.perm_of_sortBy? found
      dsimp only
      split
      next isLong =>
        rcases List.any_eq_true.mp isLong with ⟨name, nameMem, nameLong⟩
        exact .inr ⟨⟨_, rfl⟩, .inr ⟨name, sameNames.mem_iff.mp nameMem, nameLong⟩⟩
      next areShort =>
        rw [List.any_eq_true, not_exists] at areShort
        refine .inl ⟨names, rfl, rfl, fun name nameMem => ?_⟩
        exact Bool.eq_false_of_not_eq_true fun isLong => areShort name ⟨sameNames.mem_iff.mpr nameMem, isLong⟩

/-- A value is a document, or escapes, or is refused as none, by its shape. -/
theorem describes_ofData : shape.Describes ofData := by
  intro value
  unfold ofData ofDataWithin
  split
  next isNull =>
    refine (Decides.of_ok _).congr (iff_of_true trivial (.inl isNull)) (iff_of_false not_false ?_)
    rintro ⟨entries, isMap, _⟩
    cases isNull.symm.trans isMap
  next entries isMap =>
    have ofMap : (AcceptsSections entries ↔ shape.accepts value) ∧ (EscapesSections entries ↔ shape.escapes value) := by
      simp [shape, isMap]
    refine Decides.congr ?_ ofMap.1 ofMap.2
    rcases unknownSections_cases entries with ⟨names, isNames, areSorted, areShort⟩ | ⟨⟨fault, isFault⟩, untold⟩
    · rw [isNames]
      have sameNames := Data.perm_of_sortBy? areSorted
      cases names with
      | nil => exact decides_sections sameNames.nil_eq.symm
      | cons name names =>
          have given : strangers entries ≠ [] := by
            intro empty
            rw [empty] at sameNames
            cases sameNames.eq_nil
          refine (Decides.of_document _).congr (iff_of_false not_false ?_) (iff_of_false not_false ?_)
          · intro accepted
            exact given accepted.names
          · intro escapes
            cases escapes with
            | unordered notSorted => cases areSorted.symm.trans notSorted
            | unshown name nameMem isLong => simp [areShort name nameMem] at isLong
            | schemas names | collections names | dispatches names => exact given names
    · rw [isFault]
      refine (Decides.of_fault fault).congr (iff_of_false not_false ?_) (iff_of_true trivial ?_)
      · intro accepted
        rw [accepted.names] at untold
        rcases untold with notSorted | ⟨name, nameMem, _⟩
        · cases notSorted
        · cases nameMem
      · rcases untold with notSorted | ⟨name, nameMem, isLong⟩
        · exact .unordered notSorted
        · exact .unshown name nameMem isLong
  next notNull notMap =>
    refine (Decides.of_document _).congr (iff_of_false not_false ?_) (iff_of_false not_false ?_)
    · rintro (isNull | ⟨entries, isMap, _⟩)
      · exact notNull isNull
      · exact notMap entries isMap
    · rintro ⟨entries, isMap, _⟩
      exact notMap entries isMap

/-- A value gives a document or is refused as none exactly if it does not escape. It gives one exactly if it is
accepted, and a fault comes out exactly if it escapes. -/
theorem given_or_refused_iff (value : Data) :
    ((∃ document, ofData value = .ok document) ∨ (∃ fault, ofData value = .error (.document fault)) ↔
        ¬shape.escapes value) ∧
      ((∃ document, ofData value = .ok document) ↔ shape.accepts value) ∧
      ((∃ fault, ofData value = .error (.fault fault)) ↔ shape.escapes value) := by
  have decided := describes_ofData value
  refine ⟨⟨?_, ?_⟩, decided.accepted, decided.escaped⟩
  · intro settled escapes
    rcases decided.escaped.mpr escapes with ⟨fault, isFault⟩
    rw [isFault] at settled
    rcases settled with ⟨document, isOk⟩ | ⟨refusal, isRefused⟩
    · cases isOk
    · cases isRefused
  · intro stays
    rcases Classical.em (shape.accepts value) with accepted | notAccepted
    · exact .inl (decided.accepted.mpr accepted)
    · exact .inr (decided.refused notAccepted stays)

/-- An entry of a section that is a number is looked into for its members. -/
theorem entryNumber_escapes :
    let value := Data.object [("schemas", .list [.int 1])]
    ofData value = .error (.fault .missingMember) ∧
      ¬((∃ document, ofData value = .ok document) ∨ ∃ fault, ofData value = .error (.document fault)) := by
  intro value
  have isFault : ofData value = .error (.fault .missingMember) := by cbv
  refine ⟨isFault, ?_⟩
  rw [isFault]
  simp

end Document

end SpecGraph
