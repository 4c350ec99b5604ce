import SpecGraph.Proofs.Manifest.Unchanged

/-!
# The order of manifests

A manifest may follow another one if no breaking change is found between them. This orders the manifests of schemas,
and those of collections and of dispatches: nothing changes from a manifest to itself, what follows a follower follows
as well, and of two manifests that follow each other each says what the other one says, only in another order, so that
no change at all is found between them.

The argument is the same for the three kinds. It takes two facts of a comparison, when it finds no breaking change and
when it finds none, and that one entry extends another one in a partial order.
-/

namespace SpecGraph

theorem FieldForm.ExtendedBy.antisymm {first second : FieldForm} (before : first.ExtendedBy second)
    (after : second.ExtendedBy first) : first = second := by
  rcases first with ⟨name, type, required⟩
  rcases second with ⟨_, _, other⟩
  obtain ⟨rfl, rfl, relaxed⟩ := before
  obtain ⟨-, -, relaxedBack⟩ := after
  have sameFlag : required = other := by
    cases required
    · exact (relaxed rfl).symm
    · cases other
      · exact relaxedBack rfl
      · rfl
  rw [sameFlag]

theorem SchemaForm.ExtendedBy.antisymm {first second : SchemaForm} (sameAddress : first.address = second.address)
    (before : first.ExtendedBy second) (after : second.ExtendedBy first) : first = second := by
  obtain ⟨compact, kept, added, fields, keeps, -⟩ := before
  obtain ⟨-, keptBack, addedBack, fieldsBack, keepsBack, -⟩ := after
  -- each of the two has as many fields as the other one, so that none is added
  have lengths := congrArg List.length fields
  have lengthsBack := congrArg List.length fieldsBack
  have sameLength := keeps.length_eq
  have sameLengthBack := keepsBack.length_eq
  rw [List.length_append] at lengths lengthsBack
  obtain rfl : added = [] := List.length_eq_zero_iff.mp (by omega)
  obtain rfl : addedBack = [] := List.length_eq_zero_iff.mp (by omega)
  rw [List.append_nil] at fields fieldsBack
  subst fields fieldsBack
  have sameFields : first.fields = second.fields := by
    rw [List.forall₂_iff_zip] at keeps keepsBack
    rw [← List.forall₂_eq_eq_eq, List.forall₂_iff_zip]
    refine ⟨keeps.1, fun {field other} pairMem => ?_⟩
    have turned : (other, field) ∈ second.fields.zip first.fields := by
      rw [← List.zip_swap]
      exact List.mem_map_of_mem pairMem
    exact (keeps.2 pairMem).antisymm (keepsBack.2 turned)
  rcases first with ⟨_, _, _⟩
  rcases second with ⟨_, _, _⟩
  dsimp only at sameAddress compact sameFields
  rw [sameAddress, compact, sameFields]

namespace Manifest

/-- No breaking change is found between two manifests. -/
def MayFollow (diff : Data → Data → Except Fault (List Change)) (old new : Data) : Prop :=
  ∃ changes, diff old new = .ok changes ∧ breaking changes = []

/-- Comparing manifests orders them, up to the order of their entries. -/
structure IsOrder (diff : Data → Data → Except Fault (List Change)) (IsManifest : Data → Prop) : Prop where
  compared : ∀ {old new : Data}, IsManifest old → IsManifest new → ∃ changes, diff old new = .ok changes
  refl : ∀ {manifest : Data}, IsManifest manifest → diff manifest manifest = .ok []
  trans : ∀ {first second third : Data}, IsManifest first → IsManifest second → IsManifest third →
    MayFollow diff first second → MayFollow diff second third → MayFollow diff first third
  /-- No change is found between manifests each of which may follow the other one. -/
  antisymm : ∀ {first second : Data}, IsManifest first → IsManifest second →
    MayFollow diff first second → MayFollow diff second first →
      diff first second = .ok [] ∧ diff second first = .ok []

section Forms

variable {Form : Type} {of? : Data → Option Form} {address : Form → String} {Fine : Form → Prop} {section_ : String}

/-- A manifest lists forms in a section, no two of them with one full name. -/
structure Tells (of? : Data → Option Form) (address : Form → String) (Fine : Form → Prop) (section_ : String)
    (manifest : Data) (forms : List Form) : Prop where
  lists : Lists (fun value form => of? value = some form) section_ manifest forms
  distinct : (forms.map address).Nodup
  fine : ∀ form ∈ forms, Fine form

/-- A comparison finds no breaking change if every entry has an extension, and no change if the entries are the same. -/
structure Compares (diff : Data → Data → Except Fault (List Change)) (Extends : Form → Form → Prop)
    (IsListed : Data → List Form → Prop) (address : Form → String) : Prop where
  breaks : ∀ {previous next : Data} {olds news : List Form}, IsListed previous olds → IsListed next news →
    ∃ changes, diff previous next = .ok changes ∧
      (breaking changes = [] ↔ ∀ old ∈ olds, ∃ new ∈ news, address new = address old ∧ Extends old new)
  unchanged : ∀ {previous next : Data} {olds news : List Form}, IsListed previous olds → IsListed next news →
    ∃ changes, diff previous next = .ok changes ∧ (changes = [] ↔ olds.Perm news)

section Compared

variable {diff : Data → Data → Except Fault (List Change)} {Extends : Form → Form → Prop}
  {IsListed : Data → List Form → Prop} (compares : Compares diff Extends IsListed address)
  {previous next : Data} {olds news : List Form}
include compares

theorem Compares.mayFollow_iff (oldListed : IsListed previous olds) (newListed : IsListed next news) :
    MayFollow diff previous next ↔
      ∀ old ∈ olds, ∃ new ∈ news, address new = address old ∧ Extends old new := by
  rcases compares.breaks oldListed newListed with ⟨changes, compared, breaks⟩
  rw [← breaks]
  constructor
  · rintro ⟨others, comparedAgain, none⟩
    cases compared.symm.trans comparedAgain
    exact none
  · exact fun none => ⟨changes, compared, none⟩

theorem Compares.eq_nil_of_perm (oldListed : IsListed previous olds) (newListed : IsListed next news)
    (same : olds.Perm news) : diff previous next = .ok [] := by
  rcases compares.unchanged oldListed newListed with ⟨changes, compared, unchanged⟩
  rw [compared, unchanged.mpr same]

variable (antisymm : ∀ {first second : Form}, address first = address second → Extends first second →
  Extends second first → first = second)
include antisymm

omit compares in
/-- Entries that extend each other's entries are the same, as no full name occurs twice. -/
theorem subset_of_extended (distinct : (olds.map address).Nodup)
    (before : ∀ old ∈ olds, ∃ new ∈ news, address new = address old ∧ Extends old new)
    (after : ∀ new ∈ news, ∃ old ∈ olds, address old = address new ∧ Extends new old) : olds ⊆ news := by
  intro old oldMem
  obtain ⟨new, newMem, same, extends_⟩ := before old oldMem
  obtain ⟨back, backMem, sameBack, extendsBack⟩ := after new newMem
  obtain rfl := List.inj_on_of_nodup_map distinct backMem oldMem (sameBack.trans same)
  rwa [antisymm sameBack extends_ extendsBack]

/-- A comparison orders the manifests if entries extend each other in a partial order. -/
theorem Compares.isOrder
    (trans : ∀ {first second third : Form}, Extends first second → Extends second third → Extends first third)
    (distinct : ∀ {manifest : Data} {forms : List Form}, IsListed manifest forms → (forms.map address).Nodup) :
    IsOrder diff fun manifest => ∃ forms, IsListed manifest forms where
  compared := by
    rintro old new ⟨olds, oldListed⟩ ⟨news, newListed⟩
    rcases compares.breaks oldListed newListed with ⟨changes, compared, _⟩
    exact ⟨changes, compared⟩
  refl := by
    rintro manifest ⟨forms, listed⟩
    exact compares.eq_nil_of_perm listed listed (List.Perm.refl forms)
  trans := by
    rintro first second third ⟨firsts, isFirst⟩ ⟨seconds, isSecond⟩ ⟨thirds, isThird⟩ before after
    rw [compares.mayFollow_iff isFirst isSecond] at before
    rw [compares.mayFollow_iff isSecond isThird] at after
    rw [compares.mayFollow_iff isFirst isThird]
    intro form formMem
    obtain ⟨middle, middleMem, same, extends_⟩ := before form formMem
    obtain ⟨last, lastMem, sameAgain, extendsAgain⟩ := after middle middleMem
    exact ⟨last, lastMem, sameAgain.trans same, trans extends_ extendsAgain⟩
  antisymm := by
    rintro first second ⟨firsts, isFirst⟩ ⟨seconds, isSecond⟩ before after
    rw [compares.mayFollow_iff isFirst isSecond] at before
    rw [compares.mayFollow_iff isSecond isFirst] at after
    have same : firsts.Perm seconds :=
      (List.perm_ext_iff_of_nodup (distinct isFirst).of_map (distinct isSecond).of_map).mpr fun form =>
        ⟨fun formMem => subset_of_extended antisymm (distinct isFirst) before after formMem,
          fun formMem => subset_of_extended antisymm (distinct isSecond) after before formMem⟩
    exact ⟨compares.eq_nil_of_perm isFirst isSecond same, compares.eq_nil_of_perm isSecond isFirst same.symm⟩

end Compared

end Forms

/-- A manifest of schemas with different full names, each of which has fields with different names. -/
def IsSchemaManifest (manifest : Data) : Prop :=
  ∃ schemas, Tells SchemaForm.of? SchemaForm.address (fun schema => (schema.fields.map FieldForm.name).Nodup)
    "schema" manifest schemas

/-- A manifest of collections with different full names. -/
def IsCollectionManifest (manifest : Data) : Prop :=
  ∃ collections, Tells CollectionForm.of? CollectionForm.address (fun _ => True) "collections" manifest collections

/-- A manifest of dispatches with different full names. -/
def IsDispatchManifest (manifest : Data) : Prop :=
  ∃ dispatches, Tells DispatchForm.of? DispatchForm.address (fun _ => True) "dispatches" manifest dispatches

theorem compares_diffSchemas : Compares diffSchemas SchemaForm.ExtendedBy
    (Tells SchemaForm.of? SchemaForm.address (fun schema => (schema.fields.map FieldForm.name).Nodup) "schema")
    SchemaForm.address where
  breaks olds news := diffSchemas_of_forms olds.lists news.lists olds.distinct news.distinct news.fine
  unchanged olds news := diffSchemas_eq_nil_iff olds.lists news.lists olds.distinct news.distinct olds.fine news.fine

/-- Where an entry extends only itself, it has an extension exactly if it is there again. -/
theorem forall_mem_iff_exists_same {Form : Type} {olds news : List Form} (address : Form → String) :
    (∀ old ∈ olds, old ∈ news) ↔ ∀ old ∈ olds, ∃ new ∈ news, address new = address old ∧ new = old := by
  simp

theorem compares_diffCollections : Compares diffCollections (fun old new => new = old)
    (Tells CollectionForm.of? CollectionForm.address (fun _ => True) "collections") CollectionForm.address where
  breaks olds news := by
    simp only [← forall_mem_iff_exists_same]
    exact diffCollections_of_forms olds.lists news.lists olds.distinct news.distinct
  unchanged olds news := diffCollections_eq_nil_iff olds.lists news.lists olds.distinct news.distinct

theorem compares_diffDispatches : Compares diffDispatches (fun old new => new = old)
    (Tells DispatchForm.of? DispatchForm.address (fun _ => True) "dispatches") DispatchForm.address where
  breaks olds news := by
    simp only [← forall_mem_iff_exists_same]
    exact diffDispatches_of_forms olds.lists news.lists olds.distinct news.distinct
  unchanged olds news := diffDispatches_eq_nil_iff olds.lists news.lists olds.distinct news.distinct

/-- Each of the three comparisons orders its manifests. -/
theorem manifests_ordered :
    IsOrder diffSchemas IsSchemaManifest ∧ IsOrder diffCollections IsCollectionManifest ∧
      IsOrder diffDispatches IsDispatchManifest := by
  refine ⟨?_, ?_, ?_⟩
  · exact compares_diffSchemas.isOrder SchemaForm.ExtendedBy.antisymm SchemaForm.ExtendedBy.trans Tells.distinct
  · exact compares_diffCollections.isOrder (fun _ before _ => before.symm) (fun before after => after.trans before)
      Tells.distinct
  · exact compares_diffDispatches.isOrder (fun _ before _ => before.symm) (fun before after => after.trans before)
      Tells.distinct

def itemManifest (fields : List FieldForm) : Data := .object [("schema", .list [itemSchema fields])]

theorem tells_itemManifest {fields : List FieldForm} (distinct : (fields.map FieldForm.name).Nodup) :
    Tells SchemaForm.of? SchemaForm.address (fun schema => (schema.fields.map FieldForm.name).Nodup) "schema"
      (itemManifest fields) [⟨"@default/item", false, fields⟩] :=
  ⟨lists_object _ (.cons (of?_itemSchema fields) .nil), List.nodup_singleton _, List.forall_mem_singleton.mpr distinct⟩

theorem mayFollow_itemManifest {fields others : List FieldForm} (distinct : (fields.map FieldForm.name).Nodup)
    (othersDistinct : (others.map FieldForm.name).Nodup) :
    MayFollow diffSchemas (itemManifest fields) (itemManifest others) ↔
      SchemaForm.ExtendedBy ⟨"@default/item", false, fields⟩ ⟨"@default/item", false, others⟩ := by
  rw [compares_diffSchemas.mayFollow_iff (tells_itemManifest distinct) (tells_itemManifest othersDistinct)]
  simp

/-- A field that is required at first, then optional, and then has an optional one after it makes a chain. There is no
way back, since the first two manifests are different, and on the spot nothing changes. -/
theorem manifests_ordered_item :
    MayFollow diffSchemas (itemManifest [⟨"id", "uint", true⟩])
        (itemManifest [⟨"id", "uint", false⟩, ⟨"note", "string", false⟩]) ∧
      ¬MayFollow diffSchemas (itemManifest [⟨"id", "uint", false⟩]) (itemManifest [⟨"id", "uint", true⟩]) ∧
      diffSchemas (itemManifest [⟨"id", "uint", true⟩]) (itemManifest [⟨"id", "uint", true⟩]) = .ok [] := by
  have order := manifests_ordered.1
  have isManifest {fields : List FieldForm} (distinct : (fields.map FieldForm.name).Nodup) :
      IsSchemaManifest (itemManifest fields) := ⟨_, tells_itemManifest distinct⟩
  have required : IsSchemaManifest (itemManifest [⟨"id", "uint", true⟩]) := isManifest (by decide)
  have optional : IsSchemaManifest (itemManifest [⟨"id", "uint", false⟩]) := isManifest (by decide)
  have relaxed : MayFollow diffSchemas (itemManifest [⟨"id", "uint", true⟩]) (itemManifest [⟨"id", "uint", false⟩]) :=
    (mayFollow_itemManifest (by decide) (by decide)).mpr
      ⟨rfl, _, [], (List.append_nil _).symm, .cons ⟨rfl, rfl, by decide⟩ .nil, by simp⟩
  refine ⟨order.trans required optional (isManifest (by decide)) relaxed ?_, fun tightened => ?_, order.refl required⟩
  · exact (mayFollow_itemManifest (by decide) (by decide)).mpr
      ⟨rfl, [_], [_], rfl, .cons ⟨rfl, rfl, by decide⟩ .nil, by decide⟩
  · have unchanged := (order.antisymm required optional relaxed tightened).1
    rcases compares_diffSchemas.unchanged
      (tells_itemManifest (show (List.map FieldForm.name [⟨"id", "uint", true⟩]).Nodup by decide))
      (tells_itemManifest (show (List.map FieldForm.name [⟨"id", "uint", false⟩]).Nodup by decide)) with
      ⟨_, compared, same⟩
    cases unchanged.symm.trans compared
    exact absurd (same.mp rfl) (by decide)

end Manifest

end SpecGraph
