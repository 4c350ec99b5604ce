import SpecGraph.Proofs.Manifest.Renewed
import SpecGraph.Proofs.Session.Counting

/-!
# No change without a version

In a series of compiles of schemas, whatever breaking changes they allow, nothing new goes without a new version. A
schema that the manifest before does not have, or not with the same flag and the same fields in the same order, has the
version of the manifest that is written, and so has each field that the schema before does not have with the same type
and the same flag. This version is then greater than that of the manifest before, and no other version in the manifest
is beyond it.

Full names and field names may have any characters, also the mark of a path: a mark can only make more of a manifest
count as changed.
-/

namespace SpecGraph

open Manifest (Bounded loaded)

namespace Compile

theorem version?_of_loaded {compile : Compile} {manifest : Data} {version : Int}
    (isLoaded : loaded compile.after compile.request.file = .ok (some manifest))
    (isVersion : manifest.get? "version" = some (.int version)) : compile.version? = some version := by
  rw [version?, manifest?, isLoaded, Option.bind_some, Data.read?, isVersion]
  rfl

end Compile

namespace Series

/-- In a series of compiles of schemas, the last compile gives a new version to each schema and to each field that it
does not find as it is in the manifest before, and no version that it writes is beyond that of the manifest. -/
theorem versions_renewed {path : Path} {next last : Compile} {rest : List Compile}
    (series : Series .schema path (next :: last :: rest))
    (plain : ∀ compile ∈ last :: rest, ∃ roots, compile.request.IsPlain roots) {groups : Grouped SchemaSpec}
    {root : Path} {sources : List SchemaSource} (isRequest : next.request = .schema groups root)
    (entries : groups.entries = sources.map SchemaSource.entry)
    (distinct : (sources.map fun source => source.form.address).Nodup)
    (fieldsDistinct : ∀ source ∈ sources, (source.fields.map FieldForm.name).Nodup) :
    ∃ (olds news : List VersionedSchema) (before version : Nat),
      last.schemas? = some olds ∧ last.version? = some (before : Int) ∧
      next.schemas? = some (news.map VersionedSchema.joined) ∧ next.version? = some (version : Int) ∧
      news.map VersionedSchema.form = sources.map SchemaSource.form ∧
      ∀ new ∈ news, VersionedSchema.IsRenewed olds before version new := by
  cases series with
  | next _ series _ isPath same =>
      rcases series.exists_bounded plain with ⟨previous, before, olds, isFound, bounded⟩
      subst isPath
      rcases next.exists_versionedPlan isRequest entries (same.trans isFound) bounded.earlier with
        ⟨version, changes, _, pairs, rfl, plan, isLoaded, recorded⟩
      rw [← series.isAt.2] at isFound
      refine ⟨olds, pairs.map Prod.snd, before, version, Compile.schemas?_of_recorded isFound bounded.earlier, ?_,
        Compile.schemas?_of_recorded isLoaded recorded, ?_, (plan.revised bounded.earlier).forms, ?_⟩
      · exact Compile.version?_of_loaded isFound bounded.isVersion
      · exact Compile.version?_of_loaded isLoaded (Manifest.get?_version_versionedManifest version pairs)
      · exact List.forall_mem_map.mpr (plan.isRenewed bounded distinct fieldsDistinct)

section Examples

def idField : FieldForm := ⟨"id", "uint", true⟩

def noteField : FieldForm := ⟨"note", "string", false⟩

def itemSource (fields : List FieldForm) : SchemaSource := ⟨"default", "item", false, fields⟩

def itemSchemas (fields : List FieldForm) : StageRequest :=
  .schema [(.text "default", [(itemSource fields).entry.spec])] specRoots.schema

/-- The schema of items with an identity, as it is written first. -/
def firstItem : VersionedSchema := ⟨"@default/item", false, [(idField, 1)], 1⟩

theorem isPlain_itemSchemas {fields : List FieldForm} (distinct : (fields.map FieldForm.name).Nodup) :
    (itemSchemas fields).IsPlain specRoots :=
  .schema [itemSource fields] rfl (List.forall_mem_singleton.mpr distinct)

/-- A note is added to the items. -/
theorem versions_renewed_note :
    ∃ first second : Compile, ∃ news : List VersionedSchema, Series .schema (specRoots.file .schema) [second, first] ∧
      first.request = itemSchemas [idField] ∧ second.request = itemSchemas [idField, noteField] ∧
      first.schemas? = some [firstItem] ∧ first.version? = some 1 ∧
      second.schemas? = some (news.map VersionedSchema.joined) ∧ second.version? = some 2 ∧
      news.map VersionedSchema.form = [(itemSource [idField, noteField]).form] ∧
      ∀ new ∈ news, new.version = 2 ∧ ∀ field ∈ new.fields, field.1 = noteField → field.2 = 2 := by
  have plain : (itemSchemas [idField]).IsPlain specRoots := isPlain_itemSchemas (by decide)
  have newDistinct : ([idField, noteField].map FieldForm.name).Nodup := by decide
  have plainNext := isPlain_itemSchemas newDistinct
  rcases exists_compiles plain plainNext rfl (by decide +kernel :
    ((itemSchemas [idField]).runOn? false .empty).map Prod.fst = some true) (by decide +kernel) with
    ⟨first, second, isFirst, isSecond, series, held, heldNext⟩
  have series : Series .schema (specRoots.file .schema) [second, first] := series
  have firstSchemas : first.schemas? = some [firstItem] := by
    refine Compile.schemas?_of_heldBy held (isFirst ▸ plain) ?_
    rw [isFirst]
    decide +kernel
  have firstVersion : first.version? = some 1 := by
    rw [Compile.version?, Compile.manifest?_of_heldBy held (isFirst ▸ plain), isFirst]
    decide +kernel
  have secondVersion : second.version? = some 2 := by
    rw [Compile.version?, Compile.manifest?_of_heldBy heldNext (isSecond ▸ plainNext), isSecond]
    decide +kernel
  rcases series.versions_renewed (List.forall_mem_singleton.mpr ⟨specRoots, isFirst ▸ plain⟩) isSecond
    (rfl : _ = [itemSource [idField, noteField]].map SchemaSource.entry) (List.nodup_singleton _)
    (List.forall_mem_singleton.mpr newDistinct) with
    ⟨_, news, before, version, areOlds, _, areNews, isVersion, forms, renewed⟩
  cases firstSchemas.symm.trans areOlds
  have isTwo : version = 2 := by
    have same := Option.some.inj (secondVersion.symm.trans isVersion)
    omega
  subst isTwo
  refine ⟨first, second, news, series, isFirst, isSecond, firstSchemas, firstVersion, areNews, secondVersion, forms,
    fun new newMem => ?_⟩
  have isItem : new.form = (itemSource [idField, noteField]).form := by
    have inForms := List.mem_map_of_mem (f := VersionedSchema.form) newMem
    rw [forms] at inForms
    exact List.mem_singleton.mp inForms
  have address : new.address = "@default/item" := congrArg SchemaForm.address isItem
  have ofSchema := (renewed new newMem).schema
  rw [address, isItem] at ofSchema
  refine ⟨(ofSchema (by decide +kernel)).1, fun field fieldMem isNote => ?_⟩
  have ofField := (renewed new newMem).fields field fieldMem
  rw [address, isNote] at ofField
  exact (ofField (by decide +kernel)).1

end Examples

end Series

end SpecGraph
