import SpecGraph.Proofs.Manifest.Diff
import SpecGraph.Proofs.Manifest.Plan
import SpecGraph.World.Report

/-!
# What the reports on a builder tell

The changes from the written manifests to a builder are told by the file tree, and telling them leaves the file
tree as it is.
-/

namespace SpecGraph

namespace Builder

/-- The changes from the manifests of a file tree to what was declared. -/
def changesIn (builder : Builder) (files : Files) : Except Error (List Change) := do
  let oldSchemas ← Manifest.loaded files (builder.schemaRoot.child Manifest.schemaFile)
  let oldCollections ← Manifest.loaded files (builder.storageRoot.child Manifest.storageFile)
  let oldDispatches ← Manifest.loaded files (builder.dispatchRoot.child Manifest.dispatchFile)
  let ofSchemas ← Job.faulty (Manifest.diffSchemas (Manifest.orEmpty oldSchemas)
    (.object [("schema", .list (builder.graph.schemaSpecs.entries.map Entry.schemaData))]))
  let ofCollections ← Job.faulty (Manifest.diffCollections (Manifest.orEmpty oldCollections)
    (.object [("collections", .list (builder.graph.collectionSpecs.entries.map Entry.collectionData))]))
  let ofDispatches ← Job.faulty (Manifest.diffDispatches (Manifest.orEmpty oldDispatches)
    (.object [("dispatches", .list (builder.graph.dispatchSpecs.entries.map Entry.dispatchData))]))
  return ofSchemas ++ ofCollections ++ ofDispatches

theorem tells_changes (builder : Builder) : builder.changes.Tells builder.changesIn := by
  refine Job.tells_bind (Manifest.tells_load _) fun _ => ?_
  refine Job.tells_bind (Manifest.tells_load _) fun _ => ?_
  refine Job.tells_bind (Manifest.tells_load _) fun _ => ?_
  refine Job.tells_bind (Job.tells_ofFault _) fun _ => ?_
  refine Job.tells_bind (Job.tells_ofFault _) fun _ => ?_
  refine Job.tells_bind (Job.tells_ofFault _) fun _ => ?_
  exact Job.tells_pure _

end Builder

namespace Manifest

/-- The manifest at a path can be compared with something new, and no change from it is breaking. -/
def IsKept (compare : Data → Data → Except Fault (List Change)) (new : Data) (files : Files) (path : Path) : Prop :=
  ∃ previous changes, loaded files path = .ok previous ∧ compare (orEmpty previous) new = .ok changes ∧
    breaking changes = []

/-- A manifest that is loaded and compared is kept exactly if no change is breaking. -/
theorem isKept_iff {compare : Data → Data → Except Fault (List Change)} {new : Data} {files : Files} {path : Path}
    {previous : Option Data} {changes : List Change} (isLoaded : loaded files path = .ok previous)
    (compared : compare (orEmpty previous) new = .ok changes) :
    IsKept compare new files path ↔ breaking changes = [] := by
  constructor
  · rintro ⟨other, others, sameLoaded, sameCompared, kept⟩
    cases isLoaded.symm.trans sameLoaded
    cases compared.symm.trans sameCompared
    exact kept
  · exact fun kept => ⟨previous, changes, isLoaded, compared, kept⟩

end Manifest

namespace Builder

/-- What was declared, as a manifest of schemas. -/
def newSchemas (builder : Builder) : Data :=
  .object [("schema", .list (builder.graph.schemaSpecs.entries.map Entry.schemaData))]

/-- What was declared, as a manifest of collections. -/
def newCollections (builder : Builder) : Data :=
  .object [("collections", .list (builder.graph.collectionSpecs.entries.map Entry.collectionData))]

/-- What was declared, as a manifest of dispatches. -/
def newDispatches (builder : Builder) : Data :=
  .object [("dispatches", .list (builder.graph.dispatchSpecs.entries.map Entry.dispatchData))]

/-- The changes can be told and are not breaking exactly if each of the three manifests is kept. -/
theorem exists_changesIn_iff (builder : Builder) (files : Files) :
    (∃ changes, builder.changesIn files = .ok changes ∧ Manifest.breaking changes = []) ↔
      Manifest.IsKept Manifest.diffSchemas builder.newSchemas files (builder.request .schema).file ∧
      Manifest.IsKept Manifest.diffCollections builder.newCollections files (builder.request .storage).file ∧
      Manifest.IsKept Manifest.diffDispatches builder.newDispatches files (builder.request .dispatch).file := by
  constructor
  · rintro ⟨changes, told, kept⟩
    rcases bind_eq_ok.mp told with ⟨oldSchemas, loadedSchemas, told⟩
    rcases bind_eq_ok.mp told with ⟨oldCollections, loadedCollections, told⟩
    rcases bind_eq_ok.mp told with ⟨oldDispatches, loadedDispatches, told⟩
    rcases bind_eq_ok.mp told with ⟨ofSchemas, comparedSchemas, told⟩
    rcases bind_eq_ok.mp told with ⟨ofCollections, comparedCollections, told⟩
    rcases bind_eq_ok.mp told with ⟨ofDispatches, comparedDispatches, told⟩
    cases told
    rw [Manifest.breaking_append, Manifest.breaking_append, List.append_eq_nil_iff, List.append_eq_nil_iff] at kept
    exact ⟨⟨oldSchemas, ofSchemas, loadedSchemas, Manifest.faulty_eq_ok.mp comparedSchemas, kept.1.1⟩,
      ⟨oldCollections, ofCollections, loadedCollections, Manifest.faulty_eq_ok.mp comparedCollections, kept.1.2⟩,
      ⟨oldDispatches, ofDispatches, loadedDispatches, Manifest.faulty_eq_ok.mp comparedDispatches, kept.2⟩⟩
  · rintro ⟨⟨oldSchemas, ofSchemas, loadedSchemas, comparedSchemas, keptSchemas⟩,
      ⟨oldCollections, ofCollections, loadedCollections, comparedCollections, keptCollections⟩,
      ⟨oldDispatches, ofDispatches, loadedDispatches, comparedDispatches, keptDispatches⟩⟩
    refine ⟨ofSchemas ++ ofCollections ++ ofDispatches, ?_, ?_⟩
    · refine bind_eq_ok.mpr ⟨oldSchemas, loadedSchemas, ?_⟩
      refine bind_eq_ok.mpr ⟨oldCollections, loadedCollections, ?_⟩
      refine bind_eq_ok.mpr ⟨oldDispatches, loadedDispatches, ?_⟩
      refine bind_eq_ok.mpr ⟨ofSchemas, Manifest.faulty_eq_ok.mpr comparedSchemas, ?_⟩
      refine bind_eq_ok.mpr ⟨ofCollections, Manifest.faulty_eq_ok.mpr comparedCollections, ?_⟩
      exact bind_eq_ok.mpr ⟨ofDispatches, Manifest.faulty_eq_ok.mpr comparedDispatches, rfl⟩
    · rw [Manifest.breaking_append, Manifest.breaking_append, keptSchemas, keptCollections, keptDispatches]
      rfl

end Builder

end SpecGraph
