import SpecGraph.Graph.Check
import SpecGraph.Json.Writer
import SpecGraph.World.Basic
import SpecGraph.Yaml.Writer

/-!
# Reports on a builder

A builder can be compared with the manifests that were written under its roots, and written out as a
snapshot with its fingerprint. Neither changes anything.
-/

namespace SpecGraph

namespace Builder

/-- The changes from the written manifests to what was declared; a manifest that is absent counts as
empty. -/
def changes (builder : Builder) : Job (List Change) := do
  let oldSchemas ← Manifest.load (builder.schemaRoot.child Manifest.schemaFile)
  let oldCollections ← Manifest.load (builder.storageRoot.child Manifest.storageFile)
  let oldDispatches ← Manifest.load (builder.dispatchRoot.child Manifest.dispatchFile)
  let graph := builder.graph
  let ofSchemas ← Job.ofFault (Manifest.diffSchemas (Manifest.orEmpty oldSchemas)
    (.object [("schema", .list (graph.schemaSpecs.entries.map Entry.schemaData))]))
  let ofCollections ← Job.ofFault (Manifest.diffCollections (Manifest.orEmpty oldCollections)
    (.object [("collections", .list (graph.collectionSpecs.entries.map Entry.collectionData))]))
  let ofDispatches ← Job.ofFault (Manifest.diffDispatches (Manifest.orEmpty oldDispatches)
    (.object [("dispatches", .list (graph.dispatchSpecs.entries.map Entry.dispatchData))]))
  return ofSchemas ++ ofCollections ++ ofDispatches

/-- What was declared, with its fingerprint. -/
def snapshotData (builder : Builder) : Except Fault Data := do
  let fingerprint ← builder.fingerprint
  return .object [("fingerprint", .text fingerprint), ("declarations", builder.toData)]

/-- The format of a snapshot. -/
inductive SnapshotFormat where
  | json | yaml
deriving DecidableEq, Inhabited

/-- The text of a snapshot. -/
def snapshot (builder : Builder) (format : SnapshotFormat) : Except Fault String := do
  let data ← builder.snapshotData
  match format with
  | .yaml => Yaml.write data
  | .json => Json.write (.sortedLines 2) data

end Builder

/-- No change is breaking. -/
def Manifest.isCompatible (changes : List Change) : Bool := (breaking changes).isEmpty

end SpecGraph
