import SpecGraph.Digest
import SpecGraph.Manifest.Compile
import SpecGraph.Yaml.Token.Lexer
import SpecGraph.Yaml.Reader
import SpecGraph.Yaml.Writer
import SpecGraph.Graph.View
import SpecGraph.Graph.Check
import SpecGraph.Settings.Load
import SpecGraph.World.Declare
import SpecGraph.World.Finalize
import SpecGraph.Document.Reader
import SpecGraph.Document.Writer
import SpecGraph.Document.Apply
import SpecGraph.Session.Basic
import SpecGraph.Error.Notice
import SpecGraph.CommandLine.Basic
import SpecGraph.Main
import SpecGraph.Proofs.Data.Sort
import SpecGraph.Proofs.Text.CodePoints
import SpecGraph.Proofs.Text.Numeral
import SpecGraph.Proofs.Json.Text
import SpecGraph.Proofs.Json.RoundTrip
import SpecGraph.Proofs.Effect
import SpecGraph.Proofs.Files
import SpecGraph.Proofs.Workspace
import SpecGraph.Proofs.Manifest.Plan
import SpecGraph.Proofs.World.Finalize
import SpecGraph.Proofs.World.Failure
import SpecGraph.Proofs.Manifest.Form
import SpecGraph.Proofs.Manifest.Diff
import SpecGraph.Proofs.Manifest.Compatible
import SpecGraph.Proofs.Manifest.Touched
import SpecGraph.Proofs.Manifest.Record
import SpecGraph.Proofs.Manifest.Numbers
import SpecGraph.Proofs.Manifest.Accept
import SpecGraph.Proofs.Manifest.Stage
import SpecGraph.Proofs.Manifest.History
import SpecGraph.Proofs.Manifest.Series
import SpecGraph.Proofs.Manifest.Ids
import SpecGraph.Proofs.Manifest.Versions
import SpecGraph.Proofs.Graph.Plain
import SpecGraph.Proofs.Graph.Sources
import SpecGraph.Proofs.World.Declare
import SpecGraph.Proofs.Session.Plain
import SpecGraph.Proofs.Manifest.Replay
import SpecGraph.Proofs.World.Builds
import SpecGraph.Proofs.Session.History
import SpecGraph.Proofs.Session.Persistence
import SpecGraph.Proofs.World.Frozen
import SpecGraph.Proofs.Session.Frozen
import SpecGraph.Proofs.Graph.Problems
import SpecGraph.Proofs.Manifest.Found
import SpecGraph.Proofs.World.Left
import SpecGraph.Proofs.World.Verdict
import SpecGraph.Proofs.World.Register
import SpecGraph.Proofs.World.Kept
import SpecGraph.Proofs.World.Spaces
import SpecGraph.Proofs.World.Report
import SpecGraph.Proofs.World.Turns
import SpecGraph.Proofs.Graph.Pieces
import SpecGraph.Proofs.Document.Kept
import SpecGraph.Proofs.Document.Valid
import SpecGraph.Proofs.Document.Flat
import SpecGraph.Proofs.Document.Fields
import SpecGraph.Proofs.Document.Apply
import SpecGraph.Proofs.Session.Kept
import SpecGraph.Proofs.Session.Moments
import SpecGraph.Proofs.Session.Sound
import SpecGraph.Proofs.Session.Legible
import SpecGraph.Proofs.Session.Verdict
import SpecGraph.Proofs.World.Together
import SpecGraph.Proofs.Session.Together
import SpecGraph.Proofs.World.Calls
import SpecGraph.Proofs.Session.Calls
import SpecGraph.Proofs.Number.Rounding
import SpecGraph.Proofs.Number.Shortest
import SpecGraph.Proofs.Json.Numeral
import SpecGraph.Proofs.Json.Values
import SpecGraph.Proofs.Manifest.Carried
import SpecGraph.Proofs.Manifest.Planned
import SpecGraph.Proofs.Graph.Flattened
import SpecGraph.Proofs.World.Decoded
import SpecGraph.Proofs.World.Rebuilt
import SpecGraph.Proofs.Session.Decoded
import SpecGraph.Proofs.Session.Rebuilt
import SpecGraph.Proofs.Session.Counting
import SpecGraph.Proofs.Json.Canonical
import SpecGraph.Proofs.Json.ReadBack
import SpecGraph.Proofs.Session.Fingerprint
import SpecGraph.Proofs.Session.Addresses
import SpecGraph.Proofs.Manifest.Unchanged
import SpecGraph.Proofs.Manifest.Known
import SpecGraph.Proofs.Manifest.Again
import SpecGraph.Proofs.Graph.Told
import SpecGraph.Proofs.Manifest.Standing
import SpecGraph.Proofs.Graph.Listed
import SpecGraph.Proofs.Manifest.Counting
import SpecGraph.Proofs.Graph.Growth
import SpecGraph.Proofs.Session.Growth
import SpecGraph.Proofs.Data.Conveyed
import SpecGraph.Proofs.Document.RoundTrip
import SpecGraph.Proofs.Document.Reported
import SpecGraph.Proofs.Document.Admitted
import SpecGraph.Proofs.Tree
import SpecGraph.Proofs.Locality
import SpecGraph.Proofs.Manifest.Local
import SpecGraph.Proofs.World.Apart
import SpecGraph.Proofs.Document.Shape
import SpecGraph.Proofs.Session.Repeated
import SpecGraph.Proofs.Session.Misnamed
import SpecGraph.Proofs.Manifest.Given
import SpecGraph.Proofs.Name.Denoted
import SpecGraph.Proofs.Manifest.Order
import SpecGraph.Proofs.Manifest.Changed
import SpecGraph.Proofs.Manifest.Renewed
import SpecGraph.Proofs.Session.Renewed
import SpecGraph.Proofs.World.Yields
import SpecGraph.Proofs.Session.Draft
import SpecGraph.Proofs.Session.Unfinished
import SpecGraph.Proofs.Foreign
import SpecGraph.Proofs.Document.Unread
import SpecGraph.Proofs.CommandLine.Escapes
import SpecGraph.Proofs.World.Inside
import SpecGraph.Proofs.Session.ReadBack
import SpecGraph.Proofs.World.Program
import SpecGraph.Proofs.World.Pending
import SpecGraph.Proofs.Session.Pending
