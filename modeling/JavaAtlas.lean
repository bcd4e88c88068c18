import JavaAtlas.CallGraph.Archive
import JavaAtlas.CallGraph.Binding
import JavaAtlas.CallGraph.Call
import JavaAtlas.CallGraph.Database
import JavaAtlas.CallGraph.DumpLine
import JavaAtlas.CallGraph.Ingest
import JavaAtlas.CallGraph.Location
import JavaAtlas.CallGraph.Query
import JavaAtlas.CallGraph.Store
import JavaAtlas.CallGraph.Wildcard
import JavaAtlas.CommandLine.Command
import JavaAtlas.CommandLine.Run
import JavaAtlas.CommandLine.Shape
import JavaAtlas.CommandLine.Usage
import JavaAtlas.Config
import JavaAtlas.Disk.Basic
import JavaAtlas.Disk.Change
import JavaAtlas.Disk.Fault
import JavaAtlas.Disk.Node
import JavaAtlas.Disk.Path
import JavaAtlas.Failure
import JavaAtlas.Index.Build
import JavaAtlas.Index.Load
import JavaAtlas.Index.Persist
import JavaAtlas.Index.Query
import JavaAtlas.Index.Question
import JavaAtlas.Index.Shard
import JavaAtlas.Index.Store
import JavaAtlas.Java.Declaration
import JavaAtlas.Java.Grammar
import JavaAtlas.Java.Masking
import JavaAtlas.Java.Modifier
import JavaAtlas.Java.Source
import JavaAtlas.Java.TypeName
import JavaAtlas.Json.Printer
import JavaAtlas.Json.Reader
import JavaAtlas.Json.Value
import JavaAtlas.Main
import JavaAtlas.Number.Binary64
import JavaAtlas.Number.Rounded
import JavaAtlas.Number.Shortest
import JavaAtlas.Ordered
import JavaAtlas.Pattern.Basic
import JavaAtlas.Pattern.Search
import JavaAtlas.Proofs.Action
import JavaAtlas.Proofs.CallGraph.Batches
import JavaAtlas.Proofs.Disk.Effects
import JavaAtlas.Proofs.Disk.Lookup
import JavaAtlas.Proofs.Disk.Tree
import JavaAtlas.Proofs.Index.Answers
import JavaAtlas.Proofs.Index.Files
import JavaAtlas.Proofs.Index.Format
import JavaAtlas.Proofs.Index.History
import JavaAtlas.Proofs.Index.Interrupted
import JavaAtlas.Proofs.Index.Job
import JavaAtlas.Proofs.Index.Leftovers
import JavaAtlas.Proofs.Index.Listed
import JavaAtlas.Proofs.Index.Packages
import JavaAtlas.Proofs.Index.Rebuild
import JavaAtlas.Proofs.Index.Recorded
import JavaAtlas.Proofs.Index.Retrieval
import JavaAtlas.Proofs.Index.Sources
import JavaAtlas.Proofs.Index.Store
import JavaAtlas.Proofs.Index.Writing
import JavaAtlas.Proofs.Java.Names
import JavaAtlas.Proofs.Json.RoundTrip
import JavaAtlas.Proofs.Ordered
import JavaAtlas.Proofs.Pattern.Leads
import JavaAtlas.Proofs.Text.Codec
import JavaAtlas.Proofs.Text.Order
import JavaAtlas.Proofs.Workspace
import JavaAtlas.Text.Blank
import JavaAtlas.Text.CharSet
import JavaAtlas.Text.Digit
import JavaAtlas.Text.Integer
import JavaAtlas.Text.Lines
import JavaAtlas.Text.Lowercase
import JavaAtlas.Text.Order
import JavaAtlas.Text.Printable
import JavaAtlas.Text.Quoted
import JavaAtlas.Text.Search
import JavaAtlas.Text.Utf8
import JavaAtlas.Text.Word
import JavaAtlas.Tools.Answer
import JavaAtlas.Tools.Catalog
import JavaAtlas.Tools.Request
import JavaAtlas.Tools.Service
import JavaAtlas.Tools.Together
import JavaAtlas.Proofs.CallGraph.Counts
import JavaAtlas.Proofs.Disk.Directories
import JavaAtlas.Proofs.CallGraph.Database
import JavaAtlas.Proofs.CallGraph.Ingest
import JavaAtlas.Proofs.CallGraph.AllOrNothing
import JavaAtlas.Proofs.CallGraph.Answers
import JavaAtlas.Proofs.Java.Fields
import JavaAtlas.Proofs.Java.Methods
import JavaAtlas.Proofs.Index.Memory
import JavaAtlas.Proofs.Tools.Current
import JavaAtlas.Proofs.Tools.Corrupt
import JavaAtlas.Proofs.CommandLine.Commands
import JavaAtlas.Proofs.Tools.MissingSources
import JavaAtlas.Proofs.CallGraph.Placed
import JavaAtlas.Proofs.CommandLine.Status
import JavaAtlas.Proofs.Java.ReadBack
import JavaAtlas.Proofs.CallGraph.References
import JavaAtlas.Proofs.CallGraph.DumpLines
import JavaAtlas.Proofs.Index.RoundTrip
import JavaAtlas.Proofs.Index.Transparent
import JavaAtlas.Proofs.CallGraph.Sessions
import JavaAtlas.Proofs.Disk.Proper
import JavaAtlas.Proofs.Disk.Spares
import JavaAtlas.Proofs.Index.Malformed
import JavaAtlas.Proofs.Index.Settled
import JavaAtlas.Proofs.Index.Again
import JavaAtlas.Proofs.Tools.Steps
import JavaAtlas.Proofs.Tools.Phases
import JavaAtlas.Proofs.Tools.Recovery
import JavaAtlas.Proofs.Tools.SingleFlight
import JavaAtlas.Proofs.Index.Overflowing
import JavaAtlas.Proofs.Index.Searches
import JavaAtlas.Proofs.Java.Signatures
import JavaAtlas.Proofs.Index.Excerpts
import JavaAtlas.Proofs.Index.Collected
import JavaAtlas.Proofs.Java.ReturnTypes
import JavaAtlas.Proofs.Java.Pieces
import JavaAtlas.Proofs.CallGraph.Searches
import JavaAtlas.Proofs.Index.Reloaded
import JavaAtlas.Proofs.Index.Segments
import JavaAtlas.Proofs.Java.Parameters
import JavaAtlas.Proofs.Disk.Standing
import JavaAtlas.Proofs.CommandLine.Home
import JavaAtlas.Proofs.CommandLine.Rebuild
import JavaAtlas.Proofs.Text.Words
import JavaAtlas.Proofs.Java.Cuts
import JavaAtlas.Proofs.Java.BlockEnds
import JavaAtlas.Proofs.Java.BareNames
import JavaAtlas.Proofs.Java.RecordedModifiers
