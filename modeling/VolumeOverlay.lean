import VolumeOverlay.Binary64
import VolumeOverlay.Binary64.Shortest
import VolumeOverlay.CommandLine.Invocation
import VolumeOverlay.CommandLine.Options
import VolumeOverlay.CommandLine.Report
import VolumeOverlay.CommandLine.Run
import VolumeOverlay.Config
import VolumeOverlay.Config.File
import VolumeOverlay.Disk
import VolumeOverlay.Disk.DatabaseFile
import VolumeOverlay.Disk.Path
import VolumeOverlay.Document.Basic
import VolumeOverlay.Document.Json.Printer
import VolumeOverlay.Document.Json.Reader
import VolumeOverlay.Document.Toml.DateTime
import VolumeOverlay.Document.Toml.Fault
import VolumeOverlay.Document.Toml.Node
import VolumeOverlay.Document.Toml.Number
import VolumeOverlay.Document.Toml.Reader
import VolumeOverlay.Document.Toml.Rule
import VolumeOverlay.Document.Toml.Shape
import VolumeOverlay.Document.Toml.Table
import VolumeOverlay.Document.Toml.Text
import VolumeOverlay.Document.Toml.Value
import VolumeOverlay.Filter
import VolumeOverlay.KeyMap
import VolumeOverlay.Label
import VolumeOverlay.Main
import VolumeOverlay.OverlayId
import VolumeOverlay.Proofs.Actions
import VolumeOverlay.Proofs.Document.Json
import VolumeOverlay.Proofs.Document.Json.Number
import VolumeOverlay.Proofs.Document.Json.Text
import VolumeOverlay.Proofs.KeyMap
import VolumeOverlay.Proofs.Provider.Inventory
import VolumeOverlay.Proofs.Reconciler.ClientError
import VolumeOverlay.Proofs.Reconciler.DistinctSchedulers
import VolumeOverlay.Proofs.Reconciler.Encoding
import VolumeOverlay.Proofs.Reconciler.Invariant
import VolumeOverlay.Proofs.Reconciler.Mirroring
import VolumeOverlay.Proofs.Reconciler.OverlayMap
import VolumeOverlay.Proofs.Reconciler.ReadRepair
import VolumeOverlay.Proofs.Reconciler.ReadSafety
import VolumeOverlay.Proofs.Reconciler.Refinement
import VolumeOverlay.Proofs.Reconciler.Run
import VolumeOverlay.Proofs.Reconciler.StaleFields
import VolumeOverlay.Proofs.Store.Call
import VolumeOverlay.Proofs.Store.Categories
import VolumeOverlay.Proofs.Store.Convergence
import VolumeOverlay.Proofs.Store.FaultLog
import VolumeOverlay.Proofs.Store.Footprint
import VolumeOverlay.Proofs.Store.History
import VolumeOverlay.Proofs.Store.Index
import VolumeOverlay.Proofs.Store.Isolation
import VolumeOverlay.Proofs.Store.Key
import VolumeOverlay.Proofs.Store.Listing
import VolumeOverlay.Proofs.Store.Mirror
import VolumeOverlay.Proofs.Store.Noninterference
import VolumeOverlay.Proofs.Store.Opening
import VolumeOverlay.Proofs.Store.Reading
import VolumeOverlay.Proofs.Store.Record
import VolumeOverlay.Proofs.Store.Schedulers
import VolumeOverlay.Proofs.Store.Settled
import VolumeOverlay.Proofs.Store.Texts
import VolumeOverlay.Proofs.Text.Blank
import VolumeOverlay.Proofs.Text.Prefix
import VolumeOverlay.Proofs.Text.Utf8
import VolumeOverlay.Proofs.Volume
import VolumeOverlay.Provider.Basic
import VolumeOverlay.Provider.Inventory
import VolumeOverlay.Provider.Scripted
import VolumeOverlay.Reconciler.Basic
import VolumeOverlay.Reconciler.Command
import VolumeOverlay.Reconciler.Error
import VolumeOverlay.Session
import VolumeOverlay.Store.Backend
import VolumeOverlay.Store.Basic
import VolumeOverlay.Store.Category
import VolumeOverlay.Store.Command
import VolumeOverlay.Store.Error
import VolumeOverlay.Store.Key
import VolumeOverlay.Store.Labels
import VolumeOverlay.Store.Open
import VolumeOverlay.Store.RawBackend
import VolumeOverlay.Store.Record
import VolumeOverlay.Store.Schedulers
import VolumeOverlay.Store.Snapshot
import VolumeOverlay.Text.Blank
import VolumeOverlay.Text.Case
import VolumeOverlay.Text.Cut
import VolumeOverlay.Text.Decimal
import VolumeOverlay.Text.Excerpt
import VolumeOverlay.Text.Printable
import VolumeOverlay.Text.Quoted
import VolumeOverlay.Text.Utf8
import VolumeOverlay.Volume
import VolumeOverlay.Proofs.Store.Enumeration
import VolumeOverlay.Proofs.Store.RoundTrip
import VolumeOverlay.Proofs.Store.Loading
import VolumeOverlay.Proofs.Store.NestedLeaves
import VolumeOverlay.Proofs.Text.ByteOrder
import VolumeOverlay.Proofs.Store.PlainMap
import VolumeOverlay.Proofs.Reconciler.Removal
import VolumeOverlay.Proofs.Reconciler.Registration
import VolumeOverlay.Proofs.Text.Decimal
import VolumeOverlay.Proofs.Config
import VolumeOverlay.Proofs.Filter
import VolumeOverlay.Proofs.Provider.Initial
import VolumeOverlay.Proofs.Provider.Numbering
import VolumeOverlay.Proofs.Store.Schedulers.Algebra
import VolumeOverlay.Proofs.Store.Schedulers.Encoding
import VolumeOverlay.Proofs.Store.Segments
import VolumeOverlay.Proofs.Store.Failures
import VolumeOverlay.Proofs.Reconciler.AcceptedIds
