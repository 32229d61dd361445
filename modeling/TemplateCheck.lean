import TemplateCheck.Config
import TemplateCheck.Decimal.Binary64
import TemplateCheck.Decimal.Shortest
import TemplateCheck.Decode
import TemplateCheck.Diagnostic
import TemplateCheck.Engine.Basic
import TemplateCheck.Engine.Directive
import TemplateCheck.Engine.Scripted
import TemplateCheck.Failure
import TemplateCheck.FileSystem.Basic
import TemplateCheck.FileSystem.Edit
import TemplateCheck.Frame
import TemplateCheck.Json.Basic
import TemplateCheck.Json.Parser
import TemplateCheck.Json.Printer
import TemplateCheck.Locate
import TemplateCheck.Ordered
import TemplateCheck.Package.Glob
import TemplateCheck.Package.Layout
import TemplateCheck.Package.Root
import TemplateCheck.Package.Sources
import TemplateCheck.Pass.Basic
import TemplateCheck.Pass.Run
import TemplateCheck.Pass.Stages
import TemplateCheck.Path
import TemplateCheck.Pool
import TemplateCheck.Proofs.Decode.Slots
import TemplateCheck.Proofs.Diagnostic.Order
import TemplateCheck.Proofs.Diagnostic.Wire
import TemplateCheck.Proofs.Engine.Maps
import TemplateCheck.Proofs.Engine.Shelf
import TemplateCheck.Proofs.Engine.Texts
import TemplateCheck.Proofs.Engine.Units
import TemplateCheck.Proofs.FileSystem.Lookup
import TemplateCheck.Proofs.FileSystem.Missing
import TemplateCheck.Proofs.FileSystem.Tree
import TemplateCheck.Proofs.Frame.Chunks
import TemplateCheck.Proofs.Frame.Grammar
import TemplateCheck.Proofs.Frame.Progress
import TemplateCheck.Proofs.Frame.RoundTrip
import TemplateCheck.Proofs.History
import TemplateCheck.Proofs.Increasing
import TemplateCheck.Proofs.Json.Keys
import TemplateCheck.Proofs.Json.RoundTrip
import TemplateCheck.Proofs.Locate.Ranges
import TemplateCheck.Proofs.Locate.Verbose
import TemplateCheck.Proofs.Members
import TemplateCheck.Proofs.Ordered
import TemplateCheck.Proofs.Package.Classification
import TemplateCheck.Proofs.Package.Discovery
import TemplateCheck.Proofs.Package.Manifest
import TemplateCheck.Proofs.Package.Nearest
import TemplateCheck.Proofs.Package.Pattern
import TemplateCheck.Proofs.Package.Rules
import TemplateCheck.Proofs.Package.Search
import TemplateCheck.Proofs.Package.Validation
import TemplateCheck.Proofs.Pass.Approach
import TemplateCheck.Proofs.Pass.Course
import TemplateCheck.Proofs.Pass.Dispatch
import TemplateCheck.Proofs.Pass.Findings
import TemplateCheck.Proofs.Pass.Footprint
import TemplateCheck.Proofs.Pass.LiveGrammar
import TemplateCheck.Proofs.Pass.LiveText
import TemplateCheck.Proofs.Pass.Pruning
import TemplateCheck.Proofs.Pass.Recall
import TemplateCheck.Proofs.Pass.Record
import TemplateCheck.Proofs.Pass.Registration
import TemplateCheck.Proofs.Pass.Review
import TemplateCheck.Proofs.Pass.Steady
import TemplateCheck.Proofs.Pass.Supply
import TemplateCheck.Proofs.Path.Absolute
import TemplateCheck.Proofs.Path.Climb
import TemplateCheck.Proofs.Path.Inside
import TemplateCheck.Proofs.Path.Order
import TemplateCheck.Proofs.Pool.Alone
import TemplateCheck.Proofs.Pool.Conduct
import TemplateCheck.Proofs.Pool.Confined
import TemplateCheck.Proofs.Pool.Dispatch
import TemplateCheck.Proofs.Pool.Errands
import TemplateCheck.Proofs.Pool.Handles
import TemplateCheck.Proofs.Pool.Law
import TemplateCheck.Proofs.Pool.Ledger
import TemplateCheck.Proofs.Pool.Locks
import TemplateCheck.Proofs.Pool.Passes
import TemplateCheck.Proofs.Pool.Progress
import TemplateCheck.Proofs.Pool.Refusals
import TemplateCheck.Proofs.Pool.Reports
import TemplateCheck.Proofs.Pool.StaleMarkers
import TemplateCheck.Proofs.Pool.Supersession
import TemplateCheck.Proofs.Pool.Tickets
import TemplateCheck.Proofs.Pool.Turns
import TemplateCheck.Proofs.Pool.Visits
import TemplateCheck.Proofs.Report.Calls
import TemplateCheck.Proofs.Roots.Bookkeeping
import TemplateCheck.Proofs.Roots.Custody
import TemplateCheck.Proofs.Roots.Filing
import TemplateCheck.Proofs.Roots.Recency
import TemplateCheck.Proofs.Roots.Records
import TemplateCheck.Proofs.Server.Drain
import TemplateCheck.Proofs.Server.Moves
import TemplateCheck.Proofs.Session.Conversation
import TemplateCheck.Proofs.Session.Documents
import TemplateCheck.Proofs.Session.EditOrder
import TemplateCheck.Proofs.Session.Initialize
import TemplateCheck.Proofs.Text.Blank
import TemplateCheck.Proofs.Text.ByteOrder
import TemplateCheck.Proofs.Text.Utf8
import TemplateCheck.Proofs.Toml.Tables
import TemplateCheck.Proofs.Uri.Keys
import TemplateCheck.Proofs.Uri.Percent
import TemplateCheck.Proofs.Uri.Places
import TemplateCheck.Proofs.Uri.RoundTrip
import TemplateCheck.Proofs.Uri.Text
import TemplateCheck.Report
import TemplateCheck.Roots.Cache
import TemplateCheck.Roots.Handle
import TemplateCheck.Server
import TemplateCheck.Session.Basic
import TemplateCheck.Session.Message
import TemplateCheck.Settings
import TemplateCheck.Text.Blank
import TemplateCheck.Text.Printable
import TemplateCheck.Text.Quoted
import TemplateCheck.Text.Utf8
import TemplateCheck.Toml.Document
import TemplateCheck.Toml.Scalar
import TemplateCheck.Toml.Syntax
import TemplateCheck.Uri.Basic
import TemplateCheck.Uri.Host
import TemplateCheck.Uri.Parser
