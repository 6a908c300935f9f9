import KeymapViewer.Text.Utf8
import KeymapViewer.Text.Quoted
import KeymapViewer.Fault
import KeymapViewer.Markup.Token
import KeymapViewer.Page.Style
import KeymapViewer.Page.Form
import KeymapViewer.Page.Template
import KeymapViewer.Query
import KeymapViewer.Handle
import KeymapViewer.Ledger
import KeymapViewer.Wasm.Section
import KeymapViewer.Wasm.Module
import KeymapViewer.Wasm.Validation
import KeymapViewer.Stub
import KeymapViewer.Wasm.Machine
import KeymapViewer.Wasm.Runtime
import KeymapViewer.HostFunction
import KeymapViewer.Client
import KeymapViewer.Settings
import KeymapViewer.Viewer
import KeymapViewer.Preview.ReloadScript
import KeymapViewer.Preview.FaultPage
import KeymapViewer.Preview.Audience
import KeymapViewer.Preview.Server
import KeymapViewer.Preview.Request
import KeymapViewer.Preview.Response
import KeymapViewer.Preview.Route
import KeymapViewer.Preview.Watch
import KeymapViewer.Console
import KeymapViewer.Preview.Session
import KeymapViewer.CommandLine.Command
import KeymapViewer.CommandLine.Arguments
import KeymapViewer.CommandLine.Help
import KeymapViewer.CommandLine.Run
import KeymapViewer.Main
import KeymapViewer.Proofs.Exchange.Perform
import KeymapViewer.Proofs.Exchange.Recorded
import KeymapViewer.Proofs.Exchange.Custody
import KeymapViewer.Proofs.Client.Request
import KeymapViewer.Proofs.Client.Custody
import KeymapViewer.Proofs.Client.Settled
import KeymapViewer.Proofs.Client.Startup
import KeymapViewer.Proofs.Client.Entry
import KeymapViewer.Proofs.Exchange.Dealings
import KeymapViewer.Proofs.Exchange.Sharing
import KeymapViewer.Proofs.Exchange.RoundTrip
import KeymapViewer.Proofs.Exchange.Overlap
import KeymapViewer.Proofs.Client.Returned
import KeymapViewer.Proofs.Client.Cause
import KeymapViewer.Proofs.Host.Cause
import KeymapViewer.Proofs.Stub.Borrow
import KeymapViewer.Proofs.Page.Around
import KeymapViewer.Proofs.Page.Cells
import KeymapViewer.Proofs.Page.Layout
import KeymapViewer.Proofs.Page.Growth
import KeymapViewer.Proofs.Page.Document
import KeymapViewer.Proofs.Page.Value
import KeymapViewer.Proofs.Page.Style
import KeymapViewer.Proofs.Page.WellFormed
import KeymapViewer.Proofs.Page.Edit
import KeymapViewer.Proofs.Markup.Attribute
import KeymapViewer.Proofs.Markup.Escape
import KeymapViewer.Proofs.Markup.Tag
import KeymapViewer.Proofs.Markup.Scan
import KeymapViewer.Proofs.Markup.Tidy
import KeymapViewer.Proofs.Markup.Settled
import KeymapViewer.Proofs.Markup.Legible
import KeymapViewer.Proofs.Markup.Canonical
import KeymapViewer.Proofs.Markup.Sealed
import KeymapViewer.Proofs.Markup.Faithful
import KeymapViewer.Proofs.Page.Reload
import KeymapViewer.Proofs.Page.Index
import KeymapViewer.Proofs.Handle.FreeList
import KeymapViewer.Proofs.Handle.History
import KeymapViewer.Proofs.Handle.Refinement
import KeymapViewer.Proofs.Handle.Values
import KeymapViewer.Proofs.Host.Steps
import KeymapViewer.Proofs.Host.Callback
import KeymapViewer.Proofs.Text.Utf8
import KeymapViewer.Proofs.Text.Cut
import KeymapViewer.Proofs.Memory.CText
import KeymapViewer.Proofs.Memory.Span
import KeymapViewer.Proofs.Wasm.Run
import KeymapViewer.Proofs.Wasm.Word
import KeymapViewer.Proofs.Wasm.Lawful
import KeymapViewer.Proofs.Wasm.Turn
import KeymapViewer.Proofs.Stub.Alloc
import KeymapViewer.Proofs.Stub.Echo
import KeymapViewer.Proofs.Stub.Start
import KeymapViewer.Proofs.Stub.Strings
import KeymapViewer.Proofs.Stub.EchoRender
import KeymapViewer.Proofs.Stub.EchoRun
import KeymapViewer.Proofs.Stub.SetMarkup
import KeymapViewer.Proofs.Stub.FillRender
import KeymapViewer.Proofs.Stub.Agreement
import KeymapViewer.Proofs.Markup.Position
import KeymapViewer.Proofs.Page.Position
import KeymapViewer.Proofs.Page.Addressed
import KeymapViewer.Proofs.Page.Fresh
import KeymapViewer.Proofs.Client.Secluded
import KeymapViewer.Proofs.Viewer.Frame
import KeymapViewer.Proofs.Viewer.Drawing
import KeymapViewer.Proofs.Stub.EchoViewer
import KeymapViewer.Proofs.Preview.History
import KeymapViewer.Proofs.Preview.Progress
import KeymapViewer.Proofs.Preview.Delivery
import KeymapViewer.Proofs.Preview.Interleaving
import KeymapViewer.Proofs.Preview.Source
import KeymapViewer.Proofs.Viewer.Layers
import KeymapViewer.Proofs.Viewer.Around
import KeymapViewer.Proofs.Viewer.Outcome
import KeymapViewer.Proofs.Query
import KeymapViewer.Proofs.Page.Radio
import KeymapViewer.Proofs.Viewer.BuiltIn
import KeymapViewer.Proofs.Viewer.Startup
import KeymapViewer.Proofs.Preview.Debounce
import KeymapViewer.Proofs.Markup.TagEnd
import KeymapViewer.Proofs.Page.Lens
import KeymapViewer.Proofs.Viewer.Spinner
import KeymapViewer.Proofs.Viewer.Switching
import KeymapViewer.Proofs.Handle.Reuse
import KeymapViewer.Proofs.Memory.Scan
import KeymapViewer.Proofs.Markup.Change
import KeymapViewer.Proofs.Page.Field
import KeymapViewer.Proofs.Exchange.Capacity
import KeymapViewer.Proofs.Memory.Bounds
import KeymapViewer.Proofs.Stub.Requests
import KeymapViewer.Proofs.Preview.FaultPage
import KeymapViewer.Proofs.Preview.Reloading
import KeymapViewer.Proofs.Host.Import
import KeymapViewer.Proofs.CommandLine.Page
import KeymapViewer.Proofs.CommandLine.Server
