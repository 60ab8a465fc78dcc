import ReleaseDesk.Client
import ReleaseDesk.Http.Binding
import ReleaseDesk.Main
import ReleaseDesk.Plugin.Roster
import ReleaseDesk.Service.Script
import ReleaseDesk.Vocabulary
import ReleaseDesk.Proofs.Text.Utf8
import ReleaseDesk.Proofs.Text.Numeral
import ReleaseDesk.Proofs.Binary64.Range
import ReleaseDesk.Proofs.Json.Number
import ReleaseDesk.Proofs.Json.Normal
import ReleaseDesk.Proofs.Json.Grammar
import ReleaseDesk.Proofs.Json.Reading
import ReleaseDesk.Proofs.Json.Acceptance
import ReleaseDesk.Proofs.Json.RoundTrip
import ReleaseDesk.Proofs.Timestamp
import ReleaseDesk.Proofs.Wire.Conveyance
import ReleaseDesk.Proofs.Wire.Alternative
import ReleaseDesk.Proofs.Supply
import ReleaseDesk.Proofs.Rpc.Envelope
import ReleaseDesk.Proofs.Rpc.Acceptance
import ReleaseDesk.Proofs.Protocol.Payload
import ReleaseDesk.Proofs.Service.Answer
import ReleaseDesk.Proofs.Service.Registry
import ReleaseDesk.Proofs.Service.Progress
import ReleaseDesk.Proofs.Service.Session
import ReleaseDesk.Proofs.Service.Loop
import ReleaseDesk.Proofs.Service.Renaming
import ReleaseDesk.Proofs.Stream.Pipe
import ReleaseDesk.Proofs.Stream.Segment
import ReleaseDesk.Proofs.Stream.Transcript
import ReleaseDesk.Proofs.Stream.Delivery
import ReleaseDesk.Proofs.Stream.Framing
import ReleaseDesk.Proofs.Stream.Wire
import ReleaseDesk.Proofs.Stream.Intake
import ReleaseDesk.Proofs.Stream.Output
import ReleaseDesk.Proofs.Stream.Isolation
import ReleaseDesk.Proofs.Release.Outcome
import ReleaseDesk.Proofs.Release.History
import ReleaseDesk.Proofs.Release.Publication
import ReleaseDesk.Proofs.Release.Republication
import ReleaseDesk.Proofs.Client.Correlation
import ReleaseDesk.Proofs.Client.Wires
import ReleaseDesk.Proofs.Client.Null
import ReleaseDesk.Proofs.Client.Remote
import ReleaseDesk.Proofs.Client.Operations
import ReleaseDesk.Proofs.Release.Arguments
import ReleaseDesk.Proofs.Release.Advance
import ReleaseDesk.Proofs.Release.Notes
import ReleaseDesk.Proofs.Client.Listening
import ReleaseDesk.Proofs.Service.Catalogue
import ReleaseDesk.Proofs.Release.Refusal
import ReleaseDesk.Proofs.Service.Invocation
import ReleaseDesk.Proofs.Service.Ruling
import ReleaseDesk.Proofs.Service.Classification
import ReleaseDesk.Proofs.Stream.Positional
import ReleaseDesk.Proofs.Plugin.Hook
import ReleaseDesk.Proofs.Release.Hooks
import ReleaseDesk.Proofs.Client.Typed
import ReleaseDesk.Proofs.Release.Schema
import ReleaseDesk.Proofs.Release.Advertised
import ReleaseDesk.Proofs.Service.Naming
import ReleaseDesk.Proofs.Service.Installation
import ReleaseDesk.Proofs.Release.Bump
import ReleaseDesk.Proofs.Release.Contents
import ReleaseDesk.Binary64
import ReleaseDesk.Client.Calls
import ReleaseDesk.Client.Router
import ReleaseDesk.Client.Stream
import ReleaseDesk.Config
import ReleaseDesk.Failure
import ReleaseDesk.Json
import ReleaseDesk.Json.Printer
import ReleaseDesk.Json.Reader
import ReleaseDesk.Plugin.Hook
import ReleaseDesk.Plugin.Tools
import ReleaseDesk.Program
import ReleaseDesk.Proofs.Release.Change
import ReleaseDesk.Proofs.Release.Version
import ReleaseDesk.Proofs.Service.Commuting
import ReleaseDesk.Proofs.Service.Interaction
import ReleaseDesk.Proofs.Service.Notice
import ReleaseDesk.Protocol.Call
import ReleaseDesk.Protocol.Catalogue
import ReleaseDesk.Protocol.Content
import ReleaseDesk.Protocol.Handshake
import ReleaseDesk.Protocol.Notice
import ReleaseDesk.Release.Adapter
import ReleaseDesk.Release.Tools
import ReleaseDesk.Release.Bump
import ReleaseDesk.Release.MemoryAdapter
import ReleaseDesk.Release.Server
import ReleaseDesk.Release.Steps
import ReleaseDesk.Rpc.Envelope
import ReleaseDesk.Service.Dispatch
import ReleaseDesk.Service.Registry
import ReleaseDesk.Service.Scene
import ReleaseDesk.Service.Session
import ReleaseDesk.SocketAddress
import ReleaseDesk.Stream.Channel
import ReleaseDesk.Stream.Server
import ReleaseDesk.Timestamp
import ReleaseDesk.Text.Encoding
import ReleaseDesk.Text.Scan
import ReleaseDesk.Text.Lowercase
import ReleaseDesk.Text.Quoted
import ReleaseDesk.Wire.Choice
import ReleaseDesk.Wire.Codec
import ReleaseDesk.Wire.Record
import ReleaseDesk.Proofs.Release.Backend
import ReleaseDesk.Proofs.Release.Recording
import ReleaseDesk.Proofs.Release.Parametric
import ReleaseDesk.Proofs.Release.Assembly
import ReleaseDesk.Proofs.Release.Failures
import ReleaseDesk.Proofs.Service.Filtering
import ReleaseDesk.Proofs.Service.Lifecycle
import ReleaseDesk.Proofs.Service.Persistence
import ReleaseDesk.Proofs.Service.Stateless
import ReleaseDesk.Proofs.Release.BackendCall
import ReleaseDesk.Proofs.Release.DryRun
import ReleaseDesk.Proofs.Release.InputEncoding
import ReleaseDesk.Proofs.Release.Progress
import ReleaseDesk.Proofs.Release.Refinement
import ReleaseDesk.Proofs.Client.Trace
import ReleaseDesk.Proofs.Http.Sequential
import ReleaseDesk.Proofs.Http.System
