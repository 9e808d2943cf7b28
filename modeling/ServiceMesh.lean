import ServiceMesh.Address
import ServiceMesh.Address.Socket
import ServiceMesh.Binding
import ServiceMesh.Cache
import ServiceMesh.Cache.Session
import ServiceMesh.Codec
import ServiceMesh.Codec.Envelope
import ServiceMesh.Connection.Basic
import ServiceMesh.Connection.Call
import ServiceMesh.Connection.Link
import ServiceMesh.Connection.Receive
import ServiceMesh.Connection.Serve
import ServiceMesh.Connection.Stream
import ServiceMesh.Decimal.Literal
import ServiceMesh.Decimal.Nearest
import ServiceMesh.Decimal.Shortest
import ServiceMesh.Description
import ServiceMesh.Description.Part
import ServiceMesh.Dict
import ServiceMesh.Dispatcher
import ServiceMesh.Endpoint
import ServiceMesh.Error
import ServiceMesh.Flow.Reply
import ServiceMesh.Flow.Source
import ServiceMesh.Frame
import ServiceMesh.Frame.BigEndian
import ServiceMesh.Frame.Reader
import ServiceMesh.Json.Basic
import ServiceMesh.Json.Parser
import ServiceMesh.Json.Printer
import ServiceMesh.Message
import ServiceMesh.Mode
import ServiceMesh.Random.Generator
import ServiceMesh.Registry
import ServiceMesh.Registry.Directory
import ServiceMesh.Report
import ServiceMesh.Routing
import ServiceMesh.Routing.Weight
import ServiceMesh.Sample.Description
import ServiceMesh.Sample.Handlers
import ServiceMesh.Sample.Network
import ServiceMesh.Sample.Rehearsal
import ServiceMesh.Sample.Tagged
import ServiceMesh.Sample.Value
import ServiceMesh.Server
import ServiceMesh.Server.Overlap
import ServiceMesh.Service
import ServiceMesh.ServiceCall
import ServiceMesh.ServiceCall.Traffic
import ServiceMesh.Stub
import ServiceMesh.Table
import ServiceMesh.Text.Printable
import ServiceMesh.Text.Quoted
import ServiceMesh.Text.Split
import ServiceMesh.Text.Unsigned
import ServiceMesh.Text.Utf8
import ServiceMesh.Transport
import ServiceMesh.Transport.Outage
import ServiceMesh.Wire
import ServiceMesh.Wire.Mismatch
import ServiceMesh.Wire.Record
import ServiceMesh.Proofs.Connection.History
import ServiceMesh.Proofs.Connection.Wiring
import ServiceMesh.Proofs.Connection.Separation
import ServiceMesh.Proofs.Connection.Streams
import ServiceMesh.Proofs.Connection.Posting
import ServiceMesh.Proofs.Connection.Delivery
import ServiceMesh.Proofs.Connection.Replies
import ServiceMesh.Proofs.Connection.Identity
import ServiceMesh.Proofs.Connection.Status
import ServiceMesh.Proofs.Connection.Trace
import ServiceMesh.Proofs.Connection.Answers
import ServiceMesh.Proofs.Connection.Producers
import ServiceMesh.Proofs.Connection.Supply
import ServiceMesh.Proofs.Connection.Exchange
import ServiceMesh.Proofs.Connection.Hearing
import ServiceMesh.Proofs.Link.Sides
import ServiceMesh.Proofs.Link.Calls
import ServiceMesh.Proofs.Link.Order
import ServiceMesh.Proofs.Connection.Counts
import ServiceMesh.Proofs.Link.Credit
import ServiceMesh.Proofs.Link.Stall
import ServiceMesh.Proofs.Connection.Serving
import ServiceMesh.Proofs.Connection.Closing
import ServiceMesh.Proofs.Connection.Flooding
import ServiceMesh.Proofs.Connection.Starting
import ServiceMesh.Proofs.Connection.Cancelling
import ServiceMesh.Proofs.Connection.Revoking
import ServiceMesh.Proofs.Link.Release
import ServiceMesh.Proofs.Binding
import ServiceMesh.Proofs.Dict
import ServiceMesh.Proofs.Address
import ServiceMesh.Proofs.Server.Overlap
import ServiceMesh.Proofs.Cache.Entries
import ServiceMesh.Proofs.Cache.Sharing
import ServiceMesh.Proofs.ServiceCall.Traffic
import ServiceMesh.Proofs.ServiceCall.Eviction
import ServiceMesh.Proofs.ServiceCall.Bypass
import ServiceMesh.Proofs.ServiceCall.Channels
import ServiceMesh.Proofs.ServiceCall.Isolation
import ServiceMesh.Proofs.ServiceCall.Stubs
import ServiceMesh.Proofs.Json.Reading
import ServiceMesh.Proofs.Message.Headers
import ServiceMesh.Proofs.Message.Drafts
import ServiceMesh.Proofs.Codec.Envelope
import ServiceMesh.Proofs.Codec.RoundTrip
import ServiceMesh.Proofs.Codec.Meaning
import ServiceMesh.Proofs.Codec.Json
import ServiceMesh.Proofs.Frame.Reading
import ServiceMesh.Proofs.Frame.Sequence
import ServiceMesh.Proofs.Frame.Grammar
import ServiceMesh.Proofs.Flow.Signals
import ServiceMesh.Proofs.Flow.Pulls
import ServiceMesh.Proofs.Flow.Guarding
import ServiceMesh.Proofs.Flow.Likeness
import ServiceMesh.Proofs.Registry.Index
import ServiceMesh.Proofs.Registry.History
import ServiceMesh.Proofs.Routing.Turns
import ServiceMesh.Proofs.Routing.Tags
import ServiceMesh.Proofs.Routing.Classes
import ServiceMesh.Proofs.Routing.Shares
import ServiceMesh.Proofs.Routing.Acceptance
import ServiceMesh.Proofs.Dispatch.Table
import ServiceMesh.Proofs.Dispatch.Building
import ServiceMesh.Proofs.Dispatch.Registrations
import ServiceMesh.Proofs.Dispatch.Modes
import ServiceMesh.Proofs.Dispatch.Streaming
import ServiceMesh.Proofs.Dispatch.Announcing
import ServiceMesh.Proofs.Dispatch.Functional
import ServiceMesh.Proofs.Dispatch.Call
import ServiceMesh.Proofs.Connection.Opening
import ServiceMesh.Proofs.Connection.Requests
import ServiceMesh.Proofs.Connection.Finishing
import ServiceMesh.Proofs.Connection.Channels
import ServiceMesh.Proofs.Connection.Asking
import ServiceMesh.Proofs.Link.Transfer
import ServiceMesh.Proofs.Link.Placing
import ServiceMesh.Proofs.Link.Agreement
import ServiceMesh.Proofs.ServiceCall.Isolation
