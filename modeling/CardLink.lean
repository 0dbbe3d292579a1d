import CardLink.Agenda
import CardLink.Card.Apdu
import CardLink.Card.Event
import CardLink.Card.Exchange
import CardLink.Card.Handshake
import CardLink.Config.Basic
import CardLink.Config.Source
import CardLink.Duration
import CardLink.Engine
import CardLink.Envelope.Basic
import CardLink.Envelope.Exception
import CardLink.Envelope.Wire
import CardLink.Error
import CardLink.Json.Decode
import CardLink.Json.Fault
import CardLink.Json.Outline
import CardLink.Json.Reader
import CardLink.Json.Record
import CardLink.Json.Value
import CardLink.Json.Writer
import CardLink.Method
import CardLink.Metrics
import CardLink.Network.Action
import CardLink.Network.Basic
import CardLink.Network.Call
import CardLink.Network.Run
import CardLink.Node.Basic
import CardLink.Node.Dispatch
import CardLink.Number.Binary
import CardLink.Number.Power
import CardLink.Number.Shortest
import CardLink.Observer.Audience
import CardLink.Observer.List
import CardLink.Plugin
import CardLink.Proofs.Engine.History
import CardLink.Proofs.Engine.Invariant
import CardLink.Proofs.Trace
import CardLink.Reader.Basic
import CardLink.Reader.Monitor
import CardLink.Reader.Operation
import CardLink.ReaderName
import CardLink.Report.Failure
import CardLink.Report.Label
import CardLink.Report.View
import CardLink.Session
import CardLink.Slave.Basic
import CardLink.Slave.Card
import CardLink.Table
import CardLink.Text.Blank
import CardLink.Text.Hex
import CardLink.Text.Quoted
import CardLink.Toml.Document
import CardLink.Toml.Scalar
import CardLink.Toml.Text
import CardLink.Transport.Hub
import CardLink.Transport.Outbox
import CardLink.Proofs.Engine.Correlation
import CardLink.Proofs.Engine.SharedId
import CardLink.Proofs.Names
import CardLink.Proofs.Plugin.Registry
import CardLink.Proofs.Plugin.Lifecycle
import CardLink.Proofs.Json.Codec
import CardLink.Proofs.Card.Bodies
import CardLink.Proofs.Envelope.Wire
import CardLink.Proofs.Agenda
import CardLink.Proofs.Network.Scheduling
import CardLink.Proofs.Network.Stage
import CardLink.Proofs.Network.Turns
import CardLink.Proofs.Engine.Idle
import CardLink.Proofs.Virtual.Backlog
import CardLink.Proofs.Virtual.Local
import CardLink.Proofs.Virtual.Exchange
import CardLink.Proofs.Virtual.Announce
import CardLink.Proofs.Virtual.Desk
import CardLink.Proofs.Virtual.Mirror
import CardLink.Proofs.Virtual.Transparency
import CardLink.Proofs.Engine.Budget
import CardLink.Proofs.Plugin.Traffic
import CardLink.Proofs.Plugin.Presence
import CardLink.Proofs.Plugin.Monitoring
import CardLink.Proofs.Reader.Changes
import CardLink.Proofs.Reader.Positions
import CardLink.Proofs.Plugin.Watching
import CardLink.Proofs.Plugin.Transitions
import CardLink.Proofs.Node.Dispatch
import CardLink.Proofs.Node.Routing
import CardLink.Proofs.Envelope.Exception
import CardLink.Proofs.Node.Handshake
import CardLink.Proofs.Node.LostReply
import CardLink.Proofs.Network.Polling
import CardLink.Proofs.Network.Supervision
import CardLink.Proofs.Card.RoundTrip
import CardLink.Proofs.Engine.Replies
import CardLink.Proofs.Network.Calls
import CardLink.Proofs.Network.Operation
import CardLink.Proofs.Network.Bystanders
import CardLink.Proofs.Network.Transmission
import CardLink.Proofs.Engine.Pace
import CardLink.Proofs.Network.Bench
import CardLink.Proofs.Network.Launching
import CardLink.Proofs.Network.Quiescence
import CardLink.Proofs.Network.Inquiry
import CardLink.Proofs.Network.Timing
import CardLink.Proofs.Observer.Passive
import CardLink.Proofs.Observer.Course
import CardLink.Proofs.Observer.Order
import CardLink.Proofs.Node.Isolation
import CardLink.Proofs.Slave.Frame
import CardLink.Proofs.Transport.Run
import CardLink.Proofs.Transport.Delivery
import CardLink.Proofs.Transport.Detachment
import CardLink.Proofs.Node.Statistics
import CardLink.Proofs.Node.Failure
import CardLink.Proofs.Node.Hearsay
import CardLink.Proofs.Network.Drift
import CardLink.Proofs.Network.Interleaving
import CardLink.Proofs.Network.Schedule
import CardLink.Proofs.Virtual.Appeal
import CardLink.Proofs.Virtual.Deeds
import CardLink.Proofs.Virtual.Agreement
import CardLink.Proofs.Virtual.Arrival
import CardLink.Proofs.Metrics.Histogram
import CardLink.Proofs.Metrics.Fleet
import CardLink.Proofs.Network.Metering
import CardLink.Proofs.Observer.Snapshot
import CardLink.Proofs.Json.Grammar
import CardLink.Proofs.Json.Recognition
import CardLink.Proofs.Json.Rewording
import CardLink.Proofs.Json.Fields
import CardLink.Proofs.Envelope.Acceptance
