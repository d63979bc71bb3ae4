import WorkspaceServers.Answer.Handshake
import WorkspaceServers.Answer.Hover
import WorkspaceServers.Answer.Location
import WorkspaceServers.Answer.Symbols
import WorkspaceServers.Answer.UriReference
import WorkspaceServers.CommandLine.Arguments
import WorkspaceServers.CommandLine.Parser
import WorkspaceServers.CommandLine.Rehearsal
import WorkspaceServers.CommandLine.Run
import WorkspaceServers.CommandLine.Text
import WorkspaceServers.Config.Expand
import WorkspaceServers.Config.Load
import WorkspaceServers.Config.Settings
import WorkspaceServers.Duration
import WorkspaceServers.Environment
import WorkspaceServers.Failure
import WorkspaceServers.Frame.Header
import WorkspaceServers.Frame.Reader
import WorkspaceServers.Frame.Stream
import WorkspaceServers.Frame.Writer
import WorkspaceServers.Json.Basic
import WorkspaceServers.Json.Depth
import WorkspaceServers.Json.Numeral
import WorkspaceServers.Json.Parser
import WorkspaceServers.Json.Printer
import WorkspaceServers.Json.Record
import WorkspaceServers.Keyed.Basic
import WorkspaceServers.Keyed.Lemmas
import WorkspaceServers.Language
import WorkspaceServers.Launch.Context
import WorkspaceServers.Launch.Machine
import WorkspaceServers.Launch.Spec
import WorkspaceServers.Main
import WorkspaceServers.Number.Decimal
import WorkspaceServers.Number.Double
import WorkspaceServers.Number.Shortest
import WorkspaceServers.Path.Basic
import WorkspaceServers.Path.FileUri
import WorkspaceServers.Pending.Basic
import WorkspaceServers.Pending.Desk
import WorkspaceServers.Pending.Lemmas
import WorkspaceServers.Proofs.Frame.Heading
import WorkspaceServers.Proofs.Frame.Readings
import WorkspaceServers.Proofs.Frame.RoundTrip
import WorkspaceServers.Proofs.Frame.Writing
import WorkspaceServers.Proofs.Json.Lists
import WorkspaceServers.Proofs.Json.RoundTrip
import WorkspaceServers.Proofs.Json.Scalars
import WorkspaceServers.Proofs.Number.Digits
import WorkspaceServers.Proofs.Session.Lifecycle
import WorkspaceServers.Proofs.Session.Moves
import WorkspaceServers.Proofs.Transport.Correlation
import WorkspaceServers.Proofs.Transport.Ending
import WorkspaceServers.Proofs.Transport.Inbound
import WorkspaceServers.Proofs.Transport.Operations
import WorkspaceServers.Proofs.Transport.Runs
import WorkspaceServers.Proofs.Transport.Sound
import WorkspaceServers.Proofs.Transport.Steps
import WorkspaceServers.Proofs.Transport.Waits
import WorkspaceServers.Registry.Basic
import WorkspaceServers.Registry.Run
import WorkspaceServers.Rpc.Incoming
import WorkspaceServers.Rpc.Message
import WorkspaceServers.Rpc.ResponseError
import WorkspaceServers.Session.Basic
import WorkspaceServers.Session.Operation
import WorkspaceServers.Session.Options
import WorkspaceServers.Session.Run
import WorkspaceServers.Simulation.Calls
import WorkspaceServers.Simulation.Files
import WorkspaceServers.Simulation.Host
import WorkspaceServers.Simulation.Program
import WorkspaceServers.Simulation.Script
import WorkspaceServers.Simulation.Sessions
import WorkspaceServers.Simulation.Wire
import WorkspaceServers.Text.Blank
import WorkspaceServers.Text.Joining
import WorkspaceServers.Text.Pieces
import WorkspaceServers.Text.Quoted
import WorkspaceServers.Text.Unprintable
import WorkspaceServers.Text.Utf8.Basic
import WorkspaceServers.Text.Utf8.Lemmas
import WorkspaceServers.Toml.Document
import WorkspaceServers.Toml.Parser
import WorkspaceServers.Toml.Quoted
import WorkspaceServers.Toml.Scalar
import WorkspaceServers.Toml.Value
import WorkspaceServers.Transport.Basic
import WorkspaceServers.Transport.Run
import WorkspaceServers.Workspace.Document
import WorkspaceServers.Workspace.Key
import WorkspaceServers.Workspace.Storage
import WorkspaceServers.Pending.Run
import WorkspaceServers.Proofs.Pending.History
import WorkspaceServers.Proofs.Pending.Operations
import WorkspaceServers.Proofs.Pending.Following
import WorkspaceServers.Proofs.Pending.Exactness
import WorkspaceServers.Proofs.Registry.Operations
import WorkspaceServers.Proofs.Registry.Runs
import WorkspaceServers.Proofs.Registry.Mapping
import WorkspaceServers.Proofs.Frame.Limits
import WorkspaceServers.Proofs.Frame.Tears
import WorkspaceServers.Proofs.Transport.Outbound
import WorkspaceServers.Proofs.Transport.Slots
import WorkspaceServers.Proofs.Session.Speaking
import WorkspaceServers.Proofs.Workspace.Document
import WorkspaceServers.Proofs.CommandLine.Rehearsing
import WorkspaceServers.Proofs.CommandLine.Plan
import WorkspaceServers.Proofs.CommandLine.Conversation
import WorkspaceServers.Proofs.Transport.Replies
import WorkspaceServers.Proofs.CommandLine.Trace
import WorkspaceServers.Proofs.Text.WellFormed
import WorkspaceServers.Proofs.Text.Cutting
import WorkspaceServers.Proofs.Frame.Grammar
import WorkspaceServers.Proofs.Frame.Blocks
import WorkspaceServers.Proofs.Frame.Acceptance
import WorkspaceServers.Proofs.Frame.Resumption
import WorkspaceServers.Proofs.Transport.Stopping
import WorkspaceServers.Proofs.Session.Order
import WorkspaceServers.Proofs.Path.Composition
import WorkspaceServers.Proofs.Workspace.Containment
import WorkspaceServers.Proofs.Frame.Delivery
import WorkspaceServers.Proofs.Session.Preparing
import WorkspaceServers.Proofs.Session.Launching
import WorkspaceServers.Proofs.Transport.Attention
import WorkspaceServers.Proofs.Session.Waiting
import WorkspaceServers.Proofs.Session.Stopping
import WorkspaceServers.Registry.Sweep
import WorkspaceServers.Proofs.Registry.Trails
import WorkspaceServers.Proofs.Registry.Sweeping
import WorkspaceServers.Proofs.Path.Percent
import WorkspaceServers.Proofs.Path.Spelling
import WorkspaceServers.Proofs.Session.Identification
import WorkspaceServers.Proofs.Workspace.Keys
import WorkspaceServers.Proofs.Workspace.Sources
import WorkspaceServers.Proofs.Transport.Outcomes
import WorkspaceServers.Proofs.Session.Serving
import WorkspaceServers.Proofs.Session.Grounds
import WorkspaceServers.Proofs.Session.Returning
import WorkspaceServers.Proofs.Session.Unserved
import WorkspaceServers.Proofs.Registry.Sheltering
import WorkspaceServers.Proofs.Launch.Precedence
import WorkspaceServers.Proofs.Rpc.Members
import WorkspaceServers.Proofs.Rpc.Classification
import WorkspaceServers.Proofs.Transport.Answering
import WorkspaceServers.Proofs.Text.Slices
import WorkspaceServers.Proofs.Config.References
import WorkspaceServers.Proofs.Config.Expansion
import WorkspaceServers.Proofs.Registry.Separation
import WorkspaceServers.Proofs.Config.Texts
import WorkspaceServers.Proofs.Answer.Records
import WorkspaceServers.Proofs.Answer.Definitions
import WorkspaceServers.Proofs.Workspace.Telling
import WorkspaceServers.Proofs.CommandLine.Breaking
import WorkspaceServers.Proofs.Path.Extension
import WorkspaceServers.Proofs.Workspace.Languages
import WorkspaceServers.Proofs.Session.Opening
import WorkspaceServers.Proofs.Answer.Capabilities
