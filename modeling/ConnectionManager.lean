import ConnectionManager.Bus.Basic
import ConnectionManager.Bus.Names
import ConnectionManager.Catalog
import ConnectionManager.Channel.Basic
import ConnectionManager.Channel.Factory
import ConnectionManager.Channel.Queue
import ConnectionManager.Channel.Reply
import ConnectionManager.Config.Basic
import ConnectionManager.Config.Reader
import ConnectionManager.Connection.Basic
import ConnectionManager.Connection.Channels
import ConnectionManager.Connection.Handles
import ConnectionManager.Connection.Lifecycle
import ConnectionManager.Datum.Basic
import ConnectionManager.Datum.Calls
import ConnectionManager.Datum.Channels
import ConnectionManager.Datum.Protocols
import ConnectionManager.Datum.Rehearsals
import ConnectionManager.Datum.Rosters
import ConnectionManager.Datum.Settings
import ConnectionManager.Datum.Values
import ConnectionManager.Failure
import ConnectionManager.Files
import ConnectionManager.Handle.Basic
import ConnectionManager.Handle.Batch
import ConnectionManager.Handle.Dynamic
import ConnectionManager.Handle.Fixed
import ConnectionManager.Handle.Members
import ConnectionManager.Handle.Repository
import ConnectionManager.Journal
import ConnectionManager.KeyFile.Basic
import ConnectionManager.KeyFile.Codec
import ConnectionManager.KeyFile.Reader
import ConnectionManager.KeyFile.Writer
import ConnectionManager.Logging
import ConnectionManager.Manager.Basic
import ConnectionManager.Manager.Service
import ConnectionManager.Manager.Shutdown
import ConnectionManager.Manifest.Basic
import ConnectionManager.Manifest.Reader
import ConnectionManager.Manifest.Search
import ConnectionManager.Manifest.Writer
import ConnectionManager.Number.Decimal
import ConnectionManager.Number.Double
import ConnectionManager.Number.DoubleText
import ConnectionManager.Number.Shortest
import ConnectionManager.Number.Word
import ConnectionManager.ObjectPath
import ConnectionManager.Protocol.Descriptor
import ConnectionManager.Protocol.Name
import ConnectionManager.Protocol.Parameter
import ConnectionManager.Protocol.Properties
import ConnectionManager.Protocol.Validation
import ConnectionManager.Rehearsal.Backend
import ConnectionManager.Rehearsal.Identifiers
import ConnectionManager.Rehearsal.Rules
import ConnectionManager.Rehearsal.Script
import ConnectionManager.Rehearsal.Session
import ConnectionManager.Rehearsal.StandIn
import ConnectionManager.Roster.Backend
import ConnectionManager.Roster.Basic
import ConnectionManager.Roster.Groups
import ConnectionManager.Roster.Lists
import ConnectionManager.Roster.Notifications
import ConnectionManager.Roster.Requests
import ConnectionManager.Roster.View
import ConnectionManager.Roster.Writes
import ConnectionManager.Signals
import ConnectionManager.Status
import ConnectionManager.Text.Blank
import ConnectionManager.Text.Bytes
import ConnectionManager.Text.Identifier
import ConnectionManager.Text.Invisible
import ConnectionManager.Text.Quoted
import ConnectionManager.Text.Split
import ConnectionManager.Toml.Basic
import ConnectionManager.Toml.Lexeme
import ConnectionManager.Toml.Reader
import ConnectionManager.Value.Access
import ConnectionManager.Value.Basic
import ConnectionManager.Value.Literal
import ConnectionManager.Proofs.Failure
import ConnectionManager.Proofs.Catalog
import ConnectionManager.Proofs.Text.Identifier
import ConnectionManager.Proofs.Text.Split
import ConnectionManager.Proofs.Handle.Numbering
import ConnectionManager.Proofs.Handle.Operations
import ConnectionManager.Proofs.Handle.Coherence
import ConnectionManager.Proofs.Handle.History
import ConnectionManager.Proofs.Handle.Ledger
import ConnectionManager.Proofs.Handle.Forms
import ConnectionManager.Proofs.Handle.Steps
import ConnectionManager.Proofs.Handle.Lifetimes
import ConnectionManager.Proofs.Handle.Shares
import ConnectionManager.Proofs.Handle.Batches
import ConnectionManager.Proofs.Handle.Repositories
import ConnectionManager.Proofs.Handle.Claims
import ConnectionManager.Proofs.Handle.Counts
import ConnectionManager.Proofs.Handle.Dealings
import ConnectionManager.Proofs.Handle.Endings
import ConnectionManager.Proofs.Bus.Claims
import ConnectionManager.Proofs.Connection.Service
import ConnectionManager.Proofs.Connection.Calls
import ConnectionManager.Proofs.Connection.Shutdown
import ConnectionManager.Proofs.Connection.Replies
import ConnectionManager.Proofs.Connection.Lifecycle
import ConnectionManager.Proofs.Connection.Course
import ConnectionManager.Proofs.Connection.Repositories
import ConnectionManager.Proofs.Connection.Batches
import ConnectionManager.Proofs.Connection.Easing
import ConnectionManager.Proofs.Connection.Heralds
import ConnectionManager.Proofs.Connection.Asking
import ConnectionManager.Proofs.Connection.Outcomes
import ConnectionManager.Proofs.Connection.Completions
import ConnectionManager.Proofs.Connection.Targets
import ConnectionManager.Proofs.Connection.Bookkeeping
import ConnectionManager.Proofs.Roster.Moves
import ConnectionManager.Proofs.Roster.Paths
import ConnectionManager.Proofs.Roster.Channels
import ConnectionManager.Proofs.Roster.Arrival
import ConnectionManager.Proofs.Roster.Runs
import ConnectionManager.Proofs.Roster.Answers
import ConnectionManager.Proofs.Roster.Broadcasts
import ConnectionManager.Proofs.Roster.Placement
import ConnectionManager.Proofs.Roster.Backing
import ConnectionManager.Proofs.Roster.GroupAccount
import ConnectionManager.Proofs.Roster.Alignment
import ConnectionManager.Proofs.Roster.Scenes
import ConnectionManager.Proofs.Roster.GroupEvents
import ConnectionManager.Proofs.Roster.Containment
import ConnectionManager.Proofs.Roster.ListEvents
import ConnectionManager.Proofs.Roster.Tracking
import ConnectionManager.Proofs.Roster.Balance
import ConnectionManager.Proofs.Roster.Deeds
import ConnectionManager.Proofs.Roster.Ending
import ConnectionManager.Proofs.Roster.ListBatches
import ConnectionManager.Proofs.Roster.GroupBatches
import ConnectionManager.Proofs.Roster.FirstBatch
import ConnectionManager.Proofs.Roster.Bookkeeping
import ConnectionManager.Proofs.Connection.SelfHandle
import ConnectionManager.Proofs.Bus.Changes
import ConnectionManager.Proofs.Manager.Ownership
import ConnectionManager.Proofs.Manager.Reaping
import ConnectionManager.Proofs.Manager.Holders
import ConnectionManager.Proofs.Manager.Process
import ConnectionManager.Proofs.Manager.Requests
import ConnectionManager.Proofs.Text.Trimming
import ConnectionManager.Proofs.ObjectPath
import ConnectionManager.Proofs.Text.Bytes
import ConnectionManager.Proofs.KeyFile.Codec
import ConnectionManager.Proofs.KeyFile.RoundTrip
import ConnectionManager.Proofs.KeyFile.Grammar
import ConnectionManager.Proofs.KeyFile.Lookups
import ConnectionManager.Proofs.Number.Decimal
import ConnectionManager.Proofs.Number.Rounding
import ConnectionManager.Proofs.Number.Shortest
import ConnectionManager.Proofs.Number.DoubleText
import ConnectionManager.Proofs.Value.Literal
import ConnectionManager.Proofs.Value.Dictionary
import ConnectionManager.Proofs.Value.Signature
import ConnectionManager.Proofs.Value.Readers
import ConnectionManager.Proofs.Protocol.Properties
import ConnectionManager.Proofs.Protocol.ParameterLine
import ConnectionManager.Proofs.Protocol.Building
import ConnectionManager.Proofs.Protocol.Naming
import ConnectionManager.Proofs.Protocol.Coercion
import ConnectionManager.Proofs.Protocol.Validation
import ConnectionManager.Proofs.Protocol.Typing
import ConnectionManager.Proofs.Manifest.Descriptions
import ConnectionManager.Proofs.Manifest.Groups
import ConnectionManager.Proofs.Manifest.RoundTrip
import ConnectionManager.Proofs.Manifest.Building
import ConnectionManager.Proofs.Manifest.Reading
import ConnectionManager.Proofs.Manifest.Introspection
import ConnectionManager.Proofs.Manifest.Acceptance
import ConnectionManager.Proofs.Bus.Names
import ConnectionManager.Proofs.Bus.Elements
import ConnectionManager.Proofs.Manager.Registration
import ConnectionManager.Proofs.Handle.Clients
import ConnectionManager.Proofs.Connection.Clients
import ConnectionManager.Proofs.Text.Unescaping
import ConnectionManager.Proofs.Handle.Interning
import ConnectionManager.Proofs.Roster.Renaming
