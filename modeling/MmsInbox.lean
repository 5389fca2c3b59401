import MmsInbox.Ack.Error
import MmsInbox.Ack.Lane
import MmsInbox.Ack.Send
import MmsInbox.Ack.Settle
import MmsInbox.Ack.Task
import MmsInbox.Audit
import MmsInbox.Bytes
import MmsInbox.Config.Basic
import MmsInbox.Config.Dialect
import MmsInbox.Config.Document
import MmsInbox.Config.Load
import MmsInbox.Config.Reading
import MmsInbox.Domain.Direction
import MmsInbox.Domain.DirectionTable
import MmsInbox.Domain.Joining
import MmsInbox.Domain.JoiningTable
import MmsInbox.Domain.Mapping
import MmsInbox.Domain.MappingTable
import MmsInbox.Domain.Marks
import MmsInbox.Domain.Name
import MmsInbox.Domain.Punycode
import MmsInbox.Downloads
import MmsInbox.FetchStatus
import MmsInbox.File.Directory
import MmsInbox.File.Error
import MmsInbox.File.SystemError
import MmsInbox.Http.Client
import MmsInbox.Http.Message
import MmsInbox.Http.Transport
import MmsInbox.Http.Wire
import MmsInbox.Journal.Level
import MmsInbox.Journal.Notice
import MmsInbox.MessageId.Base32
import MmsInbox.MessageId.Basic
import MmsInbox.Pdu.Basic
import MmsInbox.Pdu.MessageType
import MmsInbox.Program.Basic
import MmsInbox.Program.Environment
import MmsInbox.Receive.Download
import MmsInbox.Receive.Error
import MmsInbox.Receive.Permits
import MmsInbox.Receive.Reception
import MmsInbox.Receive.Run
import MmsInbox.Receive.Steps
import MmsInbox.Relay.Route
import MmsInbox.Ron.Blank
import MmsInbox.Ron.Grammar
import MmsInbox.Ron.Number
import MmsInbox.Ron.Quoted
import MmsInbox.Ron.Value
import MmsInbox.Scenario.Script
import MmsInbox.Scenario.Service
import MmsInbox.Scenario.Session
import MmsInbox.Scenario.Step
import MmsInbox.Scenario.World
import MmsInbox.Signal
import MmsInbox.Store.Error
import MmsInbox.Store.Messages
import MmsInbox.Store.Monitored
import MmsInbox.Store.Notifications
import MmsInbox.Subscription
import MmsInbox.Text.Blank
import MmsInbox.Text.Canonical
import MmsInbox.Text.CanonicalTable
import MmsInbox.Text.CharSet
import MmsInbox.Text.Hexadecimal
import MmsInbox.Text.Identifier
import MmsInbox.Url.Anonymous
import MmsInbox.Url.Basic
import MmsInbox.Url.Error
import MmsInbox.Url.Host
import MmsInbox.Url.Ipv4
import MmsInbox.Url.Ipv6
import MmsInbox.Url.Parse
import MmsInbox.Url.Path
import MmsInbox.Url.Percent
import MmsInbox.Program.Assurance
import MmsInbox.Ack.Submission
import MmsInbox.Engine.Basic
import MmsInbox.Proofs.Ack.Accounting
import MmsInbox.Proofs.Ack.Hearing
import MmsInbox.Proofs.Ack.Merging
import MmsInbox.Proofs.Ack.Settling
import MmsInbox.Proofs.Ack.Submitting
import MmsInbox.Proofs.Engine.Closing
import MmsInbox.Proofs.File.Removal
import MmsInbox.Proofs.Store.Notifications
import MmsInbox.Program.Passage
import MmsInbox.Proofs.Receive.Parts
import MmsInbox.Proofs.Receive.Course
import MmsInbox.Inbox
import MmsInbox.Proofs.Receive.Rows
import MmsInbox.Proofs.Receive.Acknowledging
import MmsInbox.Program.Disturbance
import MmsInbox.Proofs.Receive.Containment
import MmsInbox.Program.Interleaving
import MmsInbox.Proofs.Inbox.Commuting
import MmsInbox.Proofs.Receive.SideBySide
import MmsInbox.Program.Interruption
import MmsInbox.Proofs.Receive.Unfolding
import MmsInbox.Proofs.Receive.Reporting
import MmsInbox.Proofs.Receive.Releasing
import MmsInbox.Proofs.Ack.Posting
import MmsInbox.Proofs.Ack.Isolation
import MmsInbox.Proofs.Ack.Discarding
import MmsInbox.Receive.Completion
import MmsInbox.Receive.Crew
import MmsInbox.Receive.Shift
import MmsInbox.Endless
import MmsInbox.Proofs.Receive.Tasks
import MmsInbox.Proofs.Receive.Completing
import MmsInbox.Proofs.Receive.Serving
import MmsInbox.Program.Mirror
import MmsInbox.Program.Auditing
import MmsInbox.Proofs.Receive.Auditing
import MmsInbox.Proofs.Ack.Auditing
import MmsInbox.Proofs.Engine.Auditing
import MmsInbox.Proofs.Scenario.Journal
import MmsInbox.Program.Journaling
import MmsInbox.Program.Lockstep
import MmsInbox.Proofs.Receive.Succession
import MmsInbox.Proofs.Scenario.Reception
import MmsInbox.Proofs.Store.Operations
import MmsInbox.Store.Deliveries
import MmsInbox.Proofs.Store.Messages
import MmsInbox.Proofs.Receive.Redacting
import MmsInbox.Proofs.Receive.Answering
import MmsInbox.Proofs.Ack.Addressing
import MmsInbox.Proofs.Engine.Addressing
import MmsInbox.Proofs.Receive.Alternation
import MmsInbox.Receive.Fetching
import MmsInbox.Proofs.Receive.Exclusion
import MmsInbox.Config.Layer
import MmsInbox.Proofs.Config.Layers
import MmsInbox.Proofs.Config.Documents
import MmsInbox.Proofs.Scenario.Starting
import MmsInbox.Proofs.MessageId.Parts
import MmsInbox.Store.Writings
import MmsInbox.Proofs.Store.Chronology
import MmsInbox.Store.Deletions
import MmsInbox.Proofs.Store.Deletions
import MmsInbox.Proofs.Store.Tallying
import MmsInbox.Proofs.MessageId.Digits
import MmsInbox.Proofs.MessageId.Text
import MmsInbox.Proofs.MessageId.Order
import MmsInbox.Proofs.Audit.Disclosing
import MmsInbox.Http.Posting
import MmsInbox.Proofs.Http.Caching
import MmsInbox.Store.Watch
import MmsInbox.Proofs.Store.Waking
