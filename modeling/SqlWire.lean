import SqlWire.Config.Json
import SqlWire.Login
import SqlWire.Proofs.Channel.Arrival
import SqlWire.Proofs.Channel.Outcome
import SqlWire.Proofs.Session.InStep
import SqlWire.Proofs.Session.Opening
import SqlWire.Proofs.Session.Outbound
import SqlWire.Proofs.Session.ResultSet
import SqlWire.Proofs.Session.Settled
import SqlWire.Proofs.Session.Surfacing
import SqlWire.Reader.Operation
import SqlWire.Session.Description
import SqlWire.Session.Operation
import SqlWire.Transport.IdleSocket
import SqlWire.Transport.Memory
import SqlWire.Transport.Recorded
import SqlWire.Transport.Scripted
import SqlWire.Utf8.Lemmas
import SqlWire.Writer
import SqlWire.Proofs.Session.Rectangular
import SqlWire.Proofs.Agree
import SqlWire.Proofs.Channel.Alike
import SqlWire.Proofs.Session.Display
import SqlWire.Proofs.Channel.Backlog
import SqlWire.Proofs.Session.Alike
import SqlWire.Proofs.Session.Reopening
import SqlWire.Proofs.Channel.Inbox
import SqlWire.Proofs.Session.Notices
import SqlWire.Proofs.Session.History
import SqlWire.Proofs.Greeting
import SqlWire.Proofs.Session.Markers
import SqlWire.Proofs.Session.Challenge
import SqlWire.Proofs.Login
import SqlWire.Proofs.Transport.Indifferent
import SqlWire.Proofs.Session.Password
import SqlWire.Proofs.Writer
import SqlWire.Proofs.Row.Columns
import SqlWire.Json.Grammar
import SqlWire.Proofs.Json.Literal
import SqlWire.Proofs.Json.Parser
import SqlWire.Config.Delays
import SqlWire.Proofs.Config.Json
import SqlWire.Proofs.Field
import SqlWire.Proofs.LengthCoded.Integer
import SqlWire.Proofs.Session.Unrecorded
import SqlWire.Proofs.Greeting.Layout
import SqlWire.Proofs.Reply
import SqlWire.Proofs.Session.Answer
import SqlWire.Proofs.Session.Confirmation
import SqlWire.Proofs.Session.Calls
import SqlWire.Proofs.Session.Welcome
import SqlWire.Proofs.Session.Statements
import SqlWire.Proofs.Session.ServerVersion
import SqlWire.Proofs.Session.Announcement
import SqlWire.Proofs.Session.Attempts
import SqlWire.Proofs.Session.QuerySize
import SqlWire.Proofs.Channel.Deeds
import SqlWire.Proofs.Channel.Numbering
import SqlWire.Proofs.Channel.Budget
import SqlWire.Proofs.Session.Drain
import SqlWire.Proofs.Reads.Position
import SqlWire.Proofs.Packet.Unframe
import SqlWire.Proofs.HexDump
import SqlWire.Proofs.Channel.Journal
