import LanguageBridge.Assembly
import LanguageBridge.Bridge.Basic
import LanguageBridge.Bridge.Effect
import LanguageBridge.Bridge.Inspect
import LanguageBridge.Bridge.Run
import LanguageBridge.Bridge.Session
import LanguageBridge.Bridge.State
import LanguageBridge.Connection.Basic
import LanguageBridge.Connection.Notify
import LanguageBridge.Connection.Run
import LanguageBridge.Connection.Start
import LanguageBridge.Connection.Stop
import LanguageBridge.Document
import LanguageBridge.Duration
import LanguageBridge.Error
import LanguageBridge.Event
import LanguageBridge.ExitStatus
import LanguageBridge.Failure
import LanguageBridge.Glob.Depth
import LanguageBridge.Glob.Expression
import LanguageBridge.Glob.Match
import LanguageBridge.Glob.Parser
import LanguageBridge.Glob.Shape
import LanguageBridge.Glob.Token
import LanguageBridge.Glob.Union
import LanguageBridge.Host.Arguments
import LanguageBridge.Host.Filter
import LanguageBridge.Host.LogLine
import LanguageBridge.Host.Plan
import LanguageBridge.Host.Report
import LanguageBridge.Json.Decimal
import LanguageBridge.Json.Reader
import LanguageBridge.Json.Value
import LanguageBridge.Json.Writer
import LanguageBridge.Language
import LanguageBridge.Launch
import LanguageBridge.Log
import LanguageBridge.Main
import LanguageBridge.Path.Basic
import LanguageBridge.Path.Command
import LanguageBridge.Path.FileSystem
import LanguageBridge.Pattern.Basic
import LanguageBridge.Pattern.Parser
import LanguageBridge.Proofs.Assembly.Agreement
import LanguageBridge.Proofs.Assembly.Forwarding
import LanguageBridge.Proofs.Bridge.Announcement
import LanguageBridge.Proofs.Bridge.Atomicity
import LanguageBridge.Proofs.Bridge.Calls
import LanguageBridge.Proofs.Bridge.Documents
import LanguageBridge.Proofs.Bridge.History
import LanguageBridge.Proofs.Bridge.Publication
import LanguageBridge.Proofs.Bridge.Renewal
import LanguageBridge.Proofs.Bridge.Sitting
import LanguageBridge.Proofs.Bridge.Sound
import LanguageBridge.Proofs.Bridge.Standing
import LanguageBridge.Proofs.Bridge.Teardowns
import LanguageBridge.Proofs.Bridge.Watching
import LanguageBridge.Proofs.Connection.Aftermath
import LanguageBridge.Proofs.Connection.Causes
import LanguageBridge.Proofs.Connection.Custody
import LanguageBridge.Proofs.Connection.Failures
import LanguageBridge.Proofs.Connection.Handshake
import LanguageBridge.Proofs.Connection.Life
import LanguageBridge.Proofs.Connection.Progress
import LanguageBridge.Proofs.Connection.Release
import LanguageBridge.Proofs.Connection.Rounds
import LanguageBridge.Proofs.Connection.SingleUse
import LanguageBridge.Proofs.Connection.Starts
import LanguageBridge.Proofs.Connection.Stops
import LanguageBridge.Proofs.Connection.WireOrder
import LanguageBridge.Proofs.Glob.Compilation
import LanguageBridge.Proofs.Glob.Extensions
import LanguageBridge.Proofs.Glob.Meaning
import LanguageBridge.Proofs.Host.Openings
import LanguageBridge.Proofs.Json.Objects
import LanguageBridge.Proofs.Json.Strings
import LanguageBridge.Proofs.Path.Pieces
import LanguageBridge.Proofs.Scope.Languages
import LanguageBridge.Proofs.Scope.Members
import LanguageBridge.Proofs.Scope.Names
import LanguageBridge.Proofs.Sequence.Firsts
import LanguageBridge.Proofs.Settings.Lookup
import LanguageBridge.Proofs.Settings.Updates
import LanguageBridge.Proofs.Status.Records
import LanguageBridge.Proofs.Text.Decoding
import LanguageBridge.Proofs.Uri.FilePath
import LanguageBridge.Proofs.Uri.Percent
import LanguageBridge.Protocol.Call
import LanguageBridge.Protocol.Capability
import LanguageBridge.Protocol.Channel
import LanguageBridge.Protocol.ClientMessage
import LanguageBridge.Protocol.Frame
import LanguageBridge.Protocol.Message
import LanguageBridge.Protocol.Notice
import LanguageBridge.Protocol.Shape
import LanguageBridge.Rehearsal.Alone
import LanguageBridge.Rehearsal.Bridged
import LanguageBridge.Rehearsal.Hosted
import LanguageBridge.Rehearsal.Scripted
import LanguageBridge.Rehearsal.Server
import LanguageBridge.Rehearsal.Shell
import LanguageBridge.Rehearsal.World
import LanguageBridge.Scope
import LanguageBridge.Settings
import LanguageBridge.Status
import LanguageBridge.Text.Alphanumeric
import LanguageBridge.Text.Bytes
import LanguageBridge.Text.CharSet
import LanguageBridge.Text.Composed
import LanguageBridge.Text.Cut
import LanguageBridge.Text.Lowercase
import LanguageBridge.Text.Marks
import LanguageBridge.Text.Printable
import LanguageBridge.Text.Quoted
import LanguageBridge.Uri.Basic
import LanguageBridge.Uri.Domain.Basic
import LanguageBridge.Uri.Domain.Direction
import LanguageBridge.Uri.Domain.Joiner
import LanguageBridge.Uri.Domain.Mapping
import LanguageBridge.Uri.Domain.Punycode
import LanguageBridge.Uri.Host
import LanguageBridge.Uri.Parser
import LanguageBridge.Uri.Percent
