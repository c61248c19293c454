import PulseBridge.Alert
import PulseBridge.Ascii
import PulseBridge.Base64
import PulseBridge.Calendar
import PulseBridge.ChatBridge
import PulseBridge.ChatCommand
import PulseBridge.ChatMessage
import PulseBridge.ChatSink
import PulseBridge.Check
import PulseBridge.CheckKeeper
import PulseBridge.Containment
import PulseBridge.Courier
import PulseBridge.Decimal.Layout
import PulseBridge.Decimal.Scaled
import PulseBridge.Decimal.Shortest
import PulseBridge.Failure
import PulseBridge.Form
import PulseBridge.Heartbeat
import PulseBridge.HeartbeatSink
import PulseBridge.Http.Arrival
import PulseBridge.Http.CallError
import PulseBridge.Http.Chunks
import PulseBridge.Http.Client
import PulseBridge.Http.Framing
import PulseBridge.Http.HeaderLines
import PulseBridge.Http.Outgoing
import PulseBridge.Http.Replay
import PulseBridge.Http.ReplyFault
import PulseBridge.Http.Request
import PulseBridge.Http.Script
import PulseBridge.Http.Status
import PulseBridge.Http.Web
import PulseBridge.Http.Wire
import PulseBridge.Intake
import PulseBridge.Journal
import PulseBridge.Json.Blank
import PulseBridge.Json.Error
import PulseBridge.Json.Number
import PulseBridge.Json.Pick
import PulseBridge.Json.Reader
import PulseBridge.Json.Record
import PulseBridge.Json.Skip
import PulseBridge.Json.Text
import PulseBridge.Json.Value
import PulseBridge.Launch
import PulseBridge.Main
import PulseBridge.Mentions
import PulseBridge.Net.Address
import PulseBridge.Net.Host
import PulseBridge.Net.Name
import PulseBridge.Net.Name.Direction
import PulseBridge.Net.Name.Joining
import PulseBridge.Net.Name.Punycode
import PulseBridge.Net.Name.Table
import PulseBridge.Net.Requestable
import PulseBridge.Net.Url
import PulseBridge.Notice
import PulseBridge.Nudger
import PulseBridge.Octets
import PulseBridge.Polling
import PulseBridge.Proofs.AlertBodies
import PulseBridge.Proofs.AlertLine
import PulseBridge.Proofs.AlertLine.Posts
import PulseBridge.Proofs.Anomalies
import PulseBridge.Proofs.Answers
import PulseBridge.Proofs.Ballots
import PulseBridge.Proofs.ByteOrder
import PulseBridge.Proofs.Calendar.Days
import PulseBridge.Proofs.Calendar.Timestamps
import PulseBridge.Proofs.Calls
import PulseBridge.Proofs.Calls.Alike
import PulseBridge.Proofs.Calls.Carried
import PulseBridge.Proofs.Calls.Course
import PulseBridge.Proofs.Calls.Delivery
import PulseBridge.Proofs.Calls.Posts
import PulseBridge.Proofs.Calls.Revalued
import PulseBridge.Proofs.Calls.Twins
import PulseBridge.Proofs.ChatBodies
import PulseBridge.Proofs.ChatLines
import PulseBridge.Proofs.CheckBodies
import PulseBridge.Proofs.CheckRounds
import PulseBridge.Proofs.CheckRounds.History
import PulseBridge.Proofs.CommandAnswers
import PulseBridge.Proofs.Credentials
import PulseBridge.Proofs.Decimal
import PulseBridge.Proofs.Enrichment
import PulseBridge.Proofs.Form
import PulseBridge.Proofs.HeartbeatBodies
import PulseBridge.Proofs.HeartbeatLine
import PulseBridge.Proofs.HeartbeatLine.Conservation
import PulseBridge.Proofs.Json.Accepted
import PulseBridge.Proofs.Json.Built
import PulseBridge.Proofs.Json.Exact
import PulseBridge.Proofs.Json.Fields
import PulseBridge.Proofs.Json.Filled
import PulseBridge.Proofs.Json.Gathered
import PulseBridge.Proofs.Json.Integers
import PulseBridge.Proofs.Json.Members
import PulseBridge.Proofs.Json.Numbers
import PulseBridge.Proofs.Json.Numerals
import PulseBridge.Proofs.Json.Outcomes
import PulseBridge.Proofs.Json.Passed
import PulseBridge.Proofs.Json.Picked
import PulseBridge.Proofs.Json.Rearranged
import PulseBridge.Proofs.Json.Records
import PulseBridge.Proofs.Json.Scanned
import PulseBridge.Proofs.Json.Spellings
import PulseBridge.Proofs.Json.Texts
import PulseBridge.Proofs.Json.Trees
import PulseBridge.Proofs.ListedChecks
import PulseBridge.Proofs.MemberOrder
import PulseBridge.Proofs.Messages
import PulseBridge.Proofs.NudgerLine
import PulseBridge.Proofs.NudgerLine.Bodies
import PulseBridge.Proofs.NudgerLine.Progress
import PulseBridge.Proofs.Passage
import PulseBridge.Proofs.Passage.Conservation
import PulseBridge.Proofs.Passage.Depth
import PulseBridge.Proofs.Polls
import PulseBridge.Proofs.Polls.Accounts
import PulseBridge.Proofs.Polls.Gate
import PulseBridge.Proofs.Polls.Heartbeats
import PulseBridge.Proofs.Polls.Permits
import PulseBridge.Proofs.Polls.Schedule
import PulseBridge.Proofs.Polls.Solo
import PulseBridge.Proofs.Polls.Stories
import PulseBridge.Proofs.Queries
import PulseBridge.Proofs.Readings
import PulseBridge.Proofs.Readings.Told
import PulseBridge.Proofs.Refreshes
import PulseBridge.Proofs.Run
import PulseBridge.Proofs.Service
import PulseBridge.Proofs.Settings
import PulseBridge.Proofs.Settings.Layers
import PulseBridge.Proofs.StartUp
import PulseBridge.Proofs.Station
import PulseBridge.Proofs.Station.Conduct
import PulseBridge.Proofs.Station.Delivery
import PulseBridge.Proofs.Station.Schedule
import PulseBridge.Proofs.Suppression
import PulseBridge.Proofs.TargetAddresses
import PulseBridge.Proofs.Tokens
import PulseBridge.Proofs.Trimming
import PulseBridge.Proofs.Utf8
import PulseBridge.Reading
import PulseBridge.Relay
import PulseBridge.Relay.Wire
import PulseBridge.Settings.CommandLine
import PulseBridge.Settings.Environment
import PulseBridge.Settings.File
import PulseBridge.Settings.Nudging
import PulseBridge.Settings.Relaying
import PulseBridge.StartUp
import PulseBridge.Tags
import PulseBridge.TargetAddress
import PulseBridge.Text.Blank
import PulseBridge.Text.Canonical
import PulseBridge.Text.Canonical.Table
import PulseBridge.Text.Hidden
import PulseBridge.Text.Letters
import PulseBridge.Text.Lossy
import PulseBridge.Text.Marks
import PulseBridge.Text.Pieces
import PulseBridge.Text.Quoted
import PulseBridge.Text.Table
import PulseBridge.Text.Terminal
import PulseBridge.Proofs.Json.OneField
import PulseBridge.Proofs.NumericTargets
