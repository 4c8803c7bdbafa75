import RecordRelay.Admission
import RecordRelay.Bytes
import RecordRelay.Calendar.Date
import RecordRelay.Calendar.Day
import RecordRelay.Calendar.Instant
import RecordRelay.Calendar.Timestamp
import RecordRelay.CommandLine
import RecordRelay.CommandLine.Ending
import RecordRelay.CommandLine.Page
import RecordRelay.Credential
import RecordRelay.Decimal.Power
import RecordRelay.Decimal.Shortest
import RecordRelay.Delivery.Channel
import RecordRelay.Delivery.Ledger
import RecordRelay.Delivery.Message
import RecordRelay.Delivery.Producer
import RecordRelay.Delivery.Publisher
import RecordRelay.Delivery.Session
import RecordRelay.Delivery.Sink
import RecordRelay.Failure
import RecordRelay.FileLog
import RecordRelay.FileLog.Folder
import RecordRelay.FileLog.Line
import RecordRelay.FileLog.Tree
import RecordRelay.Forwarding
import RecordRelay.Handled
import RecordRelay.Hop
import RecordRelay.Hostname
import RecordRelay.Hostname.Composed
import RecordRelay.Hostname.Composite
import RecordRelay.Hostname.Direction
import RecordRelay.Hostname.Joining
import RecordRelay.Hostname.Mapping
import RecordRelay.Hostname.Mark
import RecordRelay.Hostname.Punycode
import RecordRelay.Hostname.Replacement
import RecordRelay.Hostname.Table
import RecordRelay.Http.Call
import RecordRelay.Http.Exchange
import RecordRelay.Http.Request
import RecordRelay.Http.Status
import RecordRelay.Http.Uri
import RecordRelay.Http.Uri.Escape
import RecordRelay.Http.Uri.Fault
import RecordRelay.Http.Uri.Host
import RecordRelay.Http.Uri.Ipv4
import RecordRelay.Http.Uri.Ipv6
import RecordRelay.Http.Uri.Path
import RecordRelay.Interval
import RecordRelay.IoFault
import RecordRelay.Json.Cursor
import RecordRelay.Json.Fault
import RecordRelay.Json.Number
import RecordRelay.Json.Record
import RecordRelay.Json.Skip
import RecordRelay.Json.Text
import RecordRelay.Json.Value
import RecordRelay.Main
import RecordRelay.Metrics
import RecordRelay.Payload
import RecordRelay.Person
import RecordRelay.Protobuf.Varint
import RecordRelay.Protobuf.Wire
import RecordRelay.Service.Gateway
import RecordRelay.Service.Publisher
import RecordRelay.Service.Relay
import RecordRelay.Service.Start
import RecordRelay.Settings
import RecordRelay.Settings.File
import RecordRelay.Settings.Load
import RecordRelay.Settings.Override
import RecordRelay.Text.Blank
import RecordRelay.Text.Extender
import RecordRelay.Text.Hex
import RecordRelay.Text.Quoted
import RecordRelay.Text.Ranges
import RecordRelay.Text.Similarity
import RecordRelay.Text.Split
import RecordRelay.Text.Unprintable
import RecordRelay.Text.Visible
import RecordRelay.TokenBucket
import RecordRelay.TokenBucket.Callers
import RecordRelay.Toml.Document
import RecordRelay.Toml.Fault
import RecordRelay.Toml.Gap
import RecordRelay.Toml.Scalar
import RecordRelay.Toml.Text
import RecordRelay.Toml.Typed
import RecordRelay.Toml.Value
import RecordRelay.Proofs.Run
import RecordRelay.Proofs.Delivery.Move
import RecordRelay.Proofs.Delivery.History
import RecordRelay.Proofs.Delivery.Sound
import RecordRelay.Proofs.Delivery.Publisher
import RecordRelay.Proofs.Delivery.Calls
import RecordRelay.Proofs.Delivery.Counters
import RecordRelay.Proofs.Delivery.Forgiving
import RecordRelay.Proofs.Delivery.Outcome
import RecordRelay.Proofs.Delivery.Reports
import RecordRelay.Proofs.Delivery.Shutdown
import RecordRelay.Proofs.Delivery.Session
import RecordRelay.Proofs.Octets
import RecordRelay.Proofs.Protobuf.Written
import RecordRelay.Proofs.Json.Written
import RecordRelay.Proofs.Json.Object
import RecordRelay.Proofs.Json.Taken
import RecordRelay.Proofs.Person.RoundTrip
import RecordRelay.Proofs.Protobuf.Passed
import RecordRelay.Proofs.Person.Formats
import RecordRelay.Proofs.Http.Delivered
import RecordRelay.Proofs.Delivery.Room
import RecordRelay.Proofs.Delivery.Size
import RecordRelay.Proofs.Calendar.Timestamp
import RecordRelay.Proofs.FileLog.Line
import RecordRelay.Proofs.FileLog.Walk
import RecordRelay.Proofs.FileLog.Names
import RecordRelay.Proofs.FileLog.Ground
import RecordRelay.Proofs.Service.Relay
import RecordRelay.Proofs.FileLog.Operations
import RecordRelay.Proofs.FileLog.History
import RecordRelay.Proofs.FileLog.Agreement
import RecordRelay.Proofs.FileLog.Lossless
import RecordRelay.Proofs.TokenBucket.Level
import RecordRelay.Proofs.TokenBucket.Windows
import RecordRelay.Proofs.Delivery.Drained
import RecordRelay.Proofs.Service.Admission
import RecordRelay.Proofs.Service.Forwarding
import RecordRelay.Proofs.TokenBucket.Callers
import RecordRelay.Proofs.Delivery.Listener
import RecordRelay.Proofs.Protobuf.Field
import RecordRelay.Proofs.Person.Fields
import RecordRelay.Proofs.Json.Spelled
import RecordRelay.Proofs.Json.Values
import RecordRelay.Proofs.Json.Skipped
import RecordRelay.Proofs.Json.Members
import RecordRelay.Proofs.Person.Members
import RecordRelay.Proofs.Credential
import RecordRelay.Proofs.Service.Credential
import RecordRelay.Proofs.FileLog.Confined
import RecordRelay.Proofs.Settings.Field
import RecordRelay.Proofs.Settings.File
import RecordRelay.Proofs.Settings.Load
import RecordRelay.Proofs.Interval
import RecordRelay.Proofs.Protobuf.Shortest
import RecordRelay.Proofs.Json.Cost
import RecordRelay.Proofs.Person.Forwarded
import RecordRelay.Proofs.FileLog.Topics
import RecordRelay.Proofs.Json.Broken
import RecordRelay.Proofs.FileLog.Torn
import RecordRelay.Proofs.Service.Start
