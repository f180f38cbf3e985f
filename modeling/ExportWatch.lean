import ExportWatch.Causes
import ExportWatch.CommandLine.Arguments
import ExportWatch.CommandLine.Grammar
import ExportWatch.CommandLine.Usage
import ExportWatch.Decimal.Binary
import ExportWatch.Decimal.Literal
import ExportWatch.Decimal.Rounding
import ExportWatch.Decimal.Shortest
import ExportWatch.Decimal.Style
import ExportWatch.Decimal.Thousands
import ExportWatch.Files.Basic
import ExportWatch.Files.Path
import ExportWatch.Files.Tree
import ExportWatch.Geometry.BoundingBox
import ExportWatch.Geometry.Extent
import ExportWatch.Geometry.Mercator
import ExportWatch.Geometry.Polygon
import ExportWatch.Geometry.Segment
import ExportWatch.Geometry.SphereArea
import ExportWatch.History.Completed
import ExportWatch.History.Store
import ExportWatch.Job.Basic
import ExportWatch.Job.Page
import ExportWatch.Job.Query
import ExportWatch.Json.Decoder
import ExportWatch.Json.Node
import ExportWatch.Json.Printer
import ExportWatch.Json.Token
import ExportWatch.Json.Value
import ExportWatch.Main
import ExportWatch.Program.Act
import ExportWatch.Program.Command
import ExportWatch.Program.Fault
import ExportWatch.Program.Following
import ExportWatch.Program.Output
import ExportWatch.Program.Search
import ExportWatch.Proofs.Decimal.NotANumber
import ExportWatch.Proofs.Decimal.Order
import ExportWatch.Proofs.Decimal.Rank
import ExportWatch.Proofs.Decimal.Shortest
import ExportWatch.Proofs.Files.Basic
import ExportWatch.Proofs.Files.Lead
import ExportWatch.Proofs.Files.Path
import ExportWatch.Proofs.Files.Tree
import ExportWatch.Proofs.Geometry.Border
import ExportWatch.Proofs.Geometry.Covering
import ExportWatch.Proofs.Geometry.Extent
import ExportWatch.Proofs.Geometry.Polygon
import ExportWatch.Proofs.Geometry.Ring
import ExportWatch.Proofs.Geometry.Segment
import ExportWatch.Proofs.History.Chronology
import ExportWatch.Proofs.History.Completed
import ExportWatch.Proofs.History.Listing
import ExportWatch.Proofs.History.Name
import ExportWatch.Proofs.History.Order
import ExportWatch.Proofs.History.Pruned
import ExportWatch.Proofs.History.Reported
import ExportWatch.Proofs.History.Saved
import ExportWatch.Proofs.History.Store
import ExportWatch.Proofs.Job.Bounds
import ExportWatch.Proofs.Job.Record
import ExportWatch.Proofs.Json.Decoded
import ExportWatch.Proofs.Json.Grammar
import ExportWatch.Proofs.Json.Listed
import ExportWatch.Proofs.Json.Nesting
import ExportWatch.Proofs.Json.Number
import ExportWatch.Proofs.Json.Numeral
import ExportWatch.Proofs.Json.Printable
import ExportWatch.Proofs.Json.Quoted
import ExportWatch.Proofs.Json.Reading
import ExportWatch.Proofs.Json.Record
import ExportWatch.Proofs.Json.Token
import ExportWatch.Proofs.Json.Writing
import ExportWatch.Proofs.Lookup
import ExportWatch.Proofs.Outcome
import ExportWatch.Proofs.Program.Act
import ExportWatch.Proofs.Program.Documents
import ExportWatch.Proofs.Program.Following
import ExportWatch.Proofs.Program.Output
import ExportWatch.Proofs.Program.Pursuit
import ExportWatch.Proofs.Program.Search
import ExportWatch.Proofs.Program.Transcript
import ExportWatch.Proofs.Record
import ExportWatch.Proofs.Region.Verdict
import ExportWatch.Proofs.Run.Record
import ExportWatch.Proofs.Server.Address
import ExportWatch.Proofs.Server.JobAddress
import ExportWatch.Proofs.Server.LinkHeader
import ExportWatch.Proofs.Server.QuotedText
import ExportWatch.Proofs.Text.Blank
import ExportWatch.Proofs.Text.Cut
import ExportWatch.Proofs.Text.Digit
import ExportWatch.Proofs.Text.Percent
import ExportWatch.Proofs.Time.Calendar
import ExportWatch.Proofs.Time.Instant
import ExportWatch.Proofs.Time.Written
import ExportWatch.Proofs.Url.Decoded
import ExportWatch.Proofs.Url.Directory
import ExportWatch.Proofs.Url.Form
import ExportWatch.Proofs.Url.LastSegment
import ExportWatch.Proofs.Url.Path
import ExportWatch.Proofs.Url.Reference
import ExportWatch.Proofs.Url.Segment
import ExportWatch.Proofs.Watch.Account
import ExportWatch.Proofs.Watch.Agreement
import ExportWatch.Proofs.Watch.Answers
import ExportWatch.Proofs.Watch.Commands
import ExportWatch.Proofs.Watch.Completion
import ExportWatch.Proofs.Watch.Course
import ExportWatch.Proofs.Watch.Delivery
import ExportWatch.Proofs.Watch.Event
import ExportWatch.Proofs.Watch.Failure
import ExportWatch.Proofs.Watch.Interrupts
import ExportWatch.Proofs.Watch.Pace
import ExportWatch.Proofs.Watch.Queue
import ExportWatch.Proofs.Watch.Renewal
import ExportWatch.Proofs.Watch.Replies
import ExportWatch.Proofs.Watch.Requests
import ExportWatch.Proofs.Watch.Sessions
import ExportWatch.Proofs.Watch.Turn
import ExportWatch.Region.File
import ExportWatch.Region.GeoJson
import ExportWatch.Region.Verdict
import ExportWatch.Run.Basic
import ExportWatch.Run.Display
import ExportWatch.Run.Record
import ExportWatch.Server.Backend
import ExportWatch.Server.Client
import ExportWatch.Server.Exchange
import ExportWatch.Server.LinkHeader
import ExportWatch.Server.Status
import ExportWatch.Text.Blank
import ExportWatch.Text.Cut
import ExportWatch.Text.Digit
import ExportWatch.Text.Pad
import ExportWatch.Text.Percent
import ExportWatch.Time.Calendar
import ExportWatch.Time.Period
import ExportWatch.Time.Span
import ExportWatch.Time.Timestamp
import ExportWatch.Unicode.Composition
import ExportWatch.Unicode.Direction
import ExportWatch.Unicode.Joining
import ExportWatch.Unicode.Mark
import ExportWatch.Unicode.NameMapping
import ExportWatch.Unicode.NormalForm
import ExportWatch.Unicode.Table
import ExportWatch.Url.Basic
import ExportWatch.Url.Host
import ExportWatch.Url.Label
import ExportWatch.Url.Punycode
import ExportWatch.Url.Reference
import ExportWatch.Watch.Backend
import ExportWatch.Watch.Event
import ExportWatch.Watch.Follow
import ExportWatch.Watch.Poller
import ExportWatch.Proofs.Region.GeoJson
import ExportWatch.Proofs.Geometry.Alike
import ExportWatch.Proofs.Geometry.SphereArea
import ExportWatch.Proofs.Decimal.Finite
import ExportWatch.Proofs.Decimal.Literal
import ExportWatch.Proofs.Decimal.Nearest
import ExportWatch.Proofs.Decimal.ReadBack
import ExportWatch.Proofs.Geometry.BoundingBox
import ExportWatch.Proofs.Geometry.Meeting
import ExportWatch.Proofs.Decimal.Thousands
import ExportWatch.Proofs.Decimal.Whole
import ExportWatch.Proofs.History.Location
import ExportWatch.Proofs.Run.Elapsed
