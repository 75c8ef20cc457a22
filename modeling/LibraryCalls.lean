import LibraryCalls.Assoc
import LibraryCalls.Call.Basic
import LibraryCalls.Call.Parse
import LibraryCalls.Call.Render
import LibraryCalls.Call.Scan
import LibraryCalls.CommandLine.Request
import LibraryCalls.CommandLine.Run
import LibraryCalls.CommandLine.Words
import LibraryCalls.Decimal.Basic
import LibraryCalls.Decimal.Binary64
import LibraryCalls.Decimal.Read
import LibraryCalls.Decimal.Shortest
import LibraryCalls.Files.AtomicWrite
import LibraryCalls.Files.Path
import LibraryCalls.Files.Pattern
import LibraryCalls.Files.Selection
import LibraryCalls.Files.Tree
import LibraryCalls.Host
import LibraryCalls.Json.Basic
import LibraryCalls.Json.Decode
import LibraryCalls.Json.Display
import LibraryCalls.Json.Encoding
import LibraryCalls.Json.Nesting
import LibraryCalls.Json.Print
import LibraryCalls.Library.Binding
import LibraryCalls.Library.Definition
import LibraryCalls.Library.Descriptor
import LibraryCalls.Library.Injection
import LibraryCalls.Library.Parameter
import LibraryCalls.Log.Basic
import LibraryCalls.Log.Event
import LibraryCalls.Main
import LibraryCalls.Placeholder
import LibraryCalls.Producer
import LibraryCalls.Proofs.Call.Enclosed
import LibraryCalls.Proofs.Call.Machine
import LibraryCalls.Proofs.Call.Sequence
import LibraryCalls.Proofs.Call.Written
import LibraryCalls.Proofs.Text.Trim
import LibraryCalls.Resolution
import LibraryCalls.Session
import LibraryCalls.Settings.Basic
import LibraryCalls.Settings.Load
import LibraryCalls.Source.Fetch
import LibraryCalls.Source.Freshness
import LibraryCalls.Source.Origin
import LibraryCalls.Switcher
import LibraryCalls.Text.Blank
import LibraryCalls.Text.Cased
import LibraryCalls.Text.CodePoint
import LibraryCalls.Text.Cut
import LibraryCalls.Text.Digit
import LibraryCalls.Text.Hidden
import LibraryCalls.Text.Integer
import LibraryCalls.Text.Lower
import LibraryCalls.Text.Normal
import LibraryCalls.Text.Quoted
import LibraryCalls.Text.Ranges
import LibraryCalls.Text.Split
import LibraryCalls.Text.Terminal
import LibraryCalls.Text.Utf8
import LibraryCalls.Traced
import LibraryCalls.Web.Address
import LibraryCalls.Web.Client
import LibraryCalls.Web.Failure
import LibraryCalls.Web.Domain.Direction
import LibraryCalls.Web.Domain.Joining
import LibraryCalls.Web.Domain.Label
import LibraryCalls.Web.Domain.Letter
import LibraryCalls.Web.Domain.Mark
import LibraryCalls.Web.Domain.Name
import LibraryCalls.Web.Domain.Punycode
import LibraryCalls.Web.Domain.Script
import LibraryCalls.Web.Percent
import LibraryCalls.Web.Url.Basic
import LibraryCalls.Web.Url.Normal
import LibraryCalls.Web.Url.Redirect
import LibraryCalls.Web.Url.Reference
import LibraryCalls.Yaml.Basic
import LibraryCalls.Yaml.Parse
import LibraryCalls.Yaml.Scalar
import LibraryCalls.Yaml.Time
import LibraryCalls.Yaml.Value
import LibraryCalls.Proofs.Call.Layout
import LibraryCalls.Proofs.Call.RoundTrip
import LibraryCalls.Proofs.Call.Extension
import LibraryCalls.Proofs.Call.Leftover
import LibraryCalls.Proofs.Host.Record
import LibraryCalls.Proofs.Library.Injection
import LibraryCalls.Proofs.Resolution.Stages
import LibraryCalls.Proofs.Resolution.Policies
import LibraryCalls.Proofs.Assoc
import LibraryCalls.Proofs.Library.Binding
import LibraryCalls.Proofs.Resolution.Canonical
import LibraryCalls.Proofs.Resolution.Order
import LibraryCalls.Proofs.Placeholder.Names
import LibraryCalls.Proofs.Resolution.Declared
import LibraryCalls.Proofs.Switcher.Board
import LibraryCalls.Proofs.Switcher.Memo
import LibraryCalls.Proofs.Json.Within
import LibraryCalls.Proofs.Library.Descriptor
import LibraryCalls.Proofs.Text.Parts
import LibraryCalls.Proofs.Placeholder.Fill
import LibraryCalls.Proofs.Library.Lines
import LibraryCalls.Proofs.Resolution.Injected
import LibraryCalls.Proofs.Web.Percent
import LibraryCalls.Proofs.Web.Normal
import LibraryCalls.Proofs.Web.Request
import LibraryCalls.Proofs.Web.Exchange
import LibraryCalls.Proofs.Source.Freshness
import LibraryCalls.Proofs.Web.Below
import LibraryCalls.Proofs.Files.Walk
import LibraryCalls.Proofs.Source.Containment
import LibraryCalls.Proofs.Files.Selection
import LibraryCalls.Proofs.Files.Stem
import LibraryCalls.Proofs.Source.Directory
import LibraryCalls.Proofs.Call.Phases
import LibraryCalls.Proofs.Text.Utf8
import LibraryCalls.Proofs.Web.Decoding
import LibraryCalls.Proofs.Web.Behind
import LibraryCalls.Proofs.Source.Segments
import LibraryCalls.Proofs.Library.Schema
import LibraryCalls.Proofs.Json.Written
import LibraryCalls.Proofs.Library.Declaration
import LibraryCalls.Proofs.Call.Image
import LibraryCalls.Proofs.Call.Closed
import LibraryCalls.Proofs.Library.Fit
import LibraryCalls.Proofs.Host.Depth
import LibraryCalls.Proofs.Host.Failure
import LibraryCalls.Proofs.Call.Culprit
import LibraryCalls.Proofs.Call.Renaming
import LibraryCalls.Proofs.Call.Unquoted
import LibraryCalls.Proofs.Placeholder.Occurrence
import LibraryCalls.Proofs.Placeholder.Template
import LibraryCalls.Proofs.Placeholder.Append
import LibraryCalls.Proofs.Library.Outcome
import LibraryCalls.Proofs.Library.Reordering
import LibraryCalls.Proofs.Switcher.Standard
import LibraryCalls.Proofs.Session.Queue
import LibraryCalls.Proofs.Web.Form
import LibraryCalls.Proofs.Web.Host
import LibraryCalls.Proofs.Web.Reading
import LibraryCalls.Proofs.Web.Hops
import LibraryCalls.Proofs.Web.Room
import LibraryCalls.Proofs.Source.Question
import LibraryCalls.Proofs.Source.Told
import LibraryCalls.Proofs.Json.Nesting
import LibraryCalls.Proofs.Json.Reordered
import LibraryCalls.Proofs.Json.RoundTrip
import LibraryCalls.Proofs.Text.Terminal
import LibraryCalls.Proofs.CommandLine.Parsed
import LibraryCalls.Proofs.Files.AtomicWrite
import LibraryCalls.Proofs.Files.Route
import LibraryCalls.Proofs.CommandLine.Inject
import LibraryCalls.Proofs.Call.Remainder
import LibraryCalls.Proofs.Source.Listing
