import IndexSearch.Text.Basic
import IndexSearch.Text.Utf8
import IndexSearch.Text.Blank
import IndexSearch.Text.Numeral
import IndexSearch.Text.CodePoint
import IndexSearch.Text.CaseTable
import IndexSearch.Text.LowerCase
import IndexSearch.Text.CompositionTable
import IndexSearch.Text.Composition
import IndexSearch.Table
import IndexSearch.Fault
import IndexSearch.Report
import IndexSearch.Files.Tree
import IndexSearch.Files.Layout
import IndexSearch.Files.StaticRoot
import IndexSearch.Files.MediaType
import IndexSearch.Files.CommonTypes
import IndexSearch.Shard.Varint
import IndexSearch.Shard.Basic
import IndexSearch.Shard.Encoding
import IndexSearch.Search.MatchList
import IndexSearch.Search.Hit
import IndexSearch.Search.Engine
import IndexSearch.Search.Words
import IndexSearch.Shard.Load
import IndexSearch.Console
import IndexSearch.Http.Request
import IndexSearch.Http.Response
import IndexSearch.Http.Stream
import IndexSearch.Http.Connection
import IndexSearch.Url.Percent
import IndexSearch.Url.Form
import IndexSearch.Url.Address
import IndexSearch.Url.Domain.FoldTable
import IndexSearch.Url.Domain.Fold
import IndexSearch.Url.Domain.MarkTable
import IndexSearch.Url.Domain.Mark
import IndexSearch.Url.Domain.DirectionTable
import IndexSearch.Url.Domain.Direction
import IndexSearch.Url.Domain.JoiningTable
import IndexSearch.Url.Domain.Joiner
import IndexSearch.Url.Domain.Punycode
import IndexSearch.Url.Domain.Name
import IndexSearch.Url.Host
import IndexSearch.Url.Resolve
import IndexSearch.Site.Markup
import IndexSearch.Site.Page
import IndexSearch.Site.Answer
import IndexSearch.Site.Serve
import IndexSearch.Service.WorkerPool
import IndexSearch.Service.Listener
import IndexSearch.Settings
import IndexSearch.Service.Server
import IndexSearch.CommandLine.Usage
import IndexSearch.CommandLine.Help
import IndexSearch.CommandLine.Command
import IndexSearch.Program
import IndexSearch.Main
import IndexSearch.Proofs.Steps
import IndexSearch.Proofs.Text.Encoding
import IndexSearch.Proofs.Text.Pieces
import IndexSearch.Proofs.Text.Delimiters
import IndexSearch.Proofs.Text.Decimal
import IndexSearch.Proofs.Text.Words
import IndexSearch.Proofs.Text.WellFormed
import IndexSearch.Proofs.Text.LowerCase
import IndexSearch.Proofs.Table
import IndexSearch.Proofs.Files.Resolution
import IndexSearch.Proofs.Files.Reading
import IndexSearch.Proofs.Shard.Varint
import IndexSearch.Proofs.Shard.RoundTrip
import IndexSearch.Proofs.Shard.Loading
import IndexSearch.Proofs.Shard.Truncation
import IndexSearch.Proofs.Shard.Effort
import IndexSearch.Proofs.Search.Order
import IndexSearch.Proofs.Search.Sweep
import IndexSearch.Proofs.Search.Reference
import IndexSearch.Proofs.Search.Presentation
import IndexSearch.Proofs.Search.Zipper
import IndexSearch.Proofs.Search.Ranks
import IndexSearch.Proofs.Search.Terms
import IndexSearch.Proofs.Console.Transcript
import IndexSearch.Proofs.Http.Heads
import IndexSearch.Proofs.Http.Lines
import IndexSearch.Proofs.Http.Framing
import IndexSearch.Proofs.Http.LookAhead
import IndexSearch.Proofs.Http.Writing
import IndexSearch.Proofs.Http.Requests
import IndexSearch.Proofs.Http.RawLines
import IndexSearch.Proofs.Http.Slices
import IndexSearch.Proofs.Http.Headers
import IndexSearch.Proofs.Url.Percent
import IndexSearch.Proofs.Url.Spelling
import IndexSearch.Proofs.Url.Form
import IndexSearch.Proofs.Url.Path
import IndexSearch.Proofs.Url.Reference
import IndexSearch.Proofs.Site.Confinement
import IndexSearch.Proofs.Site.Injection
import IndexSearch.Proofs.Site.Links
import IndexSearch.Proofs.Site.Reaching
import IndexSearch.Proofs.Site.Searching
import IndexSearch.Proofs.Site.Serving
import IndexSearch.Proofs.Site.Client
import IndexSearch.Proofs.Site.ReadingPages
import IndexSearch.Proofs.Site.Breakdown
import IndexSearch.Proofs.Service.Delivery
import IndexSearch.Proofs.Service.Attrition
import IndexSearch.Proofs.Preconditions
