import ChainGateway.Admission.Classifier
import ChainGateway.Admission.Client
import ChainGateway.Admission.Gate
import ChainGateway.Admission.Lane
import ChainGateway.Admission.LaneQueue
import ChainGateway.Admission.RateLimiter
import ChainGateway.Admission.RateWindow
import ChainGateway.Binary.Number
import ChainGateway.Binary.Shortest
import ChainGateway.Binary.Text
import ChainGateway.Cache.Key
import ChainGateway.Cache.Overrides
import ChainGateway.Cache.Policy
import ChainGateway.Cache.ReadThrough
import ChainGateway.Cache.Reader
import ChainGateway.Cache.Registry
import ChainGateway.Cache.Report
import ChainGateway.Cache.Store
import ChainGateway.Call
import ChainGateway.Epoch.Marker
import ChainGateway.Epoch.Tracker
import ChainGateway.Epoch.Watch
import ChainGateway.Error
import ChainGateway.Gateway.Basic
import ChainGateway.Gateway.Step
import ChainGateway.Json.Codec
import ChainGateway.Json.Lexeme
import ChainGateway.Json.Numeral
import ChainGateway.Json.Record
import ChainGateway.Json.Skip
import ChainGateway.Json.Value
import ChainGateway.Metrics.Exposition
import ChainGateway.Metrics.Meters
import ChainGateway.Metrics.PathLabel
import ChainGateway.Model.Atom
import ChainGateway.Model.Block
import ChainGateway.Model.Contract
import ChainGateway.Model.Epoch
import ChainGateway.Model.Flip
import ChainGateway.Model.Identity
import ChainGateway.Model.Kind
import ChainGateway.Model.Page
import ChainGateway.Model.Search
import ChainGateway.Net.Address
import ChainGateway.Net.Percent
import ChainGateway.Net.Target
import ChainGateway.Operation
import ChainGateway.Pattern.Basic
import ChainGateway.Pattern.Bracket
import ChainGateway.Pattern.Escape
import ChainGateway.Pattern.Flags
import ChainGateway.Pattern.Layout
import ChainGateway.Pattern.Match
import ChainGateway.Pattern.Parser
import ChainGateway.Pending
import ChainGateway.Proofs.Admission.Conservation
import ChainGateway.Proofs.Admission.Discipline
import ChainGateway.Proofs.Admission.GateLaws
import ChainGateway.Proofs.Admission.Isolation
import ChainGateway.Proofs.Admission.LaneView
import ChainGateway.Proofs.Admission.Ledger
import ChainGateway.Proofs.Admission.Orderly
import ChainGateway.Proofs.Admission.RateCeiling
import ChainGateway.Proofs.Admission.RateHistory
import ChainGateway.Proofs.Admission.RateIndependence
import ChainGateway.Proofs.Admission.RateLaws
import ChainGateway.Proofs.Admission.RateRange
import ChainGateway.Proofs.Admission.RateTallies
import ChainGateway.Proofs.Admission.RetryHint
import ChainGateway.Proofs.Admission.Service
import ChainGateway.Proofs.Admission.StandardPattern
import ChainGateway.Proofs.Admission.Standings
import ChainGateway.Proofs.Admission.Turns
import ChainGateway.Proofs.Admission.Turnstile
import ChainGateway.Proofs.Binary.TextLaws
import ChainGateway.Proofs.Cache.Expiry
import ChainGateway.Proofs.Cache.Freshness
import ChainGateway.Proofs.Cache.Holdings
import ChainGateway.Proofs.Cache.KeyLaws
import ChainGateway.Proofs.Cache.KeyTexts
import ChainGateway.Proofs.Cache.Lifetimes
import ChainGateway.Proofs.Cache.Lives
import ChainGateway.Proofs.Cache.OverrideLaws
import ChainGateway.Proofs.Cache.ReaderLaws
import ChainGateway.Proofs.Cache.RegistryLaws
import ChainGateway.Proofs.Cache.Retention
import ChainGateway.Proofs.Cache.Session
import ChainGateway.Proofs.Cache.StoreLaws
import ChainGateway.Proofs.Cache.Transcript
import ChainGateway.Proofs.Epoch.Books
import ChainGateway.Proofs.Epoch.Chronicle
import ChainGateway.Proofs.Epoch.Timetable
import ChainGateway.Proofs.Epoch.Tracking
import ChainGateway.Proofs.Epoch.Waking
import ChainGateway.Proofs.Gateway.Course
import ChainGateway.Proofs.Gateway.Endurance
import ChainGateway.Proofs.Gateway.Exclusion
import ChainGateway.Proofs.Gateway.Gauges
import ChainGateway.Proofs.Gateway.Lanes
import ChainGateway.Proofs.Gateway.Pages
import ChainGateway.Proofs.Gateway.Reads
import ChainGateway.Proofs.Gateway.RetryHeaders
import ChainGateway.Proofs.Gateway.Visits
import ChainGateway.Proofs.Json.CodecLaws
import ChainGateway.Proofs.Json.LexemeLaws
import ChainGateway.Proofs.Json.NumeralLaws
import ChainGateway.Proofs.Json.RecordLaws
import ChainGateway.Proofs.Labels
import ChainGateway.Proofs.Metrics.Identifiers
import ChainGateway.Proofs.Metrics.SegmentLabels
import ChainGateway.Proofs.Model.Lossless
import ChainGateway.Proofs.Model.Records
import ChainGateway.Proofs.Net.CanonicalTexts
import ChainGateway.Proofs.Net.PercentLaws
import ChainGateway.Proofs.Net.Spellings
import ChainGateway.Proofs.Pattern.Matching
import ChainGateway.Proofs.Pattern.Room
import ChainGateway.Proofs.Remote.Queries
import ChainGateway.Proofs.Remote.Segments
import ChainGateway.Proofs.Results
import ChainGateway.Proofs.Schedule.Heeding
import ChainGateway.Proofs.Text.BlankLaws
import ChainGateway.Proofs.Text.LowerLaws
import ChainGateway.Proofs.Text.NumeralLaws
import ChainGateway.Proofs.Text.PieceLaws
import ChainGateway.Proofs.Time.CalendarLaws
import ChainGateway.Proofs.Time.Delays
import ChainGateway.Proofs.Time.TimestampTexts
import ChainGateway.Proofs.Time.Waits
import ChainGateway.Proofs.Web.Callers
import ChainGateway.Proofs.Web.Paging
import ChainGateway.Proofs.Web.QueryLaws
import ChainGateway.Proofs.Web.Routing
import ChainGateway.Rehearsal.Admission
import ChainGateway.Rehearsal.Backend
import ChainGateway.Rehearsal.Caching
import ChainGateway.Rehearsal.Gateway
import ChainGateway.Rehearsal.Notation.Field
import ChainGateway.Rehearsal.Notation.Script
import ChainGateway.Rehearsal.Notation.Subject
import ChainGateway.Rehearsal.RateWindow
import ChainGateway.Rehearsal.Registry
import ChainGateway.Rehearsal.Result
import ChainGateway.Rehearsal.Store
import ChainGateway.Rehearsal.Tracker
import ChainGateway.Remote.Domain.Direction
import ChainGateway.Remote.Domain.Joining
import ChainGateway.Remote.Domain.Label
import ChainGateway.Remote.Domain.Mapping
import ChainGateway.Remote.Host
import ChainGateway.Remote.Indexer
import ChainGateway.Remote.Punycode
import ChainGateway.Remote.Url.Basic
import ChainGateway.Remote.Url.Parser
import ChainGateway.Schedule.Agenda
import ChainGateway.Schedule.Periodic
import ChainGateway.Schedule.Signal
import ChainGateway.Settings.Environment
import ChainGateway.Settings.Gateway
import ChainGateway.Settings.Telemetry
import ChainGateway.Text.Blank
import ChainGateway.Text.ByteRange
import ChainGateway.Text.Canonical.Composed
import ChainGateway.Text.Canonical.Order
import ChainGateway.Text.Canonical.Pair
import ChainGateway.Text.CaseFold
import ChainGateway.Text.CharSet
import ChainGateway.Text.CharTable
import ChainGateway.Text.Digit
import ChainGateway.Text.Letter
import ChainGateway.Text.Lowercase
import ChainGateway.Text.Mark
import ChainGateway.Text.Numeral
import ChainGateway.Text.Pieces
import ChainGateway.Text.Property.Age
import ChainGateway.Text.Property.Basic
import ChainGateway.Text.Property.Category
import ChainGateway.Text.Property.Letter
import ChainGateway.Text.Property.Query
import ChainGateway.Text.Property.Script
import ChainGateway.Text.Property.ScriptExtension
import ChainGateway.Text.Property.Segment
import ChainGateway.Text.Property.Sign
import ChainGateway.Text.Quoted
import ChainGateway.Text.Utf8
import ChainGateway.Text.Word
import ChainGateway.Time.Calendar
import ChainGateway.Time.Span
import ChainGateway.Time.Timestamp
import ChainGateway.Web.CrossOrigin
import ChainGateway.Web.Envelope
import ChainGateway.Web.Form
import ChainGateway.Web.Health
import ChainGateway.Web.Problem
import ChainGateway.Web.Query
import ChainGateway.Web.Reply
import ChainGateway.Web.Request
import ChainGateway.Web.Route
import ChainGateway.Web.Site
