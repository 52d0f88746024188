import Upkeep.CommandLine
import Upkeep.Concurrency
import Upkeep.Config
import Upkeep.Decision.Action
import Upkeep.Decision.Apply
import Upkeep.Decision.Evaluate
import Upkeep.Decision.Template
import Upkeep.Decode
import Upkeep.Failure
import Upkeep.Fiber.Basic
import Upkeep.Fiber.Join
import Upkeep.Fiber.Pool
import Upkeep.GitHub.Client
import Upkeep.GitHub.Issues
import Upkeep.GitHub.Members
import Upkeep.GitHub.RateLimit
import Upkeep.GitHub.Rows
import Upkeep.Host
import Upkeep.Host.Ip4
import Upkeep.Host.Ip6
import Upkeep.Host.Mapping
import Upkeep.Host.Name
import Upkeep.Http.Message
import Upkeep.Http.Script
import Upkeep.Http.Transport
import Upkeep.Http.Url
import Upkeep.Issue.Pipeline
import Upkeep.Issue.Snapshot
import Upkeep.Json.Parser
import Upkeep.Json.Printer
import Upkeep.Main
import Upkeep.Policy.Record
import Upkeep.Policy.Registry
import Upkeep.Program
import Upkeep.Reference
import Upkeep.Services
import Upkeep.Simulation
import Upkeep.Sweep.Log
import Upkeep.Sweep.Lookup
import Upkeep.Sweep.Manager
import Upkeep.Sweep.Pool
import Upkeep.Sweep.Report
import Upkeep.Sweep.Tracker
import Upkeep.Text.Blank
import Upkeep.Text.Double
import Upkeep.Text.Numeral
import Upkeep.Text.PercentEncoding
import Upkeep.Text.Punycode
import Upkeep.Text.Search
import Upkeep.Time.Calendar
import Upkeep.Time.Delay
import Upkeep.Time.Instant
import Upkeep.Time.Rfc3339
import Upkeep.Time.Span
import Upkeep.Toml.Datetime
import Upkeep.Toml.Document
import Upkeep.Toml.Lexical
import Upkeep.Toml.Scalar
import Upkeep.Toml.Tree
import Upkeep.Unicode.Canonical
import Upkeep.Unicode.Direction
import Upkeep.Unicode.Joining
import Upkeep.Unicode.Mark
import Upkeep.Unicode.Normal
import Upkeep.Unicode.Table
import Upkeep.Value
import Upkeep.Wire.Decision
import Upkeep.Wire.Issue
import Upkeep.Wire.Policy
import Upkeep.Wire.Report
import Upkeep.World
import Upkeep.World.Change
import Upkeep.ZenHub
import Upkeep.Proofs.Decision.Labels
import Upkeep.Proofs.Decision.Plan
import Upkeep.Proofs.Decision.Closing
import Upkeep.Proofs.World.Actions
import Upkeep.Proofs.World.Interruption
import Upkeep.Proofs.Sweep.Items
import Upkeep.Proofs.Sweep.Convergence
import Upkeep.Proofs.Fiber.Independence
import Upkeep.Proofs.Sweep.Share
import Upkeep.Proofs.Sweep.Report
import Upkeep.Proofs.Decision.Sync
import Upkeep.Proofs.Sweep.Trail
import Upkeep.Proofs.Sweep.DryRun
import Upkeep.Proofs.Sweep.Isolation
import Upkeep.Proofs.Http.Address
import Upkeep.Proofs.GitHub.BotComment
import Upkeep.Proofs.Decision.Ageing
import Upkeep.Proofs.GitHub.Retry
import Upkeep.Proofs.Sweep.OneByOne
import Upkeep.Proofs.Sweep.Untouched
import Upkeep.Proofs.Policy.Configuration
import Upkeep.Proofs.Decision.SharedLabels
import Upkeep.Proofs.Decision.Announcement
import Upkeep.Proofs.Decision.Warning
import Upkeep.Proofs.Decision.Form
import Upkeep.Proofs.Decision.KnownLabels
import Upkeep.Proofs.World.Reordering
import Upkeep.Proofs.Fiber.Logs
import Upkeep.Proofs.Sweep.Conversation
import Upkeep.Proofs.Sweep.Accounting
import Upkeep.Proofs.GitHub.Listing
import Upkeep.Proofs.Sweep.ClosedItems
import Upkeep.Proofs.Fiber.Arrival
import Upkeep.Proofs.Sweep.EarliestFailure
import Upkeep.Proofs.Time.DelayText
import Upkeep.Proofs.Time.WrittenDelay
import Upkeep.Proofs.GitHub.Ceiling
import Upkeep.Proofs.GitHub.Pages
import Upkeep.Proofs.Text.Blank
import Upkeep.Proofs.Reference
import Upkeep.Proofs.Json.RoundTrip
import Upkeep.Proofs.Wire.Record
import Upkeep.Proofs.Wire.RoundTrip
import Upkeep.Proofs.GitHub.Memory
import Upkeep.Proofs.GitHub.Activity
import Upkeep.Proofs.GitHub.Signature
import Upkeep.Proofs.Decision.Placeholders
import Upkeep.Proofs.Time.Agreement
import Upkeep.Proofs.Wire.Invariants
import Upkeep.Proofs.Fiber.Sharing
import Upkeep.Proofs.GitHub.Steady
import Upkeep.Proofs.Services.Recall
import Upkeep.Proofs.Services.Lookups
import Upkeep.Proofs.Services.Transparency
import Upkeep.Proofs.Services.Scripted
import Upkeep.Proofs.GitHub.RateLimit
