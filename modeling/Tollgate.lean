import Tollgate.Admin.Handler
import Tollgate.Admin.Response
import Tollgate.Admin.Route
import Tollgate.Admin.Target
import Tollgate.Admin.Wire
import Tollgate.Assoc
import Tollgate.Assoc.Lemmas
import Tollgate.Breaker.Basic
import Tollgate.Breaker.Client
import Tollgate.Breaker.Registry
import Tollgate.Breaker.Registry.Run
import Tollgate.Breaker.Run
import Tollgate.Breaker.State
import Tollgate.Breaker.Windowed
import Tollgate.Broadcast
import Tollgate.Cli.Arguments
import Tollgate.Cli.Manage
import Tollgate.Cli.Reply
import Tollgate.Cli.Url
import Tollgate.Clock
import Tollgate.Config.Decode
import Tollgate.Config.Load
import Tollgate.Config.Settings
import Tollgate.Config.Violation
import Tollgate.Gate.Admission
import Tollgate.Gate.Basic
import Tollgate.Gate.Refusal
import Tollgate.Gate.Traffic
import Tollgate.Json.Reader
import Tollgate.Json.Value
import Tollgate.Json.Writer
import Tollgate.Lifecycle
import Tollgate.Main
import Tollgate.Number.Dyadic
import Tollgate.Number.Layout
import Tollgate.Number.Reading
import Tollgate.Number.Shortest
import Tollgate.PrefixTable
import Tollgate.Proofs.Admin.Authorization
import Tollgate.Proofs.Admin.Serving
import Tollgate.Proofs.Breaker.Aging
import Tollgate.Proofs.Breaker.Consistent
import Tollgate.Proofs.Breaker.Isolation
import Tollgate.Proofs.Breaker.Opened
import Tollgate.Proofs.Breaker.Operations
import Tollgate.Proofs.Breaker.Recovery
import Tollgate.Proofs.Breaker.Refusal
import Tollgate.Proofs.Breaker.Registry
import Tollgate.Proofs.Breaker.Simulation
import Tollgate.Proofs.Breaker.Story
import Tollgate.Proofs.Breaker.Telling
import Tollgate.Proofs.Breaker.Transition
import Tollgate.Proofs.Breaker.Trial
import Tollgate.Proofs.Breaker.Window
import Tollgate.Proofs.Cli.Naming
import Tollgate.Proofs.Cli.Obedience
import Tollgate.Proofs.Cli.Url
import Tollgate.Proofs.Config.Accepted
import Tollgate.Proofs.Config.Beginning
import Tollgate.Proofs.Config.Fields
import Tollgate.Proofs.Config.HalfWritten
import Tollgate.Proofs.Config.Setting
import Tollgate.Proofs.Config.StartsOut
import Tollgate.Proofs.Config.Violation
import Tollgate.Proofs.Gate.Charge
import Tollgate.Proofs.Gate.Facts
import Tollgate.Proofs.Gate.Frame
import Tollgate.Proofs.Gate.Moves
import Tollgate.Proofs.Gate.Protocol
import Tollgate.Proofs.Gate.Resembling
import Tollgate.Proofs.Gate.RetryAfter
import Tollgate.Proofs.Number.Rounding
import Tollgate.Proofs.Number.Seconds
import Tollgate.Proofs.Plaza.Basic
import Tollgate.Proofs.Plaza.Clock
import Tollgate.Proofs.Plaza.Truth
import Tollgate.Proofs.PrefixTable
import Tollgate.Proofs.PrefixTable.Listing
import Tollgate.Proofs.PrefixTable.Written
import Tollgate.Proofs.Session.Facts
import Tollgate.Proofs.Session.Frame
import Tollgate.Proofs.Session.HotReload
import Tollgate.Proofs.Session.InForce
import Tollgate.Proofs.Session.Isolation
import Tollgate.Proofs.Session.Reading
import Tollgate.Proofs.Session.Reload
import Tollgate.Proofs.Session.Resembling
import Tollgate.Proofs.Session.Restore
import Tollgate.Proofs.Session.Steps
import Tollgate.Proofs.Shutdown
import Tollgate.Proofs.Shutdown.Broadcast
import Tollgate.Proofs.Shutdown.Delivery
import Tollgate.Proofs.Spend.Amount
import Tollgate.Proofs.Spend.Expiry
import Tollgate.Proofs.Spend.Fitting
import Tollgate.Proofs.Spend.Ledger
import Tollgate.Proofs.Spend.Live
import Tollgate.Proofs.Spend.Period
import Tollgate.Proofs.Spend.Renaming
import Tollgate.Proofs.Spend.Report
import Tollgate.Proofs.Spend.Resembling
import Tollgate.Proofs.Spend.Run
import Tollgate.Proofs.Spend.Tenant
import Tollgate.Proofs.Spend.Writes
import Tollgate.Proofs.Telemetry.Reading
import Tollgate.Proofs.Text.Lowercase
import Tollgate.Proofs.Text.Percent
import Tollgate.Proofs.Toml.Growth
import Tollgate.Proofs.Toml.Line
import Tollgate.Proofs.Toml.LongString
import Tollgate.Proofs.Toml.Neat
import Tollgate.Proofs.Toml.Nested
import Tollgate.Proofs.Toml.Quoted
import Tollgate.Proofs.Toml.Slot
import Tollgate.Proofs.Toml.Steady
import Tollgate.Proofs.Toml.Torn
import Tollgate.Proofs.Toml.Within
import Tollgate.Proofs.Traffic.Books
import Tollgate.Proofs.Traffic.Completion
import Tollgate.Proofs.Traffic.Conservation
import Tollgate.Proofs.Traffic.Effect
import Tollgate.Proofs.Traffic.Facts
import Tollgate.Proofs.Traffic.Overspend
import Tollgate.Proofs.Traffic.Sequential
import Tollgate.Proofs.Traffic.Ticket
import Tollgate.Service.Address
import Tollgate.Service.Basic
import Tollgate.Service.Launch
import Tollgate.Session.Run
import Tollgate.Session.Step
import Tollgate.Shutdown
import Tollgate.Sorting
import Tollgate.Spend.Expiring
import Tollgate.Spend.Ledger
import Tollgate.Spend.Micros
import Tollgate.Spend.Run
import Tollgate.Spend.Store
import Tollgate.Telemetry.Event
import Tollgate.Telemetry.Exposition
import Tollgate.Telemetry.Filter
import Tollgate.Telemetry.Line
import Tollgate.Telemetry.Record
import Tollgate.Text.Alphanumeric
import Tollgate.Text.Blank
import Tollgate.Text.CharRange
import Tollgate.Text.Cut
import Tollgate.Text.Invisible
import Tollgate.Text.LetterCase
import Tollgate.Text.Lowercase
import Tollgate.Text.Percent
import Tollgate.Text.Quoted
import Tollgate.Text.Split
import Tollgate.Toml.Document
import Tollgate.Toml.Number
import Tollgate.Toml.Scan
import Tollgate.Toml.Value
import Tollgate.Watch
