import WafWatch.Attack.Classification
import WafWatch.Audit.Line
import WafWatch.Event.Json
import WafWatch.Store.Query
import WafWatch.Store.Snapshot
import WafWatch.Source.Basic
import WafWatch.Ingest.Tick
import WafWatch.Daemon.Launch
import WafWatch.Live.Session
import WafWatch.Metrics.Endpoint
import WafWatch.Main
import WafWatch.Simulation.Machine
import WafWatch.Simulation.Wording
import WafWatch.Proofs.Store.History
import WafWatch.Proofs.Source.FileTail
import WafWatch.Proofs.Ingest.Schedule
import WafWatch.Proofs.Ingest.Window
import WafWatch.Proofs.Live.Gapless
import WafWatch.Proofs.Live.Isolation
import WafWatch.Proofs.Settings.Agreement
import WafWatch.Proofs.Ingest.Announcement
import WafWatch.Proofs.Live.Numbering
import WafWatch.Proofs.Live.Receipt
import WafWatch.Proofs.Live.Station
import WafWatch.Proofs.Live.Totals
import WafWatch.Proofs.Live.Reader
import WafWatch.Proofs.Live.Dialogue
import WafWatch.Proofs.Live.Lifecycle
import WafWatch.Proofs.Service.Rollback
import WafWatch.Proofs.Live.Request
import WafWatch.Proofs.Live.Message
import WafWatch.Proofs.Attack.Evasion
import WafWatch.Proofs.Ingest.Contents
import WafWatch.Proofs.Live.Limits
import WafWatch.Proofs.Audit.Entry
import WafWatch.Proofs.Store.Busiest
import WafWatch.Proofs.Store.Recent
import WafWatch.Proofs.Text.Decoding
import WafWatch.Proofs.Source.CommandTail
import WafWatch.Proofs.Ingest.LineLimit
import WafWatch.Proofs.Source.Retry
import WafWatch.Proofs.Time.OffsetClock
import WafWatch.Proofs.Audit.Dating
import WafWatch.Proofs.Live.Outflow
import WafWatch.Proofs.Settings.Part
import WafWatch.Proofs.Settings.Precedence
import WafWatch.Proofs.Metrics.Readings
import WafWatch.Proofs.Metrics.Subscribers
import WafWatch.Proofs.Metrics.Reconciliation
import WafWatch.Proofs.Service.Aggregation
import WafWatch.Proofs.Ingest.Lifecycle
import WafWatch.Proofs.Source.Fallback
import WafWatch.Proofs.Ingest.Health
import WafWatch.Proofs.Ingest.Rereading
import WafWatch.Proofs.Source.Chunks
import WafWatch.Proofs.Attack.OnePass
import WafWatch.Proofs.Attack.Dots
import WafWatch.Proofs.Net.Address
import WafWatch.Proofs.Metrics.Endpoint
