import SessionBoard.Main
import SessionBoard.Proofs.App.Selection
import SessionBoard.Proofs.Dashboard.Convergence
import SessionBoard.Proofs.Dashboard.Rounds
import SessionBoard.Proofs.EventStream.Chunking
import SessionBoard.Proofs.SingleFlight.Coalescing
import SessionBoard.Proofs.SingleFlight.Exclusion
import SessionBoard.Proofs.SingleFlight.History
import SessionBoard.Proofs.Store.Attempts
import SessionBoard.Proofs.Store.Connectivity
import SessionBoard.Proofs.Store.Freshness
import SessionBoard.Proofs.Store.Health
import SessionBoard.Proofs.Store.Isolation
import SessionBoard.Proofs.Store.Pacing
import SessionBoard.Proofs.Store.Runs
import SessionBoard.Proofs.Store.Subscriptions
import SessionBoard.Proofs.Store.Supervision
import SessionBoard.Proofs.Table.Generations
import SessionBoard.Proofs.Table.Reconciled
import SessionBoard.Replay
import SessionBoard.Terminal
import SessionBoard.Proofs.EventStream.Blocks
import SessionBoard.Proofs.SingleFlight.Outcomes
import SessionBoard.Proofs.Json.Layout
import SessionBoard.Proofs.Json.Strings
import SessionBoard.Proofs.Json.Values
import SessionBoard.Proofs.Session.Fields
import SessionBoard.Proofs.Session.Members
import SessionBoard.Proofs.Session.Presentation
import SessionBoard.Proofs.Json.Written
import SessionBoard.Proofs.Session.RoundTrip
import SessionBoard.Proofs.Table.Reports
import SessionBoard.Proofs.Table.Interval
import SessionBoard.Proofs.App.UptimeSelection
import SessionBoard.Proofs.Uptime.Digits
import SessionBoard.Proofs.Uptime.Readings
import SessionBoard.Proofs.App.Pointer
import SessionBoard.Proofs.Table.Alignment
import SessionBoard.Proofs.Table.Highlight
import SessionBoard.Proofs.App.Copying
import SessionBoard.Proofs.Table.Geometry
import SessionBoard.Proofs.Table.Order
import SessionBoard.Proofs.Uptime.Cadence
import SessionBoard.Proofs.Clipboard
import SessionBoard.Proofs.Url.Endpoints
import SessionBoard.Proofs.Config.Creation
import SessionBoard.Proofs.Watched.App
