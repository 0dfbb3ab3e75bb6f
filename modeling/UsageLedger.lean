import UsageLedger.Bridge
import UsageLedger.Calendar.Date
import UsageLedger.Cli.Arguments
import UsageLedger.Cli.Report
import UsageLedger.Cli.Run
import UsageLedger.Config.Basic
import UsageLedger.Config.Reader
import UsageLedger.Database.Basic
import UsageLedger.Database.Cell
import UsageLedger.Database.Foreign
import UsageLedger.Database.Image
import UsageLedger.Database.Real
import UsageLedger.Database.Row
import UsageLedger.Digest.Sha256
import UsageLedger.Disk
import UsageLedger.Error
import UsageLedger.Event
import UsageLedger.Flag
import UsageLedger.Host
import UsageLedger.Json.Fields
import UsageLedger.Json.Printer
import UsageLedger.Json.Reader
import UsageLedger.Json.Token
import UsageLedger.Json.Value
import UsageLedger.Main
import UsageLedger.Path
import UsageLedger.Proofs.Accounting
import UsageLedger.Proofs.Agreement
import UsageLedger.Proofs.Appending
import UsageLedger.Proofs.Asking
import UsageLedger.Proofs.BacklogAccounts
import UsageLedger.Proofs.Batches
import UsageLedger.Proofs.BridgeMoves
import UsageLedger.Proofs.Buckets
import UsageLedger.Proofs.Calendar
import UsageLedger.Proofs.Commands
import UsageLedger.Proofs.Delivering
import UsageLedger.Proofs.ExactTotals
import UsageLedger.Proofs.FlagHistory
import UsageLedger.Proofs.Flushing
import UsageLedger.Proofs.ForeignRows
import UsageLedger.Proofs.Founding
import UsageLedger.Proofs.Fresh
import UsageLedger.Proofs.Gathering
import UsageLedger.Proofs.Grouping
import UsageLedger.Proofs.HomePaths
import UsageLedger.Proofs.HostRuns
import UsageLedger.Proofs.Hosting
import UsageLedger.Proofs.IdentityBytes
import UsageLedger.Proofs.JsonLayout
import UsageLedger.Proofs.JsonText
import UsageLedger.Proofs.JsonWords
import UsageLedger.Proofs.Layout
import UsageLedger.Proofs.Lifecycle
import UsageLedger.Proofs.Loading
import UsageLedger.Proofs.MergeOrder
import UsageLedger.Proofs.Merging
import UsageLedger.Proofs.Normalizing
import UsageLedger.Proofs.Numerals
import UsageLedger.Proofs.Opening
import UsageLedger.Proofs.Operations
import UsageLedger.Proofs.Phases
import UsageLedger.Proofs.Places
import UsageLedger.Proofs.Preparing
import UsageLedger.Proofs.ReadBack
import UsageLedger.Proofs.Recovery
import UsageLedger.Proofs.Redelivery
import UsageLedger.Proofs.Reports
import UsageLedger.Proofs.Restoring
import UsageLedger.Proofs.RestoringAgain
import UsageLedger.Proofs.Rollback
import UsageLedger.Proofs.RoundTrips
import UsageLedger.Proofs.Serving
import UsageLedger.Proofs.Session
import UsageLedger.Proofs.Settings
import UsageLedger.Proofs.Settling
import UsageLedger.Proofs.ShownTime
import UsageLedger.Proofs.SnapshotText
import UsageLedger.Proofs.StableSorts
import UsageLedger.Proofs.StampOrder
import UsageLedger.Proofs.StoredTime
import UsageLedger.Proofs.Survival
import UsageLedger.Proofs.Table
import UsageLedger.Proofs.TextBytes
import UsageLedger.Proofs.Totaling
import UsageLedger.Proofs.TotalsOfRuns
import UsageLedger.Proofs.Traffic
import UsageLedger.Proofs.Transfer
import UsageLedger.Proofs.WriteOrder
import UsageLedger.Record.Basic
import UsageLedger.Record.Codec
import UsageLedger.Snapshot.Basic
import UsageLedger.Snapshot.Codec
import UsageLedger.Snapshot.Keyed
import UsageLedger.Snapshot.Merge
import UsageLedger.Snapshot.Totals
import UsageLedger.Store.Basic
import UsageLedger.Store.Opening
import UsageLedger.Text.Basic
import UsageLedger.Text.Quoted
import UsageLedger.Text.Utf8
import UsageLedger.Time.Instant
import UsageLedger.Time.Printer
import UsageLedger.Time.Reader
import UsageLedger.Toml.Reader
import UsageLedger.Toml.Scalar
import UsageLedger.Toml.Value
