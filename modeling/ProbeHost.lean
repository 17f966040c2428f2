import ProbeHost.Main
import ProbeHost.Measurement.Catalog
import ProbeHost.Probe.Recorded
import ProbeHost.Probe.Scripted
import ProbeHost.Proofs.Guard.Calls
import ProbeHost.Proofs.Guard.Noted
import ProbeHost.Proofs.Guard.Sequence
import ProbeHost.Proofs.Lifecycle.Words
import ProbeHost.Proofs.Guard.Words
import ProbeHost.Proofs.Operator.Caching
import ProbeHost.Proofs.Operator.Loading
import ProbeHost.Proofs.Operator.Visits
import ProbeHost.Proofs.Operator.Ledger
import ProbeHost.Proofs.Operator.Accounts
import ProbeHost.Proofs.Operator.Sessions
import ProbeHost.Proofs.Text.Utf8
import ProbeHost.Proofs.Text.Numeral
import ProbeHost.Proofs.Json.Number
import ProbeHost.Proofs.Json.String
import ProbeHost.Proofs.Json.Codec
import ProbeHost.Proofs.Json.Record
import ProbeHost.Proofs.Measurement.Declared
import ProbeHost.Proofs.Operator.Histories
import ProbeHost.Proofs.Guard.Successes
import ProbeHost.Proofs.Operator.Lookups
import ProbeHost.Proofs.Measurement.Publication
import ProbeHost.Proofs.Runner.Polling
import ProbeHost.Proofs.TimeOfDay.Readings
import ProbeHost.Proofs.Runner.TimeOfDay
import ProbeHost.Proofs.Operator.Resolution
import ProbeHost.Proofs.Probe.Entry
import ProbeHost.Proofs.Json.Cut
import ProbeHost.Proofs.Measurement.Decoding
import ProbeHost.Proofs.Json.Grammar
import ProbeHost.Proofs.Json.Scanning
import ProbeHost.Proofs.Json.Skipping
import ProbeHost.Proofs.Json.Spelling
import ProbeHost.Proofs.Json.Denotation
import ProbeHost.Proofs.Json.Members
import ProbeHost.Proofs.Json.Forms
import ProbeHost.Proofs.TimeOfDay.Format
import ProbeHost.Proofs.Json.Compact
import ProbeHost.Proofs.Runner.JsonLines
import ProbeHost.Proofs.Config.Layers
import ProbeHost.Proofs.Text.ByteOrder
import ProbeHost.Proofs.Guard.Names
import ProbeHost.Proofs.Guard.Batches
import ProbeHost.Proofs.Config.Precedence
import ProbeHost.Proofs.TimeOfDay.Runs
import ProbeHost.Proofs.TimeOfDay.Differences
import ProbeHost.Proofs.Text.Decimal
import ProbeHost.Proofs.Config.Rate
import ProbeHost.Proofs.Json.Shapes
import ProbeHost.Proofs.Config.Shapes
import ProbeHost.Proofs.Guard.Journal
import ProbeHost.Proofs.Log.Verbosity
import ProbeHost.Proofs.Runner.Mentions
import ProbeHost.Proofs.Runner.Options
