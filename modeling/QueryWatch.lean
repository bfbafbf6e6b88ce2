import QueryWatch.Main
import QueryWatch.Proofs.Daemon.Refusal
import QueryWatch.Proofs.Dashboard.Focus
import QueryWatch.Proofs.Dashboard.Shown
import QueryWatch.Proofs.Feed.Backoff
import QueryWatch.Proofs.Feed.Obedience
import QueryWatch.Proofs.Feed.Oversized
import QueryWatch.Proofs.Filter.Debounce
import QueryWatch.Proofs.Filter.Literal
import QueryWatch.Proofs.Operator.OneLine
import QueryWatch.Proofs.Operator.Seeing
import QueryWatch.Proofs.Operator.Sending
import QueryWatch.Proofs.Store.EarlyResult
import QueryWatch.Proofs.Store.EventOrder
import QueryWatch.Proofs.Store.Queue
import QueryWatch.Proofs.Store.Redelivery
import QueryWatch.Proofs.Store.Separation
import QueryWatch.Proofs.Store.Superseded
import QueryWatch.Proofs.Telemetry.Classification
import QueryWatch.Proofs.Telemetry.Encodings
import QueryWatch.Proofs.Telemetry.RoundTrip
import QueryWatch.Service.Basic
import QueryWatch.Proofs.Feed.Backoff
import QueryWatch.Proofs.Operator.OneLine
import QueryWatch.Proofs.Operator.Sending
