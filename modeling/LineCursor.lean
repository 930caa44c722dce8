import LineCursor.Bench
import LineCursor.Cursor.Walk
import LineCursor.Feed.Trait
import LineCursor.Location.Made
import LineCursor.Log.Registry
import LineCursor.Proofs.Bench.Readers
import LineCursor.Proofs.Bench.Report
import LineCursor.Proofs.Bench.Run
import LineCursor.Proofs.Bench.Statistics
import LineCursor.Proofs.Cursor.Accounting
import LineCursor.Proofs.Cursor.Demand
import LineCursor.Proofs.Cursor.EndMark
import LineCursor.Proofs.Cursor.Events
import LineCursor.Proofs.Cursor.Exhaustion
import LineCursor.Proofs.Cursor.Independence
import LineCursor.Proofs.Cursor.Iteration
import LineCursor.Proofs.Cursor.Location
import LineCursor.Proofs.Cursor.Order
import LineCursor.Proofs.Cursor.Overrun
import LineCursor.Proofs.Cursor.Reconstitution
import LineCursor.Proofs.Cursor.Retry
import LineCursor.Proofs.Datum
import LineCursor.Proofs.Datum.Copied
import LineCursor.Proofs.Datum.Order
import LineCursor.Proofs.Feed
import LineCursor.Proofs.Feed.EndMark
import LineCursor.Proofs.Feed.History
import LineCursor.Proofs.Feed.Memory
import LineCursor.Proofs.Feed.Relay
import LineCursor.Proofs.Feed.Twins
import LineCursor.Proofs.Json.Escape
import LineCursor.Proofs.Json.RoundTrip
import LineCursor.Proofs.Json.Scalar
import LineCursor.Proofs.Location
import LineCursor.Proofs.Log.Chronicle
import LineCursor.Proofs.Log.Emission
import LineCursor.Proofs.Log.Lineage
import LineCursor.Proofs.Log.Notice
import LineCursor.Proofs.Log.Registry
import LineCursor.Proofs.Log.Threshold
import LineCursor.Proofs.Settings.Derivation
import LineCursor.Proofs.Settings.Exchange
import LineCursor.Proofs.Settings.Validity
import LineCursor.Proofs.Tally
import LineCursor.Release
import LineCursor.Settings.Exchange
