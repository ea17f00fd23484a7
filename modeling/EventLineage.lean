import EventLineage.Failure.Standard
import EventLineage.Failure.SystemErrors
import EventLineage.Failure.Wrapping
import EventLineage.Interleaving
import EventLineage.Log.Line
import EventLineage.Log.Pattern
import EventLineage.Text.Bytes
import EventLineage.Text.Letter
import EventLineage.Proofs.Causality
import EventLineage.Proofs.Diagnostics
import EventLineage.Proofs.Entry
import EventLineage.Proofs.Failure.Collaborators
import EventLineage.Proofs.Failure.Feedback
import EventLineage.Proofs.Failure.Naming
import EventLineage.Proofs.Interleaving.Completion
import EventLineage.Proofs.Lineage
import EventLineage.Proofs.LogRecords
import EventLineage.Proofs.Message
import EventLineage.Proofs.Origin
import EventLineage.Proofs.Storage.Entities
import EventLineage.Proofs.Storage.Invariants
import EventLineage.Proofs.Storage.Normal
import EventLineage.Proofs.Storage.Refusals
import EventLineage.Proofs.Trace
import EventLineage.Proofs.Json.Shape
