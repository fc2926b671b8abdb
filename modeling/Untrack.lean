import Untrack.Main
import Untrack.Number.Shortest
import Untrack.Proofs.Command.Lines
import Untrack.Proofs.Command.Refreshing
import Untrack.Proofs.Message.Unchanged
import Untrack.Proofs.Query.Altered
import Untrack.Proofs.Query.Spelling
import Untrack.Proofs.Refresh.Loop
import Untrack.Proofs.Ruleset.Backslashes
import Untrack.Proofs.Ruleset.Canonical
import Untrack.Proofs.Ruleset.Faults
import Untrack.Proofs.Ruleset.FirstFault
import Untrack.Proofs.Ruleset.Relevance
import Untrack.Proofs.Sanitizer.Calls
import Untrack.Proofs.Sanitizer.Cycles
import Untrack.Proofs.Sanitizer.Hosts
import Untrack.Proofs.Sanitizer.Idempotence
import Untrack.Proofs.Sanitizer.Noted
import Untrack.Proofs.Sanitizer.Thinning
import Untrack.Proofs.Store.Provenance
import Untrack.Proofs.Store.Sharing
