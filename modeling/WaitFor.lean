import WaitFor.Main
import WaitFor.Proofs.CommandLine.Check
import WaitFor.Proofs.Condition.Classification
import WaitFor.Proofs.Json.Documents
import WaitFor.Proofs.Path.Leading
import WaitFor.Proofs.Path.Matching
import WaitFor.Proofs.Path.RoundTrip
import WaitFor.Proofs.Waiter.Evaluation
import WaitFor.Proofs.Resource.Flattening
import WaitFor.Proofs.Resource.Key
import WaitFor.Proofs.Resource.History
import WaitFor.Proofs.Json.DocumentOrder
import WaitFor.Proofs.Path.DocumentOrder
import WaitFor.Proofs.Path.Descendants
import WaitFor.Proofs.Path.SliceRange
import WaitFor.Proofs.Path.Accepted
import WaitFor.Proofs.Path.Lexemes
import WaitFor.Proofs.Path.Nesting
import WaitFor.Proofs.Path.Extension
import WaitFor.Proofs.Path.Trailing
import WaitFor.Proofs.Path.Canonical
import WaitFor.Proofs.Waiter.Collecting
import WaitFor.Proofs.Resource.Reloading
import WaitFor.Proofs.Text.ByteOrder
import WaitFor.Proofs.Path.Comparisons
import WaitFor.Proofs.Numeric.Places
import WaitFor.Proofs.Numeric.Rounding
import WaitFor.Proofs.Path.NumberComparisons
import WaitFor.Proofs.Path.Composition
import WaitFor.Proofs.Waiter.Notes
import WaitFor.Proofs.Path.Progress
import WaitFor.Proofs.Path.FaultPositions
