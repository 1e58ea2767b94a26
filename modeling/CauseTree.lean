import CauseTree.Build.Join
import CauseTree.Build.Payload
import CauseTree.Conformance
import CauseTree.Fault.Reach
import CauseTree.Outline.Layout
import CauseTree.Proofs.Descent
import CauseTree.Snapshot.Json
import CauseTree.Stack.Backtrace
import CauseTree.Proofs.Lines
import CauseTree.Proofs.Layout
import CauseTree.Proofs.Classification
import CauseTree.Proofs.Outlines
import CauseTree.Proofs.Rebuild
import CauseTree.Proofs.Recovery
import CauseTree.Proofs.Lookups
import CauseTree.Proofs.Wire
import CauseTree.Proofs.Collectors
import CauseTree.Proofs.Shadowing
import CauseTree.Proofs.Wording
import CauseTree.Proofs.Vanishing
import CauseTree.Proofs.Messages
import CauseTree.Proofs.Readaptation
import CauseTree.Proofs.Inheritance
import CauseTree.Proofs.Declarations
import CauseTree.Proofs.Locations
import CauseTree.Proofs.Backtraces
import CauseTree.Proofs.Unambiguous
import CauseTree.Proofs.Dumps
import CauseTree.Proofs.Sources
import CauseTree.Proofs.Mismatches
import CauseTree.Proofs.Precedence
import CauseTree.Proofs.Routes
import CauseTree.Proofs.Transparency
import CauseTree.Proofs.Traces
import CauseTree.Proofs.ShortNames
import CauseTree.Proofs.Searches
