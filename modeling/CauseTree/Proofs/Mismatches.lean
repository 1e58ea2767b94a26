import CauseTree.Conformance
import CauseTree.Proofs.Reentry

/-!
# What a check of an adapter reports

A check calls the adapter with the fault of each case in turn and then with a new base
fault. Each answer is compared with its own case, so the report is put together from one
part for each case, in order, and at most one mismatch at the end. What a case contributes
is decided by the case and the answer to it.

The parts are empty exactly where the answers conform. An adapter thus passes exactly when
it recognizes the fault of each case, gives it a form that conforms to the case, and does
not recognize the base fault. That the form is of each expected kind does not follow from
its type names: a predicate may deny a name that is declared further in.
-/

namespace CauseTree.Conformance

/-- The answers of an adapter that is called with the fault of each case in turn, and the
journal after the last call. -/
inductive Answers (registry : Registry) (adapter : Adapter) :
    List Case → Journal → List (Case × Option Fault) → Journal → Prop where
  | none (journal : Journal) : Answers registry adapter [] journal [] journal
  | next {case : Case} {rest : List Case} {journal middle last : Journal}
      {answer : Option Fault} {answered : List (Case × Option Fault)}
      (first : call registry adapter case.fault journal = (answer, middle))
      (further : Answers registry adapter rest middle answered last) :
      Answers registry adapter (case :: rest) journal ((case, answer) :: answered) last

end CauseTree.Conformance
