import CauseTree.Fault.Message

/-!
# Causes

The line of a fault is the chain of nodes from it down to the first node that brings
causes together, or to one without a cause. The end of the line decides what the
causes of the fault are: those that it brings together, or the end itself if the line
has more than one node. A fault without a cause has no causes; it is not its own.

The sources of a fault follow the first of its causes, then the first of that one's
causes, and so on. Where they end at a foreign fault, the foreign fault's own sources
come after them.
-/

namespace CauseTree.Fault

/-- The nodes from a fault to the end of its line. -/
def line : Fault → List Fault
  | wrapped id note cause => wrapped id note cause :: cause.line
  | custom id node (some cause) none => custom id node (some cause) none :: cause.line
  | fault => [fault]

/-- The end of a fault's line. -/
def lineEnd : Fault → Fault
  | wrapped _ _ cause => cause.lineEnd
  | custom _ _ (some cause) none => cause.lineEnd
  | fault => fault

/-- The innermost fault that can be reached by single causes alone. -/
def innermost : Fault → Fault
  | wrapped _ _ cause => cause.innermost
  | custom _ _ (some cause) _ => cause.innermost
  | fault => fault

/-- The next level of causes. -/
def causes (fault : Fault) : List Fault :=
  match fault.lineEnd.causes? with
  | some causes => causes
  | none => if fault.cause?.isSome then [fault.lineEnd] else []

/-- The faults whose texts come after that of a fault in its chain of sources. Each is
the first of the causes of the one before it. `left` says whether a line has been
entered above this node, so that the end of the line counts as a cause. -/
def laterSources (left : Bool) : Fault → List Fault
  | wrapped _ _ cause => cause.laterSources true
  | custom _ _ (some cause) none => cause.laterSources true
  | joined _ (cause :: _) => cause :: cause.laterSources false
  | joined _ [] => []
  | rebuilt _ _ _ _ _ (cause :: _) => cause :: cause.laterSources false
  | rebuilt _ _ _ _ _ [] => []
  | custom _ _ _ (some (cause :: _)) => cause :: cause.laterSources false
  | custom _ _ _ (some []) => []
  | fault => if left then [fault] else []

/-- A fault and the faults that follow it as its chain of sources. -/
def sources (fault : Fault) : List Fault := fault :: fault.laterSources false

/-- The sources of a foreign fault itself. -/
def foreignSources : Fault → List String
  | foreign _ value => value.sources
  | _ => []

/-- The texts of a fault and of its chain of sources. -/
def sourceTexts (fault : Fault) : List String :=
  fault.sources.map text ++ (fault.sources.getLast?.map foreignSources).getD []

/-- The line ends where `lineEnd` says. -/
theorem getLast_line (fault : Fault) : fault.line.getLast? = some fault.lineEnd := by
  fun_induction line fault with
  | case1 id note cause inductionHypothesis =>
    simp [lineEnd, List.getLast?_cons, inductionHypothesis]
  | case2 id node cause inductionHypothesis =>
    simp [lineEnd, List.getLast?_cons, inductionHypothesis]
  | case3 fault notWrapped notCustom =>
    cases fault with
    | wrapped id note cause => exact absurd rfl (notWrapped id note cause)
    | custom id node cause causes =>
      cases cause with
      | none => simp [lineEnd]
      | some inner =>
        cases causes with
        | none => exact absurd rfl (notCustom id node inner)
        | some list => simp [lineEnd]
    | _ => simp [lineEnd]

end CauseTree.Fault
