import CauseTree.Outline.Render

/-!
# The layout of an outline

The layout says line by line what a rendering of an outline is, without a writer and
without connectors that change: the lines of a branch are those of its own layout, the
first one behind a branch connector and the others behind a continuation.
-/

namespace CauseTree

namespace Entry

/-- The lines of a stack trace below an entry; one that is not the first comes after an
empty line. -/
def traceRows : List StackTrace → List String
  | [] => []
  | first :: later =>
    first.rows ++ [""] ++ later.flatMap fun stack => "" :: (stack.rows ++ [""])

/-- The lines of a message, the last one with the summary after it. -/
def withSummary (summary : String) : List String → List String
  | [] => [summary]
  | [line] => [line ++ summary]
  | line :: rest => line :: withSummary summary rest

/-- The lines of an entry. -/
def rows (style : Style) (entry : Entry) : List String :=
  withSummary entry.summary (entry.messageLines style) ++
    if style.detail = .traces then traceRows entry.filledTraces else []

end Entry

namespace Outline

/-- Puts one connector before the first line and another before all others. -/
def behind (first other : String) : List String → List String
  | [] => []
  | line :: rest => (first ++ line) :: rest.map (other ++ ·)

mutual

/-- The lines of an outline. -/
def rows (style : Style) : Outline → List String
  | ⟨entry, branches⟩ => entry.rows style ++ branchRows style branches

/-- The lines of branches, each behind its connectors. -/
def branchRows (style : Style) : List Outline → List String
  | [] => []
  | [branch] => behind style.lastBranch style.lastContinuation (branch.rows style)
  | branch :: next :: rest =>
    behind style.branch style.continuation (branch.rows style) ++ branchRows style (next :: rest)

end

/-- The lines of an outline as one text. -/
def layout (style : Style) (outline : Outline) : String := "\n".intercalate (outline.rows style)

end Outline

end CauseTree
