/-!
# Styles of rendering

A style says what a rendering shows and which connectors draw the tree. There are four
connectors: in front of a cause with others after it, in front of the last cause, and
for the further lines below each of the two. A line without a message shows the
placeholder.
-/

namespace CauseTree

/-- What a rendering shows: the full message, the full message in quotes, the outline,
the outline with stack traces, or the nested records of a dump. -/
inductive Detail where
  | plain
  | quoted
  | tree
  | traces
  | dump
  deriving DecidableEq, Repr, Inhabited

/-- The detail and the connectors of a rendering. -/
structure Style where
  detail : Detail
  branch : String
  lastBranch : String
  continuation : String
  lastContinuation : String
  placeholder : String
  deriving DecidableEq, Repr, Inhabited

namespace Style

/-- An outline drawn with box characters. -/
def tree : Style := ⟨.tree, "├── ", "└── ", "│   ", "    ", "."⟩

/-- An outline with stack traces. -/
def verbose : Style := { tree with detail := .traces }

/-- An outline drawn with ASCII characters alone. -/
def ascii : Style :=
  { tree with branch := "|-- ", lastBranch := "\x60-- ", continuation := "|   " }

/-- The same connectors with another detail. -/
def showing (style : Style) (detail : Detail) : Style := { style with detail }

/-- The ASCII style with the detail of this one. Connectors and placeholder are replaced. -/
def toAscii (style : Style) : Style := ascii.showing style.detail

end Style

end CauseTree
