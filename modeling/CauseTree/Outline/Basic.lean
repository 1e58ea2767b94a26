import CauseTree.Fault.Causes
import CauseTree.Fault.Classification

/-!
# Outlines

An outline shows a graph of causes with one entry for each line of single causes. An
entry gathers what its nodes say: their messages, type names, tags and stack traces.
The causes at the end of the line have outlines of their own below it. Tree renderings and
snapshots read nothing of a fault but its outline.

Empty messages are left out. A line that ends at a node without a message of its own
and without causes takes the full text of that node, so that foreign faults show.
-/

namespace CauseTree

/-- What one line of single causes shows. -/
structure Entry where
  messages : List String
  types : List String
  tags : List Tag
  traces : List StackTrace
  deriving DecidableEq, Repr, Inhabited

namespace Entry

/-- The messages, outermost first, with colons between them. -/
def message (entry : Entry) : String := ": ".intercalate entry.messages

/-- The stack traces that have frames. -/
def filledTraces (entry : Entry) : List StackTrace :=
  entry.traces.filter fun trace => !trace.isEmpty

end Entry

/-- Entries in a tree: one for a line, with those of the causes at its end below it. -/
structure Outline where
  entry : Entry
  branches : List Outline

namespace Fault

/-- The own message of a node, when it has one that is not empty. -/
def shownMessage? (fault : Fault) : Option String :=
  fault.message?.filter fun message => !message.isEmpty

/-- The text of a node that ends a line without causes and without a message of its own. -/
def closingMessage? (fault : Fault) : Option String :=
  match fault.causes?, fault.message? with
  | none, none => if fault.text.isEmpty then none else some fault.text
  | _, _ => none

/-- What the line of a fault shows. -/
def entry (fault : Fault) : Entry where
  messages := fault.line.filterMap shownMessage? ++ fault.lineEnd.closingMessage?.toList
  types := distinctNames (fault.line.flatMap ownKinds)
  tags := Ordered.sort (fault.line.flatMap ownTags)
  traces := fault.line.filterMap stack?

mutual

/-- The outlines of the causes at the end of a fault's line. -/
def branches : Fault → List Outline
  | wrapped _ _ cause => cause.branches
  | joined _ causes => outlines causes
  | rebuilt _ _ _ _ _ causes => outlines causes
  | custom _ _ _ (some causes) => outlines causes
  | custom _ _ (some cause) none => cause.branches
  | _ => []

/-- The outlines of several faults, in order. -/
def outlines : List Fault → List Outline
  | [] => []
  | fault :: rest => ⟨fault.entry, fault.branches⟩ :: outlines rest

end

/-- The outline of a fault. -/
def outline (fault : Fault) : Outline := ⟨fault.entry, fault.branches⟩

end Fault

end CauseTree
