import CauseTree.Fault.Dump
import CauseTree.Outline.Basic
import CauseTree.Outline.Style

/-!
# Rendering

An outline is written in one pass. The writer keeps the connectors of the current line,
one for each level, innermost first, and only the innermost one changes from line to
line: it is a branch on the first line of an entry and a continuation on those after
it. Entering a level fixes the connector of the level above as a continuation.
-/

namespace CauseTree

/-- The position of an entry among its siblings, and whether it starts on a new line. -/
structure Place where
  index : Nat
  count : Nat
  onNewLine : Bool
  deriving DecidableEq, Repr, Inhabited

namespace Place

/-- The position of the outermost entry. -/
def root : Place := ⟨0, 1, false⟩

/-- Whether no sibling comes after the entry. -/
def isLast (place : Place) : Bool := place.count ≤ place.index + 1

end Place

namespace Style

/-- The connector on the first line of an entry. -/
def branchAt (style : Style) (place : Place) : String :=
  if place.isLast then style.lastBranch else style.branch

/-- The connector on the further lines of an entry and on those below it. -/
def continuationAt (style : Style) (place : Place) : String :=
  if place.isLast then style.lastContinuation else style.continuation

end Style

/-- What has been written so far, and the connectors of the current line, innermost first. -/
structure Writer where
  text : String
  connectors : List String
  deriving DecidableEq, Repr, Inhabited

namespace Writer

/-- Adds a piece of text. -/
def write (writer : Writer) (piece : String) : Writer :=
  { writer with text := writer.text ++ piece }

/-- Replaces the innermost connector, if there is one. -/
def connect (writer : Writer) (connector : String) : Writer :=
  match writer.connectors with
  | [] => writer
  | _ :: outer => { writer with connectors := connector :: outer }

/-- Ends the line and goes on in the same entry. -/
def newLine (style : Style) (place : Place) (writer : Writer) : Writer :=
  (writer.write "\n").connect (style.continuationAt place)

/-- Writes the connectors, outermost first. -/
def indent (writer : Writer) : Writer :=
  writer.connectors.reverse.foldl write writer

/-- Opens the level below an entry. -/
def enter (style : Style) (place : Place) (writer : Writer) : Writer :=
  let writer := writer.connect (style.continuationAt place)
  { writer with connectors := "" :: writer.connectors }

/-- Closes the innermost level. -/
def leave (writer : Writer) : Writer := { writer with connectors := writer.connectors.tail }

/-- Writes each piece on a new line of the entry. -/
def continueWith (style : Style) (place : Place) (pieces : List String) (writer : Writer) :
    Writer :=
  pieces.foldl (fun writer piece => (writer.newLine style place).indent.write piece) writer

/-- Writes the lines of a message, the first one on the current line. -/
def message (style : Style) (place : Place) (lines : List String) (writer : Writer) : Writer :=
  match lines with
  | [] => writer
  | first :: later => (writer.indent.write first).continueWith style place later

end Writer

/-- The two lines of each frame: the function, and the location after a tab. -/
def StackTrace.rows (trace : StackTrace) : List String :=
  trace.frames.flatMap fun frame => [frame.function, "\t" ++ frame.location]

namespace Entry

/-- The lines of the message, or of the placeholder where there is no message. -/
def messageLines (style : Style) (entry : Entry) : List String :=
  let message := if entry.messages.isEmpty then style.placeholder else entry.message
  (message.toList.splitOn '\n').map String.ofList

/-- The type names between parentheses and the tags between brackets, where there are any. -/
def summary (entry : Entry) : String :=
  (if entry.types.isEmpty then "" else " (" ++ " ".intercalate entry.types ++ ")") ++
    (if entry.tags.isEmpty then "" else " [" ++ " ".intercalate (entry.tags.map Tag.text) ++ "]")

/-- Writes the stack traces, each with an empty line after it, and one before it if it
is not the first. -/
def writeTraces (style : Style) (place : Place) (traces : List StackTrace) (writer : Writer) :
    Writer :=
  match traces with
  | [] => writer
  | first :: later =>
    later.foldl
      (fun writer stack => writer.continueWith style place ("" :: (stack.rows ++ [""])))
      (writer.continueWith style place (first.rows ++ [""]))

/-- Writes the lines of an entry. -/
def write (style : Style) (place : Place) (entry : Entry) (writer : Writer) : Writer :=
  let writer := if place.onNewLine then writer.newLine style place else writer
  let writer := writer.connect (style.branchAt place)
  let writer := (writer.message style place (entry.messageLines style)).write entry.summary
  if style.detail = .traces then writeTraces style place entry.filledTraces writer else writer

end Entry

namespace Outline

mutual

/-- Writes an outline: its entry, then its branches one level further in. -/
def write (style : Style) (place : Place) : Outline → Writer → Writer
  | ⟨entry, branches⟩, writer =>
    let writer := (entry.write style place writer).enter style place
    (writeBranches style 0 branches.length branches writer).leave

/-- Writes the branches from a position on. -/
def writeBranches (style : Style) (index count : Nat) : List Outline → Writer → Writer
  | [], writer => writer
  | branch :: rest, writer =>
    writeBranches style (index + 1) count rest (write style ⟨index, count, true⟩ branch writer)

end

/-- The text of an outline. -/
def render (style : Style) (outline : Outline) : String :=
  (outline.write style .root ⟨"", []⟩).text

end Outline

/-- The text of a fault in a style. -/
def Fault.render (style : Style) (fault : Fault) : String :=
  match style.detail with
  | .plain => fault.text
  | .quoted => Text.quoted fault.text
  | .tree => fault.outline.render style
  | .traces => fault.outline.render style
  | .dump => fault.dump

end CauseTree
