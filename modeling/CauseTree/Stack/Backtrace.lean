import CauseTree.Stack.Trace
import CauseTree.Text.Blank

/-!
# Reading a printed backtrace

A printed backtrace has one symbol on a line, with a number and a colon before it,
or without them when the symbol was inlined. A line that starts with `at` locates
the symbol before it by file, line and column, the column being optional. Blanks at
the ends of a line and blank lines carry no meaning.

The frames of the recording machinery come first in a recorded trace. They are
dropped, and as many of the frames after them as the caller asks to skip.
-/

namespace CauseTree.Backtrace

/-- Line numbers stay below this bound, the thirty-second power of two. -/
def lineLimit : Nat := 0x100000000

/-- The number that decimal digits stand for. -/
def decimal (digits : List Char) : Nat :=
  digits.foldl (fun value digit => value * 10 + (digit.toNat - '0'.toNat)) 0

/-- One more digit of a number that counts no further than the bound. -/
def nextDigit (value : Nat) (digit : Char) : Nat :=
  min lineLimit (value * 10 + (digit.toNat - '0'.toNat))

/-- The line number that digits stand for, when it is below the bound. However many
digits there are, the count stops at the bound. -/
def lineNumber? (digits : List Char) : Option Nat :=
  let value := digits.foldl nextDigit 0
  if value < lineLimit then some value else none

/-- Counting no further than the bound gives the number, or the bound if that is smaller. -/
theorem foldl_nextDigit (digits : List Char) :
    digits.foldl nextDigit 0 = min lineLimit (decimal digits) := by
  suffices counted : ∀ value, digits.foldl nextDigit (min lineLimit value) =
      min lineLimit
        (digits.foldl (fun value digit => value * 10 + (digit.toNat - '0'.toNat)) value) from
    counted 0
  induction digits with
  | nil => intro value; rfl
  | cons digit rest inductionHypothesis =>
    intro value
    have step : nextDigit (min lineLimit value) digit =
        min lineLimit (value * 10 + (digit.toNat - '0'.toNat)) := by
      simp only [nextDigit]
      omega
    simp only [List.foldl_cons, step, inductionHypothesis]

/-- Digits are a line number when the number that they stand for is below the bound. -/
theorem lineNumber?_eq (digits : List Char) :
    lineNumber? digits = if decimal digits < lineLimit then some (decimal digits) else none := by
  simp only [lineNumber?, foldl_nextDigit]
  split <;> split <;> simp <;> omega

/-- Cuts a colon and the digits after it from the end of a text. -/
def cutNumber? (text : List Char) : Option (List Char × List Char) :=
  match text.reverse.takeWhile Char.isDigit, text.reverse.dropWhile Char.isDigit with
  | digit :: digits, ':' :: before => some (before.reverse, (digit :: digits).reverse)
  | _, _ => none

/-- The file and line of a location. Up to two numbers are cut from its end. The one
further left is the line and the other the column, unless only one of them is there
or below the bound; and without a last number below the bound there is no line. -/
def splitLocation (location : List Char) : List Char × Option Nat :=
  match cutNumber? location with
  | none => (location, none)
  | some (start, last) =>
    match cutNumber? start with
    | none => (start, lineNumber? last)
    | some (file, first) =>
      (file, (lineNumber? last).map fun number => (lineNumber? first).getD number)

/-- The text after a given start, when it starts so. -/
def after? (start text : List Char) : Option (List Char) :=
  if start.isPrefixOf text then some (text.drop start.length) else none

/-- The symbol on a line, without the number and colon in front of it. -/
def symbol (line : List Char) : List Char :=
  match after? [':', ' '] (line.dropWhile Char.isDigit) with
  | some name => name
  | none => line

/-- Gives a location to the most recent frame, if there is one. -/
def locate (location : List Char) : List Frame → List Frame
  | [] => []
  | frame :: earlier =>
    let (file, line) := splitLocation location
    { frame with file := some (String.ofList file), line := line } :: earlier

/-- Reads one line after those that gave the frames, the most recent frame first. -/
def readLine (frames : List Frame) (line : List Char) : List Frame :=
  let text := Text.trim line
  if text.isEmpty then frames
  else match after? ['a', 't', ' '] text with
    | some location => locate location frames
    | none => ⟨String.ofList (symbol text), none, none⟩ :: frames

/-- The frames of a printed backtrace, in the order of their lines. -/
def frames (printed : String) : List Frame :=
  ((printed.toList.splitOn '\n').foldl readLine []).reverse

/-- Whether the frame belongs to the machinery that records a trace. -/
def isMachinery (frame : Frame) : Bool :=
  "std::backtrace".toList.isPrefixOf frame.function.toList ||
    "StackTrace::capture".toList.isSuffixOf frame.function.toList

/-- The frames from the last one of the machinery on, that one left out. All frames
stay when none belongs to the machinery. -/
def dropMachinery (frames : List Frame) : List Frame :=
  (frames.reverse.takeWhile fun frame => !isMachinery frame).reverse

/-- The trace recorded by the running program, less the machinery and `skip` callers. -/
def record (printed : String) (skip : Nat) : StackTrace :=
  ⟨(dropMachinery (frames printed)).drop skip, true⟩

end CauseTree.Backtrace
