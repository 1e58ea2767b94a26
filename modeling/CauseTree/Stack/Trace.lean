import CauseTree.Stack.Frame

/-!
# Stack traces

A stack trace lists frames, the most recent call first. It is either supplied from
outside or recorded where a fault is made. The frames of a recorded trace depend on
the running program, so a trace says whether it was recorded, and a reader who needs
repeatable output can leave such traces out.
-/

namespace CauseTree

/-- Frames, most recent first, and whether they were recorded by the running program. -/
structure StackTrace where
  frames : List Frame
  recorded : Bool
  deriving DecidableEq, Repr, Inhabited

namespace StackTrace

/-- A trace supplied from outside. -/
def ofFrames (frames : List Frame) : StackTrace := ⟨frames, false⟩

/-- A trace without frames. -/
def empty : StackTrace := ofFrames []

/-- The number of frames. -/
def size (trace : StackTrace) : Nat := trace.frames.length

/-- Whether there is no frame. -/
def isEmpty (trace : StackTrace) : Bool := trace.frames.isEmpty

/-- Two lines for each frame: the function, and its location after a tab. -/
def text (trace : StackTrace) : String :=
  "\n".intercalate (trace.frames.map fun frame => frame.function ++ "\n\t" ++ frame.location)

/-- The frames in the notation of records, between brackets. -/
def dump (trace : StackTrace) : String :=
  "[" ++ ", ".intercalate (trace.frames.map Frame.dump) ++ "]"

/-- The frames as a snapshot keeps them. -/
def entries (trace : StackTrace) : List String := trace.frames.map Frame.entry

end StackTrace

end CauseTree
