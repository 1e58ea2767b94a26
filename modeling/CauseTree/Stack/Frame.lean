import CauseTree.Text.Quoted

/-!
# Stack frames

A frame names a function by its path, with segments separated by `::`, and says
where the call stands when that is known. The short name of a function is its last
segment. A segment that opens with two braces stands for a closure and keeps the
segment before it, so that a closure can still be told from its neighbours.
-/

namespace CauseTree

/-- One call: the function, and the file and line when they are known. -/
structure Frame where
  function : String
  file : Option String
  line : Option Nat
  deriving DecidableEq, Repr, Inhabited

namespace Frame

/-- Whether a path segment stands for a closure. -/
def isClosure (segment : List Char) : Bool := ['\x7b', '\x7b'].isPrefixOf segment

/-- Scans a path from its end. `before` is what is left to scan, last character
first; `segment` is what has been read of the current segment and `after` what
follows it. The first separator before a segment that is no closure ends the scan. -/
def shortFrom (before segment after : List Char) : Option (List Char) :=
  match before with
  | c :: d :: earlier =>
    if c = ':' ∧ d = ':' then
      if isClosure segment then shortFrom earlier [] (':' :: ':' :: segment ++ after)
      else some (segment ++ after)
    else shortFrom (d :: earlier) (c :: segment) after
  | _ => none

/-- A function path without the path of its module. -/
def shortPath (path : List Char) : List Char := (shortFrom path.reverse [] []).getD path

/-- The frame's function without its module path. -/
def shortFunction (frame : Frame) : String := String.ofList (shortPath frame.function.toList)

/-- The file and line. A line without a file says nothing. -/
def location (frame : Frame) : String :=
  match frame.file, frame.line with
  | some file, some line => file ++ ":" ++ line.repr
  | some file, none => file
  | none, _ => "<unknown>"

/-- The location and the short function, as a snapshot keeps them. -/
def entry (frame : Frame) : String := frame.location ++ ":" ++ frame.shortFunction

/-- The frame in the notation of a record. -/
def dump (frame : Frame) : String :=
  let line := match frame.line with
    | none => "None"
    | some line => "Some(" ++ line.repr ++ ")"
  "Frame \x7b function: " ++ Text.quoted frame.function ++ ", file: " ++
    Text.quotedOption frame.file ++ ", line: " ++ line ++ " \x7d"

end Frame

end CauseTree
