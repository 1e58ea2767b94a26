import CauseTree.Build.Layer
import CauseTree.Fault.Causes
import CauseTree.Fault.Classification
import CauseTree.Fault.Dump

/-!
# Conformance of adapters

An adapter is checked against cases. Each case gives a foreign fault and says what the
adapted fault must show: its own message, all its type names and all its tags. The
adapted fault must also be of each expected type, must have a message at all, and must
lead back to the foreign fault. At the end the adapter must not recognize a base fault.

The adapter is called directly and not by the registry, so what it builds is adapted,
and the journal notes the call after those that it caused. The findings of one case do
not depend on the other cases.
-/

namespace CauseTree.Conformance

/-- A foreign fault and what an adapter is expected to make of it. -/
structure Case where
  fault : Fault
  message : String
  types : List String
  tags : List Tag

/-- One way in which an adapted fault differs from what its case expects. -/
inductive Finding where
  | unrecognized
  | wrongKind (adapted : Fault) (kind : String)
  | types (expected found : List String)
  | tags (expected found : List Tag)
  | message (expected found : String)
  | silent (adapted : Fault)
  | cause (found : Fault)

/-- A finding about a case, or a base fault that was recognized. -/
inductive Mismatch where
  | case (subject : Fault) (finding : Finding)
  | recognizedBase (adapted : Fault)

/-- The wording of a finding. -/
def Finding.text : Finding → String
  | unrecognized => "the error was not recognized"
  | wrongKind adapted kind =>
    adapted.dump ++ " was expected to be a " ++ Text.quoted kind ++ " error"
  | types expected found =>
    "types mismatch: expected " ++ Text.quotedList expected ++ ", found " ++ Text.quotedList found
  | tags expected found =>
    "tags mismatch: expected " ++ Tag.dumpList expected ++ ", found " ++ Tag.dumpList found
  | message expected found =>
    "message mismatch: expected " ++ Text.quoted expected ++ ", found " ++ Text.quoted found
  | silent adapted => adapted.dump ++ " has no error message"
  | cause found => "invalid cause: " ++ found.dump

/-- The wording of a mismatch. A case is named by the type and the text of its fault. -/
def Mismatch.text : Mismatch → String
  | case subject finding => subject.typeName ++ "(" ++ subject.text ++ "): " ++ finding.text
  | recognizedBase adapted => "a plain error must not be recognized, got " ++ adapted.dump

/-- A finding that holds only under a condition. -/
def findIf (condition : Bool) (finding : Finding) : List Finding :=
  if condition then [finding] else []

/-- What is wrong with an adapted fault, in the order of the checks. -/
def findings (case : Case) (adapted : Fault) : List Finding :=
  (case.types.filter fun kind => !adapted.isKind kind).map (Finding.wrongKind adapted) ++
    findIf (adapted.types != case.types) (.types case.types adapted.types) ++
    findIf (adapted.tags != case.tags) (.tags case.tags adapted.tags) ++
    findIf (adapted.message?.getD "" != case.message)
      (.message case.message (adapted.message?.getD "")) ++
    findIf adapted.text.isEmpty (.silent adapted) ++
    findIf (!adapted.innermost.sameNode case.fault) (.cause adapted.innermost)

/-- The findings for what the adapter answered. -/
def findingsFor (case : Case) : Option Fault → List Finding
  | none => [.unrecognized]
  | some adapted => findings case adapted

/-- Calls the adapter and notes the call once it has answered. -/
def call (registry : Registry) (adapter : Adapter) (fault : Fault) : Session (Option Fault) := do
  let answer ← (adapter fault).run registry
  modify fun journal => journal.note .candidate answer.isSome
  return answer

/-- The mismatches of each case in order. -/
def checkCases (registry : Registry) (adapter : Adapter) : List Case → Session (List Mismatch)
  | [] => pure []
  | case :: rest => do
    let answer ← call registry adapter case.fault
    let later ← checkCases registry adapter rest
    return (findingsFor case answer).map (Mismatch.case case.fault) ++ later

/-- The message of the base fault that no adapter may recognize. -/
def baseMessage : String := "non-adaptable"

/-- All mismatches of an adapter. The base fault takes the given stack trace. -/
def check (registry : Registry) (adapter : Adapter) (cases : List Case) (stack : StackTrace) :
    Session (List Mismatch) := do
  let mismatches ← checkCases registry adapter cases
  let base ← (Fault.new baseMessage stack).run registry
  let answer ← call registry adapter base
  return mismatches ++ (answer.map Mismatch.recognizedBase).toList

end CauseTree.Conformance
