import CauseTree.Build.Layer
import CauseTree.Snapshot.Basic

/-!
# Faults from snapshots and from payloads

A payload is a value of unknown type that stands for a fault, such as what is left of a
task that broke off. Texts become base faults, faults and optional faults stay as they
are, a snapshot is rebuilt, and an erased fault is brought in as foreign. Of anything
else only its rendering is known, and that becomes the message.
-/

namespace CauseTree

/-- Rebuilds a fault with a new identity. -/
def Snapshot.toFault (snapshot : Snapshot) (stack : StackTrace) : Build (Option Fault) :=
  Build.identify fun id => pure (snapshot.rebuild stack id)

/-- What a value of unknown type turned out to be. -/
inductive Payload where
  | text (message : String)
  | fault (fault : Fault)
  | optional (fault : Option Fault)
  | snapshot (snapshot : Snapshot)
  | erased (text : String) (sources : List String)
  | unknown

/-- The type name of a foreign fault whose type was erased. -/
def Foreign.erasedName : String := "Box<dyn Error>"

/-- How a value is rendered of which nothing is known. -/
def Payload.unknownText : String := "Any \x7b .. \x7d"

/-- The fault that a payload stands for. New faults take the given stack trace. -/
def Fault.ofPayload (stack : StackTrace) : Payload → Build (Option Fault)
  | .text message => do return some (← Fault.new message stack)
  | .fault fault => pure (some fault)
  | .optional fault => pure fault
  | .snapshot snapshot => snapshot.toFault stack
  | .erased text sources => do
    return some (← Fault.ofForeign ⟨Foreign.erasedName, text, sources, none⟩)
  | .unknown => do return some (← Fault.new Payload.unknownText stack)

/-- The fault that an optional payload stands for. -/
def Fault.ofOptionalPayload (stack : StackTrace) : Option Payload → Build (Option Fault)
  | none => pure none
  | some payload => Fault.ofPayload stack payload

end CauseTree
