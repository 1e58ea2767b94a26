import CauseTree.Build.Basic

/-!
# Wrapping faults

A layer is what one call puts around a fault: a message, a stack trace, a message over
a stack trace, type names, or tags. The fault inside is adapted first, once for each
layer; since a wrapped fault is internal, the layers above the first find nothing to
adapt. Tags are sorted when they are put on.

A layer can be put around a fault, around an optional fault, and around the fault of a
result. Where there is no fault nothing happens: no node is made, no adapter is
consulted, and a message that is built on demand is not built.
-/

namespace CauseTree

/-- What one call puts around a fault. -/
inductive Layer where
  | message (text : String)
  | wrap (text : String) (stack : StackTrace)
  | stack (trace : StackTrace)
  | types (names : List String)
  | tags (tags : List Tag)

/-- The notes of a layer, innermost first. -/
def Layer.notes : Layer → List Note
  | .message text => [.message text]
  | .wrap text trace => [.stack trace, .message text]
  | .stack trace => [.stack trace]
  | .types names => [.types names]
  | .tags list => [.tags (Ordered.sort list)]

namespace Build

/-- Makes a node with a new identity. -/
def make (node : NodeId → Fault) : Build Fault := identify fun id => done (node id)

/-- The fault in the form that the registered adapters give it. -/
def adapted (fault : Fault) : Build Fault := adapt fault done

/-- Puts notes around a cause as it is, the first one innermost. -/
def annotate (cause : Fault) : List Note → Build Fault
  | [] => pure cause
  | note :: rest => do
    let wrapped ← make fun id => .wrapped id note cause
    annotate wrapped rest

end Build

namespace Fault

/-- Makes a base fault. -/
def new (message : String) (stack : StackTrace) : Build Fault :=
  Build.make fun id => .base id message stack

/-- Brings a foreign fault in as it is. -/
def ofForeign (value : Foreign) : Build Fault := Build.make fun id => .foreign id value

/-- Makes a custom node. Its causes are taken as they are. -/
def ofCustom (node : Custom) (cause : Option Fault) (causes : Option (List Fault)) : Build Fault :=
  Build.make fun id => .custom id node cause causes

/-- Puts a layer around a fault, which is adapted first. -/
def add (fault : Fault) (layer : Layer) : Build Fault := do
  let cause ← Build.adapted fault
  Build.annotate cause layer.notes

/-- Puts layers around a fault one after another, the first one innermost. -/
def addAll (fault : Fault) : List Layer → Build Fault
  | [] => pure fault
  | layer :: rest => do
    let wrapped ← fault.add layer
    wrapped.addAll rest

/-- Puts a layer around an optional fault. -/
def addToOption (layer : Layer) : Option Fault → Build (Option Fault)
  | none => pure none
  | some fault => do return some (← fault.add layer)

/-- Puts a layer around the fault of a result. -/
def addToResult {α : Type} (layer : Layer) : Except Fault α → Build (Except Fault α)
  | .ok value => pure (.ok value)
  | .error fault => do return .error (← fault.add layer)

/-- Wraps the fault of a result in a message that is built only for a fault, and before
the fault is adapted. -/
def wrapResultWith {α : Type} {m : Type → Type} [Monad m] [MonadLiftT Build m]
    (message : m String) (stack : StackTrace) : Except Fault α → m (Except Fault α)
  | .ok value => pure (.ok value)
  | .error fault => do
    let text ← message
    let wrapped ← liftM (fault.add (.wrap text stack))
    return .error wrapped

end Fault

end CauseTree
