import CauseTree.Stack.Trace
import CauseTree.Tag

/-!
# Faults

A fault is an immutable node in a graph of causes. Seven kinds of node are built
here: a base fault with a message, a placeholder, a foreign fault brought in as it
is, a note wrapped around one cause, several causes joined, a fault rebuilt from a
snapshot, and a custom node that answers for itself. Wrapping never changes the node
inside, so graphs are built from the leaves up and have no cycles.

A node has an identity, given when it is made. Two nodes are the same node exactly
when their identities agree; equal contents do not matter. The placeholder has one
identity everywhere.

A custom node may have a single cause, a list of causes, both or neither. All other
kinds have at most one of the two.
-/

namespace CauseTree

/-- The identity of a node: that of the placeholder, a serial number, or a position
among the causes of a rebuilt node. -/
inductive NodeId where
  | placeholder
  | serial (number : Nat)
  | within (parent : NodeId) (index : Nat)
  deriving DecidableEq, Repr

/-- A fault of another library: its type, its text, and the texts of its own chain of
sources, outermost first. `concrete` is the type that a reader may ask for, and is
absent when the type was erased. -/
structure Foreign where
  typeName : String
  text : String
  sources : List String
  concrete : Option String

/-- The answers of a custom node about itself. `display` is its full text; without one the
node shows the text of its single cause, if it has any. A predicate answers by name, or
not at all; `predicateNames` lists the names that it knows. -/
structure Custom where
  typeName : String
  concrete : String
  display : Option String
  message : Option String
  types : List String
  tags : List Tag
  stack : Option StackTrace
  predicate : String → Option Bool
  predicateNames : List String

/-- What a wrapper adds to its cause. -/
inductive Note where
  | message (text : String)
  | stack (trace : StackTrace)
  | types (names : List String)
  | tags (tags : List Tag)

/-- A node in a graph of causes. -/
inductive Fault where
  | base (id : NodeId) (message : String) (stack : StackTrace)
  | todo
  | foreign (id : NodeId) (value : Foreign)
  | wrapped (id : NodeId) (note : Note) (cause : Fault)
  | joined (id : NodeId) (causes : List Fault)
  | rebuilt (id : NodeId) (message : String) (types : List String) (tags : List Tag)
      (stack : StackTrace) (causes : List Fault)
  | custom (id : NodeId) (node : Custom) (cause : Option Fault) (causes : Option (List Fault))

namespace Fault

/-- The identity of the node. -/
def identity : Fault → NodeId
  | base id .. => id
  | todo => .placeholder
  | foreign id _ => id
  | wrapped id .. => id
  | joined id _ => id
  | rebuilt id .. => id
  | custom id .. => id

/-- Whether two faults are the same node. -/
def sameNode (a b : Fault) : Bool := a.identity = b.identity

/-- Whether two optional faults are both absent or the same node. -/
def sameOptional : Option Fault → Option Fault → Bool
  | none, none => true
  | some a, some b => sameNode a b
  | _, _ => false

/-- The single fault that this node wraps. -/
def cause? : Fault → Option Fault
  | wrapped _ _ cause => some cause
  | custom _ _ cause _ => cause
  | _ => none

/-- The faults that this node brings together, when it is a node that does so. -/
def causes? : Fault → Option (List Fault)
  | joined _ causes => some causes
  | rebuilt _ _ _ _ _ causes => some causes
  | custom _ _ _ causes => causes
  | _ => none

/-- The node's own message, without those of its causes. -/
def message? : Fault → Option String
  | base _ message _ => some message
  | wrapped _ (.message text) _ => some text
  | rebuilt _ message .. => some message
  | custom _ node .. => node.message
  | _ => none

/-- The type names declared on this node. -/
def ownTypes : Fault → List String
  | wrapped _ (.types names) _ => names
  | rebuilt _ _ types .. => types
  | custom _ node .. => node.types
  | _ => []

/-- The tags declared on this node. -/
def ownTags : Fault → List Tag
  | wrapped _ (.tags tags) _ => tags
  | rebuilt _ _ _ tags .. => tags
  | custom _ node .. => node.tags
  | _ => []

/-- The stack trace on this node. -/
def stack? : Fault → Option StackTrace
  | base _ _ stack => some stack
  | wrapped _ (.stack trace) _ => some trace
  | rebuilt _ _ _ _ stack _ => some stack
  | custom _ node .. => node.stack
  | _ => none

/-- The answer of the node's predicate of that name, when it has one. -/
def predicate? (fault : Fault) (name : String) : Option Bool :=
  match fault with
  | custom _ node .. => node.predicate name
  | _ => none

/-- The predicate names that the node lists. -/
def predicateNames : Fault → List String
  | custom _ node .. => node.predicateNames
  | _ => []

/-- The name of the node's kind, or of the type behind a foreign or custom node. -/
def typeName : Fault → String
  | base .. => "Base"
  | todo => "Todo"
  | foreign _ value => value.typeName
  | wrapped _ (.message _) _ => "WithMessage"
  | wrapped _ (.stack _) _ => "WithStack"
  | wrapped _ (.types _) _ => "WithTypes"
  | wrapped _ (.tags _) _ => "WithTags"
  | joined .. => "Multi"
  | rebuilt .. => "Value"
  | custom _ node .. => node.typeName

/-- Whether the node is neither foreign nor custom. -/
def isInternal : Fault → Bool
  | foreign .. => false
  | custom .. => false
  | _ => true

/-- The type behind a foreign or custom node, when a reader may ask for it. -/
def concrete? : Fault → Option String
  | foreign _ value => value.concrete
  | custom _ node .. => some node.concrete
  | _ => none

/-- Whether the node holds a value of that type. -/
def holds (fault : Fault) (type : String) : Bool := fault.concrete? = some type

end Fault

end CauseTree
