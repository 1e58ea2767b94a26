import CauseTree.Fault.Basic
import Std.Data.HashSet

/-!
# What can be reached

A node is reached from a fault by single causes and by lists of causes, and both ways
are taken from a custom node that has both. A shared node is listed once for each path
that leads to it.

Doubling a node at every level gives more paths than can be walked. The search for a
recorded stack trace therefore enters a numbered node once, whatever the number of
paths to it: what has been searched in vain need not be searched again.
-/

namespace CauseTree.Fault

mutual

/-- Every node that can be reached by single causes and lists of causes, with the
single cause first where a node has both. -/
def reach : Fault → List Fault
  | wrapped id note cause => wrapped id note cause :: cause.reach
  | joined id causes => joined id causes :: reachAll causes
  | rebuilt id message types tags stack causes =>
    rebuilt id message types tags stack causes :: reachAll causes
  | custom id node none none => [custom id node none none]
  | custom id node (some cause) none => custom id node (some cause) none :: cause.reach
  | custom id node none (some causes) => custom id node none (some causes) :: reachAll causes
  | custom id node (some cause) (some causes) =>
    custom id node (some cause) (some causes) :: (cause.reach ++ reachAll causes)
  | fault => [fault]

/-- The nodes that can be reached from each of the faults, in order. -/
def reachAll : List Fault → List Fault
  | [] => []
  | fault :: rest => fault.reach ++ reachAll rest

end

/-- The serial number of a node, when it has one of its own. -/
def serial? (fault : Fault) : Option Nat :=
  match fault.identity with
  | .serial number => some number
  | _ => none

/-- Searches below a node unless a recorded stack trace on the node itself, or an
earlier search of it, makes that needless. The search is given the numbers of the nodes
that were searched in vain. It adds to them, or fails when it finds a recorded trace. -/
def searchOnce (fault : Fault) (below : Std.HashSet Nat → Option (Std.HashSet Nat))
    (searched : Std.HashSet Nat) : Option (Std.HashSet Nat) :=
  if fault.stack?.any StackTrace.recorded then none
  else match fault.serial? with
    | none => below searched
    | some number =>
      if searched.contains number then some searched
      else (below searched).map fun searched => searched.insert number

mutual

/-- Searches everything that can be reached from a fault for a recorded stack trace. -/
def search : Fault → Std.HashSet Nat → Option (Std.HashSet Nat)
  | wrapped id note cause => (wrapped id note cause).searchOnce cause.search
  | joined id causes => (joined id causes).searchOnce (searchAll causes)
  | rebuilt id message types tags stack causes =>
    (rebuilt id message types tags stack causes).searchOnce (searchAll causes)
  | custom id node none none => (custom id node none none).searchOnce some
  | custom id node (some cause) none => (custom id node (some cause) none).searchOnce cause.search
  | custom id node none (some causes) =>
    (custom id node none (some causes)).searchOnce (searchAll causes)
  | custom id node (some cause) (some causes) =>
    (custom id node (some cause) (some causes)).searchOnce fun searched =>
      (cause.search searched).bind (searchAll causes)
  | fault => fault.searchOnce some

/-- Searches several faults in order. -/
def searchAll : List Fault → Std.HashSet Nat → Option (Std.HashSet Nat)
  | [] => some
  | fault :: rest => fun searched => (fault.search searched).bind (searchAll rest)

end

/-- Whether a stack trace that was recorded can be reached. -/
def hasRecordedStack (fault : Fault) : Bool := (fault.search ∅).isNone

end CauseTree.Fault
