import CauseTree.Fault.Basic

/-!
# Walking a graph of causes

A walk visits a fault and everything it was built from, outermost first. From a node
it goes on to the single cause if there is one, and otherwise to the causes in their
order. A node that can be reached along several paths is visited once for each.

The walk keeps a list of pending faults and takes the first of them at each step.
The recursive order says the same without a list of pending faults: a node stands
before everything below it, and what is below the first cause stands before what is
below the second.
-/

namespace CauseTree

namespace Fault

/-- Where a walk goes from a node. -/
def next (fault : Fault) : List Fault :=
  match fault.cause? with
  | some cause => [cause]
  | none => fault.causes?.getD []

mutual

/-- The fault and everything below it, outermost first. -/
def preorder : Fault → List Fault
  | wrapped id note cause => wrapped id note cause :: cause.preorder
  | joined id causes => joined id causes :: preorders causes
  | rebuilt id message types tags stack causes =>
    rebuilt id message types tags stack causes :: preorders causes
  | custom id node (some cause) causes => custom id node (some cause) causes :: cause.preorder
  | custom id node none (some causes) => custom id node none (some causes) :: preorders causes
  | fault => [fault]

/-- The recursive orders of several faults, one after another. -/
def preorders : List Fault → List Fault
  | [] => []
  | fault :: rest => fault.preorder ++ preorders rest

end

/-- A fault stands before everything that a walk reaches from it. -/
theorem preorder_eq (fault : Fault) : fault.preorder = fault :: preorders fault.next := by
  cases fault with
  | custom id node cause causes =>
    cases cause <;> cases causes <;> simp [preorder, preorders, next, cause?, causes?]
  | _ => simp [preorder, preorders, next, cause?, causes?]

/-- The orders of two lists of faults stand one after the other. -/
theorem preorders_append (before after : List Fault) :
    preorders (before ++ after) = preorders before ++ preorders after := by
  induction before with
  | nil => rfl
  | cons fault rest inductionHypothesis => simp [preorders, inductionHypothesis]

mutual

/-- The number of faults on the walk that starts at a fault. -/
def walkSize : Fault → Nat
  | wrapped _ _ cause => cause.walkSize + 1
  | joined _ causes => walkSizes causes + 1
  | rebuilt _ _ _ _ _ causes => walkSizes causes + 1
  | custom _ _ (some cause) _ => cause.walkSize + 1
  | custom _ _ none (some causes) => walkSizes causes + 1
  | _ => 1

/-- The number of faults on the walks that start at several faults. -/
def walkSizes : List Fault → Nat
  | [] => 0
  | fault :: rest => fault.walkSize + walkSizes rest

end

/-- A walk visits the fault where it starts and then what it reaches from there. -/
theorem walkSize_eq (fault : Fault) : fault.walkSize = walkSizes fault.next + 1 := by
  cases fault with
  | custom id node cause causes =>
    cases cause <;> cases causes <;> simp [walkSize, walkSizes, next, cause?, causes?]
  | _ => simp [walkSize, walkSizes, next, cause?, causes?]

/-- Walks that start at two lists of faults visit as many faults together as apart. -/
theorem walkSizes_append (before after : List Fault) :
    walkSizes (before ++ after) = walkSizes before + walkSizes after := by
  induction before with
  | nil => simp [walkSizes]
  | cons fault rest inductionHypothesis =>
    simp [walkSizes, inductionHypothesis, Nat.add_assoc]

end Fault

/-- A walk under way: the faults that it has still to visit, the next one first. -/
structure Walk where
  pending : List Fault

namespace Walk

/-- Takes the next fault and puts what is directly below it in front of the others. -/
def next? (walk : Walk) : Option (Fault × Walk) :=
  match walk.pending with
  | [] => none
  | fault :: rest => some (fault, ⟨fault.next ++ rest⟩)

/-- At most so many steps of a walk. -/
def take : Nat → Walk → List Fault
  | 0, _ => []
  | steps + 1, walk =>
    match walk.next? with
    | none => []
    | some (fault, later) => fault :: take steps later

/-- The number of faults that a walk has still to visit. -/
def size (walk : Walk) : Nat := Fault.walkSizes walk.pending

/-- The faults that a walk visits, in order. -/
def toList (walk : Walk) : List Fault := take walk.size walk

end Walk

/-- The walk that starts at a fault. -/
def Fault.walk (fault : Fault) : Walk := ⟨[fault]⟩

end CauseTree
