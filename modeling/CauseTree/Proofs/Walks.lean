import CauseTree.Proofs.Descent

/-!
# Walks and paths

A walk takes the first of its pending faults and puts what is directly below it in front
of the others. Taken one step at a time this visits the pending faults in their recursive
orders, one after another: each step visits one fault and leaves one fault fewer to
visit, so the number of faults still to visit bounds the steps, whatever is pending.

A fault is visited exactly when a path leads to it along the edges that a walk follows.
A path keeps the nodes that it passes before its last one, because a query may stop at
any of them.
-/

namespace CauseTree

namespace Walk

section Step

variable {walk later : Walk} {fault : Fault}

/-- A walk that takes no further step has nothing pending. -/
theorem pending_of_finished (finished : walk.next? = none) : walk.pending = [] := by
  obtain ⟨pending⟩ := walk
  cases pending with
  | nil => rfl
  | cons fault rest => simp [next?] at finished

/-- A step takes the first pending fault and puts what is directly below it in its place. -/
theorem pending_of_step (step : walk.next? = some (fault, later)) :
    ∃ rest, walk.pending = fault :: rest ∧ later.pending = fault.next ++ rest := by
  obtain ⟨pending⟩ := walk
  cases pending with
  | nil => simp [next?] at step
  | cons first rest =>
    cases step
    exact ⟨rest, rfl, rfl⟩

/-- A step leaves one fault fewer to visit. -/
theorem size_of_step (step : walk.next? = some (fault, later)) : walk.size = later.size + 1 := by
  obtain ⟨rest, before, after⟩ := pending_of_step step
  simp only [size, before, after, Fault.walkSizes, Fault.walkSizes_append, Fault.walkSize_eq]
  omega

/-- A step visits the first fault of the recursive orders and leaves the others. -/
theorem preorders_of_step (step : walk.next? = some (fault, later)) :
    Fault.preorders walk.pending = fault :: Fault.preorders later.pending := by
  obtain ⟨rest, before, after⟩ := pending_of_step step
  rw [before, after, Fault.preorders, Fault.preorder_eq, Fault.preorders_append, List.cons_append]

end Step

/-- A walk with enough steps visits its pending faults in their recursive orders. The
induction is on the steps, with any faults pending, since each step changes them. -/
theorem take_eq (steps : Nat) (walk : Walk) (enough : walk.size ≤ steps) :
    take steps walk = Fault.preorders walk.pending := by
  induction steps generalizing walk with
  | zero =>
    cases step : walk.next? with
    | none => rw [pending_of_finished step, take, Fault.preorders]
    | some taken =>
      have left := size_of_step step
      omega
  | succ steps inductionHypothesis =>
    rw [take]
    cases step : walk.next? with
    | none => rw [pending_of_finished step, Fault.preorders]
    | some taken =>
      have left := size_of_step step
      rw [preorders_of_step step, ← inductionHypothesis taken.2 (by omega)]

/-- A walk visits its pending faults in their recursive orders. -/
theorem toList_eq (walk : Walk) : walk.toList = Fault.preorders walk.pending :=
  take_eq walk.size walk (Nat.le_refl _)

end Walk

namespace Fault

/-- The walk from a fault visits its recursive order. -/
theorem toList_walk (fault : Fault) : fault.walk.toList = fault.preorder := by
  simp [Walk.toList_eq, walk, preorders]

/-- A path along the edges that a walk follows, from a fault to its last node. `passed`
are the nodes before the last one, in order. -/
inductive Path : (fault : Fault) → (passed : List Fault) → (last : Fault) → Prop where
  | here (fault : Fault) : Path fault [] fault
  | down {fault cause last : Fault} {passed : List Fault} (edge : cause ∈ fault.next)
      (further : Path cause passed last) : Path fault (fault :: passed) last

/-- A walk visits exactly the nodes to which a path leads. -/
theorem mem_preorder_iff (fault node : Fault) :
    node ∈ fault.preorder ↔ ∃ passed, Path fault passed node := by
  constructor
  · intro visited
    induction fault using cause_induction with
    | step fault inductionHypothesis =>
      rw [preorder_eq, preorders_eq] at visited
      rcases List.mem_cons.mp visited with rfl | later
      · exact ⟨[], .here node⟩
      · obtain ⟨cause, edge, inside⟩ := List.mem_flatMap.mp later
        obtain ⟨passed, path⟩ := inductionHypothesis cause (next_subset fault edge) inside
        exact ⟨fault :: passed, .down edge path⟩
  · rintro ⟨passed, path⟩
    induction path with
    | here fault =>
      rw [preorder_eq]
      exact List.mem_cons_self
    | down edge further inductionHypothesis =>
      rw [preorder_eq, preorders_eq]
      exact List.mem_cons_of_mem _ (List.mem_flatMap.mpr ⟨_, edge, inductionHypothesis⟩)

/-- A walk visits every node that a path passes. -/
theorem Path.passed_visited {fault last node : Fault} {passed : List Fault}
    (path : Path fault passed last) (member : node ∈ passed) : node ∈ fault.preorder := by
  induction path with
  | here fault => simp at member
  | down edge further inductionHypothesis =>
    rw [preorder_eq, preorders_eq]
    rcases List.mem_cons.mp member with rfl | later
    · exact List.mem_cons_self
    · exact List.mem_cons_of_mem _ (List.mem_flatMap.mpr ⟨_, edge, inductionHypothesis later⟩)

end Fault

end CauseTree
