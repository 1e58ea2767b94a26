import CauseTree.Fault.Reach
import CauseTree.Fault.Walk

/-!
# Going down a graph of causes

Whatever reads a graph of causes goes down from a node to its direct causes: to its
single cause, to its list of causes, or to both. Direct causes are smaller than their
node, so a property that passes from them to the node holds of every fault. Walks,
lines and outlines choose differently where a node has both a cause and a list of
causes, and agree where no node has both.
-/

namespace CauseTree.Fault

/-- The direct causes of a node: its single cause, then its list of causes. -/
def directCauses (fault : Fault) : List Fault := fault.cause?.toList ++ fault.causes?.getD []

/-- A single cause is smaller than its node. -/
theorem sizeOf_cause {fault cause : Fault} (single : fault.cause? = some cause) :
    sizeOf cause < sizeOf fault := by
  cases fault with
  | wrapped id note inner =>
    cases single
    simp only [wrapped.sizeOf_spec]
    omega
  | custom id node inner causes =>
    cases single
    simp only [custom.sizeOf_spec, Option.some.sizeOf_spec]
    omega
  | _ => simp [cause?] at single

/-- A list of causes is smaller than its node. -/
theorem sizeOf_causes {fault : Fault} {causes : List Fault} (listed : fault.causes? = some causes) :
    sizeOf causes < sizeOf fault := by
  cases fault with
  | joined id inner =>
    cases listed
    simp only [joined.sizeOf_spec]
    omega
  | rebuilt id message types tags stack inner =>
    cases listed
    simp only [rebuilt.sizeOf_spec]
    omega
  | custom id node cause inner =>
    cases listed
    simp only [custom.sizeOf_spec, Option.some.sizeOf_spec]
    omega
  | _ => simp [causes?] at listed

/-- A direct cause is smaller than its node. -/
theorem sizeOf_directCauses {fault cause : Fault} (direct : cause ∈ fault.directCauses) :
    sizeOf cause < sizeOf fault := by
  rcases List.mem_append.mp direct with single | member
  · exact sizeOf_cause (Option.mem_toList.mp single)
  · cases listed : fault.causes? with
    | none => simp [listed] at member
    | some causes =>
      have inside : cause ∈ causes := by simpa only [listed, Option.getD_some] using member
      exact Nat.lt_trans (List.sizeOf_lt_of_mem inside) (sizeOf_causes listed)

/-- What passes from the direct causes of a fault to the fault holds of every fault. -/
theorem cause_induction {motive : Fault → Prop}
    (step : ∀ fault, (∀ cause ∈ fault.directCauses, motive cause) → motive fault) (fault : Fault) :
    motive fault :=
  step fault fun cause _ => cause_induction step cause
termination_by sizeOf fault
decreasing_by exact sizeOf_directCauses ‹_›

/-- A walk goes from a node to direct causes of it. -/
theorem next_subset (fault : Fault) : fault.next ⊆ fault.directCauses := by
  intro cause member
  unfold next at member
  cases single : fault.cause? <;> simp_all [directCauses]

/-- The orders of several faults, as one list. -/
theorem preorders_eq (faults : List Fault) : preorders faults = faults.flatMap preorder := by
  induction faults with
  | nil => rfl
  | cons fault rest inductionHypothesis => simp [preorders, inductionHypothesis]

/-- What can be reached from several faults, as one list. -/
theorem reachAll_eq (faults : List Fault) : reachAll faults = faults.flatMap reach := by
  induction faults with
  | nil => rfl
  | cons fault rest inductionHypothesis => simp [reachAll, inductionHypothesis]

/-- A fault is reached from itself, and all else through its direct causes. -/
theorem reach_eq (fault : Fault) : fault.reach = fault :: fault.directCauses.flatMap reach := by
  cases fault with
  | custom id node cause causes =>
    cases cause <;> cases causes <;> simp [reach, reachAll_eq, directCauses, cause?, causes?]
  | _ => simp [reach, reachAll_eq, directCauses, cause?, causes?]

/-- A fault can be reached from itself. -/
theorem mem_reach_self (fault : Fault) : fault ∈ fault.reach := by
  rw [reach_eq]
  exact List.mem_cons_self

/-- A walk visits only nodes that can be reached. -/
theorem preorder_subset (fault : Fault) : fault.preorder ⊆ fault.reach := by
  induction fault using cause_induction with
  | step fault inductionHypothesis =>
    rw [preorder_eq, preorders_eq, reach_eq]
    intro node visited
    rcases List.mem_cons.mp visited with rfl | below
    · exact List.mem_cons_self
    · obtain ⟨cause, edge, inside⟩ := List.mem_flatMap.mp below
      have direct : cause ∈ fault.directCauses := next_subset fault edge
      exact List.mem_cons_of_mem _
        (List.mem_flatMap.mpr ⟨cause, direct, inductionHypothesis cause direct inside⟩)

/-- No node that can be reached has both a single cause and a list of causes. -/
def SingleLinked (fault : Fault) : Prop :=
  ∀ node ∈ fault.reach, node.cause? = none ∨ node.causes? = none

end CauseTree.Fault
