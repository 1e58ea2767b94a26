import Mathlib.Data.List.Basic
import CauseTree.Outline.Basic
import CauseTree.Proofs.Descent

/-!
# Lines and outlines

A line goes on from a node to its single cause as long as the node has no list of
causes. Every fact about lines comes from one case split: a node goes on to a cause, or
it ends its line. The list of causes at the end of a line starts the lines below it,
and an outline is the tree of all these lines.

Where no node has both a cause and a list of causes, a walk visits the nodes of the
lines one line after another, in the order of the outline.
-/

namespace CauseTree.Fault

/-- The node after this one on its line. -/
def onward? (fault : Fault) : Option Fault :=
  match fault.causes? with
  | some _ => none
  | none => fault.cause?

/-- The causes at the end of a fault's line. -/
def lineCauses (fault : Fault) : List Fault := fault.lineEnd.causes?.getD []

mutual

/-- The faults that start the lines below the line of a fault, in the order of the outline. -/
def laterHeads : Fault → List Fault
  | wrapped _ _ cause => cause.laterHeads
  | joined _ causes => headsOf causes
  | rebuilt _ _ _ _ _ causes => headsOf causes
  | custom _ _ _ (some causes) => headsOf causes
  | custom _ _ (some cause) none => cause.laterHeads
  | _ => []

/-- The faults that start the lines of several outlines, in order. -/
def headsOf : List Fault → List Fault
  | [] => []
  | fault :: rest => fault :: (fault.laterHeads ++ headsOf rest)

end

/-- The faults that start the lines of an outline, in order. -/
def heads (fault : Fault) : List Fault := fault :: fault.laterHeads

/-- The node goes on to the cause, and all that is read off its line but the node itself is
read off the line of the cause. -/
structure GoesOn (fault cause : Fault) : Prop where
  line : fault.line = fault :: cause.line
  lineEnd : fault.lineEnd = cause.lineEnd
  branches : fault.branches = cause.branches
  laterHeads : fault.laterHeads = cause.laterHeads
  next : fault.next = [cause]
  direct : cause ∈ fault.directCauses

/-- The node is the end of its line, and what is below the line comes from its list of
causes. -/
structure Ends (fault : Fault) : Prop where
  line : fault.line = [fault]
  lineEnd : fault.lineEnd = fault
  branches : fault.branches = outlines (fault.causes?.getD [])
  laterHeads : fault.laterHeads = headsOf (fault.causes?.getD [])
  causeless : fault.causes? = none → fault.cause? = none

section Shape

variable {fault cause : Fault}

/-- A node goes on only to its single cause, and only without a list of causes. -/
theorem onward_some (further : fault.onward? = some cause) :
    fault.cause? = some cause ∧ fault.causes? = none := by
  unfold onward? at further
  cases listed : fault.causes? with
  | none => simpa [listed] using further
  | some causes => simp [listed] at further

/-- Wrappers go on, and so do custom nodes with a cause and no list of causes. -/
theorem goesOn_of_onward (further : fault.onward? = some cause) : GoesOn fault cause := by
  obtain ⟨single, unlisted⟩ := onward_some further
  cases fault with
  | wrapped id note inner =>
    cases single
    exact ⟨rfl, rfl, rfl, rfl, rfl, List.mem_cons_self⟩
  | custom id node inner causes =>
    cases single
    cases unlisted
    exact ⟨rfl, rfl, rfl, rfl, rfl, List.mem_cons_self⟩
  | _ => simp [cause?] at single

/-- A node that does not go on ends its line. -/
theorem ends_of_onward (ending : fault.onward? = none) : Ends fault := by
  have causeless : fault.causes? = none → fault.cause? = none := by
    intro unlisted
    simpa [onward?, unlisted] using ending
  cases fault with
  | wrapped id note cause => exact absurd (causeless rfl) (Option.some_ne_none cause)
  | custom id node cause causes =>
    cases causes with
    | some list => cases cause <;> exact ⟨rfl, rfl, rfl, rfl, causeless⟩
    | none =>
      cases cause with
      | some inner => exact absurd (causeless rfl) (Option.some_ne_none inner)
      | none => exact ⟨rfl, rfl, rfl, rfl, causeless⟩
  | _ => exact ⟨rfl, rfl, rfl, rfl, causeless⟩

end Shape

/-- What passes along a line, and from the causes at its end to the end, holds of every
fault. -/
theorem line_induction {motive : Fault → Prop}
    (onward : ∀ fault cause, GoesOn fault cause → motive cause → motive fault)
    (ending : ∀ fault, Ends fault → (∀ cause ∈ fault.causes?.getD [], motive cause) →
      motive fault)
    (fault : Fault) : motive fault := by
  induction fault using cause_induction with
  | step fault inductionHypothesis =>
    cases further : fault.onward? with
    | some cause =>
      have goesOn := goesOn_of_onward further
      exact onward fault cause goesOn (inductionHypothesis cause goesOn.direct)
    | none =>
      apply ending fault (ends_of_onward further)
      intro cause member
      exact inductionHypothesis cause (List.mem_append_right _ member)

/-- The causes at the end of a line are those at the end of its tail. -/
theorem GoesOn.lineCauses {fault cause : Fault} (goesOn : GoesOn fault cause) :
    fault.lineCauses = cause.lineCauses := by
  rw [Fault.lineCauses, goesOn.lineEnd, Fault.lineCauses]

/-- The causes at the end of a line of one node are its list of causes. -/
theorem Ends.lineCauses {fault : Fault} (ends : Ends fault) :
    fault.lineCauses = fault.causes?.getD [] := by
  rw [Fault.lineCauses, ends.lineEnd]

/-- What passes from the causes at the end of a line to the head of the line holds of
every fault. -/
theorem outline_induction {motive : Fault → Prop}
    (step : ∀ fault, (∀ cause ∈ fault.lineCauses, motive cause) → motive fault) (fault : Fault) :
    motive fault := by
  have throughout : ∀ fault : Fault, ∀ cause ∈ fault.lineCauses, motive cause := by
    intro fault
    induction fault using line_induction with
    | onward fault cause goesOn inductionHypothesis =>
      rwa [goesOn.lineCauses]
    | ending fault ends inductionHypothesis =>
      rw [ends.lineCauses]
      intro cause member
      apply step
      exact inductionHypothesis cause member
  exact step fault (throughout fault)

/-- The outlines of several faults, as one list. -/
theorem outlines_eq (faults : List Fault) : outlines faults = faults.map outline := by
  induction faults with
  | nil => rfl
  | cons fault rest inductionHypothesis => simp [outlines, outline, inductionHypothesis]

/-- The branches of an outline are the outlines of the causes at the end of the line. -/
theorem branches_eq (fault : Fault) : fault.branches = fault.lineCauses.map outline := by
  induction fault using line_induction with
  | onward fault cause goesOn inductionHypothesis =>
    rw [goesOn.branches, goesOn.lineCauses, inductionHypothesis]
  | ending fault ends inductionHypothesis =>
    rw [ends.branches, ends.lineCauses, outlines_eq]

/-- An outline has the entry of its line above the outlines of the causes at its end. -/
theorem outline_eq (fault : Fault) :
    fault.outline = ⟨fault.entry, fault.lineCauses.map outline⟩ := by
  rw [outline, branches_eq]

/-- The heads of several outlines stand one after another. -/
theorem headsOf_eq (faults : List Fault) : headsOf faults = faults.flatMap heads := by
  induction faults with
  | nil => rfl
  | cons fault rest inductionHypothesis => simp [headsOf, heads, inductionHypothesis]

/-- A fault starts its own line, and the causes at its end start the lines below. -/
theorem heads_eq (fault : Fault) : fault.heads = fault :: fault.lineCauses.flatMap heads := by
  have later : fault.laterHeads = fault.lineCauses.flatMap heads := by
    induction fault using line_induction with
    | onward fault cause goesOn inductionHypothesis =>
      rw [goesOn.lineCauses, goesOn.laterHeads, inductionHypothesis]
    | ending fault ends inductionHypothesis =>
      rw [ends.lineCauses, ends.laterHeads, headsOf_eq]
  rw [heads, later]

/-- What holds of all heads holds of the fault and of all heads below its line. -/
theorem forall_heads_iff {holds : Fault → Prop} (fault : Fault) :
    (∀ head ∈ fault.heads, holds head) ↔
      holds fault ∧ ∀ cause ∈ fault.lineCauses, ∀ head ∈ cause.heads, holds head := by
  rw [heads_eq]
  simp only [List.forall_mem_cons, List.forall_mem_flatMap]

/-- A walk visits the line of a fault, and then what it visits from the end of the line. -/
theorem preorder_eq_lineEnd (fault : Fault) :
    fault.preorder = fault.line ++ fault.lineEnd.next.flatMap preorder := by
  induction fault using line_induction with
  | onward fault cause goesOn inductionHypothesis =>
    rw [preorder_eq, preorders_eq, goesOn.next, goesOn.line, goesOn.lineEnd]
    simp [inductionHypothesis]
  | ending fault ends inductionHypothesis =>
    rw [preorder_eq, preorders_eq, ends.line, ends.lineEnd]
    rfl

/-- The end of a line ends its own line. -/
theorem ends_lineEnd (fault : Fault) : Ends fault.lineEnd := by
  induction fault using line_induction with
  | onward fault cause goesOn inductionHypothesis => rwa [goesOn.lineEnd]
  | ending fault ends inductionHypothesis => rwa [ends.lineEnd]

/-- From the end of a line that is not doubly linked, a walk goes on to the list of causes. -/
theorem next_lineEnd {fault : Fault}
    (single : fault.lineEnd.cause? = none ∨ fault.lineEnd.causes? = none) :
    fault.lineEnd.next = fault.lineCauses := by
  rcases single with causeless | unlisted
  · simp [Fault.next, causeless, lineCauses]
  · simp [Fault.next, (ends_lineEnd fault).causeless unlisted, lineCauses]

/-- What can be reached from a direct cause of a fault can be reached from the fault. -/
theorem reach_subset {fault cause : Fault} (direct : cause ∈ fault.directCauses) :
    cause.reach ⊆ fault.reach := by
  intro node member
  rw [reach_eq fault]
  exact List.mem_cons_of_mem _ (List.mem_flatMap.mpr ⟨cause, direct, member⟩)

/-- What can be reached from the end of a line can be reached from the fault. -/
theorem reach_lineEnd (fault : Fault) : fault.lineEnd.reach ⊆ fault.reach := by
  induction fault using line_induction with
  | onward fault cause goesOn inductionHypothesis =>
    rw [goesOn.lineEnd]
    exact fun node member => reach_subset goesOn.direct (inductionHypothesis member)
  | ending fault ends inductionHypothesis =>
    rw [ends.lineEnd]
    exact List.Subset.refl _

/-- The end of a line can be reached from the fault. -/
theorem lineEnd_mem_reach (fault : Fault) : fault.lineEnd ∈ fault.reach := by
  apply reach_lineEnd
  exact mem_reach_self fault.lineEnd

/-- What can be reached from the causes at the end of a line can be reached from the fault. -/
theorem reach_lineCauses {fault cause : Fault} (member : cause ∈ fault.lineCauses) :
    cause.reach ⊆ fault.reach := by
  have direct : cause ∈ fault.lineEnd.directCauses := List.mem_append_right _ member
  exact fun node inside => reach_lineEnd fault (reach_subset direct inside)

/-- The end of a line is a cause of the fault only where nothing is below it. -/
theorem mem_causes {fault cause : Fault} (member : cause ∈ fault.causes) :
    cause ∈ fault.lineCauses ∨ cause = fault.lineEnd ∧ fault.lineEnd.causes? = none := by
  unfold causes at member
  cases listed : fault.lineEnd.causes? with
  | some causes =>
    left
    simpa [lineCauses, listed] using member
  | none =>
    right
    simp only [listed] at member
    split at member
    · exact ⟨List.mem_singleton.mp member, rfl⟩
    · simp at member

/-- Without doubly linked nodes a walk visits the line of a fault, and then what a walk
visits from each of the causes at its end. -/
theorem preorder_eq_line (fault : Fault) (single : fault.SingleLinked) :
    fault.preorder = fault.line ++ fault.lineCauses.flatMap preorder := by
  rw [preorder_eq_lineEnd, next_lineEnd (single _ (lineEnd_mem_reach fault))]

/-- Without doubly linked nodes there are none below the end of a line either. -/
theorem singleLinked_lineCauses {fault : Fault} (single : fault.SingleLinked) :
    ∀ cause ∈ fault.lineCauses, cause.SingleLinked :=
  fun _ member node inside => single node (reach_lineCauses member inside)

/-- Without doubly linked nodes a walk visits the lines of the outline one after another. -/
theorem preorder_eq_heads (fault : Fault) (single : fault.SingleLinked) :
    fault.preorder = fault.heads.flatMap line := by
  induction fault using outline_induction with
  | step fault inductionHypothesis =>
    have later : fault.lineCauses.flatMap preorder =
        fault.lineCauses.flatMap fun cause => cause.heads.flatMap line := by
      apply List.flatMap_congr
      intro cause member
      have below : cause.SingleLinked := singleLinked_lineCauses single cause member
      exact inductionHypothesis cause member below
    rw [preorder_eq_line fault single, heads_eq, later]
    simp [List.flatMap_assoc]

end CauseTree.Fault
