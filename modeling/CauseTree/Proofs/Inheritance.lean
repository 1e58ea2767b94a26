import CauseTree.Proofs.Aggregates
import CauseTree.Proofs.Lines
import Mathlib.Data.List.Flatten

/-!
# What a fault shows of its causes

The causes of a fault are those at the end of its line, and the type names and tags of a
fault are gathered on a walk. From a node that has both a cause and a list of causes, the
walk goes on to the single cause, and the list is what its causes are. Everything that is
visible on a cause is therefore visible on the fault above it, unless the line ends at such
a doubly linked node. There the walk never comes to the causes: of what is below the line
the fault shows what its single cause shows, and nothing else.
-/

namespace CauseTree.Fault

/-- The tags of a fault are those of its line and those of what a walk reaches from the end
of the line. -/
theorem tags_eq_lineEnd (fault : Fault) :
    fault.tags = Ordered.sort (fault.line.flatMap ownTags ++ fault.lineEnd.next.flatMap tags) := by
  rw [tags, toList_walk, preorder_eq_lineEnd, List.flatMap_append, sort_walks]

/-- The type names of a fault are those of its line and those of what a walk reaches from the
end of the line. -/
theorem types_eq_lineEnd (fault : Fault) :
    fault.types =
      distinctNames (fault.line.flatMap ownKinds ++ fault.lineEnd.next.flatMap types) := by
  rw [types, toList_walk, preorder_eq_lineEnd, List.flatMap_append, distinctNames_walks]

/-- What is visible on the cause is visible on the fault: its type names, and its tags at
least as often. -/
structure Shows (fault cause : Fault) : Prop where
  types : ∀ name ∈ cause.types, name ∈ fault.types
  tags : cause.tags.Subperm fault.tags

/-- A walk that visits another walk in passing shows what that one shows. -/
theorem shows_of_sublist {fault cause : Fault} (visited : cause.preorder.Sublist fault.preorder) :
    fault.Shows cause where
  types name listed := by
    rw [mem_types_iff] at listed ⊢
    obtain ⟨node, member, contributed⟩ := listed
    exact ⟨node, visited.subset member, contributed⟩
  tags := by
    have gathered : (cause.preorder.flatMap ownTags).Sublist (fault.preorder.flatMap ownTags) :=
      visited.flatMap ownTags
    rw [tags, tags, toList_walk, toList_walk]
    exact (Ordered.sort_perm _).subperm.trans
      (gathered.subperm.trans (Ordered.sort_perm _).symm.subperm)

/-- A walk visits what a walk from each cause visits, unless the line ends at a doubly linked
node. -/
theorem preorder_causes {fault cause : Fault}
    (single : fault.lineEnd.cause? = none ∨ fault.lineEnd.causes? = none)
    (member : cause ∈ fault.causes) : cause.preorder.Sublist fault.preorder := by
  rw [preorder_eq_lineEnd fault, next_lineEnd single]
  rcases mem_causes member with below | ⟨rfl, unlisted⟩
  · have inside : cause.preorder.Sublist (fault.lineCauses.flatMap preorder) := by
      simpa using (List.singleton_sublist.mpr below).flatMap preorder
    exact inside.trans (List.sublist_append_right _ _)
  · have causeless : fault.lineEnd.next = [] := by
      rw [next_lineEnd single, lineCauses, unlisted]
      rfl
    have alone : fault.lineEnd.preorder = [fault.lineEnd] := by
      rw [preorder_eq, causeless]
      rfl
    have last : fault.lineEnd ∈ fault.line := List.mem_of_getLast? (getLast_line fault)
    rw [alone]
    exact (List.singleton_sublist.mpr last).trans (List.sublist_append_left _ _)

/-- What is visible on a cause is visible on the fault, unless the line of the fault ends at a
node with both a cause and a list of causes. There the type names and tags of the fault are
those of its line and of the single cause alone. -/
theorem shows_causes (fault : Fault) :
    (fault.lineEnd.cause? = none ∨ fault.lineEnd.causes? = none →
      ∀ cause ∈ fault.causes, fault.Shows cause) ∧
    ∀ cause causes, fault.lineEnd.cause? = some cause → fault.lineEnd.causes? = some causes →
      fault.causes = causes ∧
      fault.types = distinctNames (fault.line.flatMap ownKinds ++ cause.types) ∧
      fault.tags = Ordered.sort (fault.line.flatMap ownTags ++ cause.tags) := by
  constructor
  · intro single cause member
    exact shows_of_sublist (preorder_causes single member)
  · intro cause causes single listed
    have next : fault.lineEnd.next = [cause] := by simp [Fault.next, single]
    refine ⟨?_, ?_, ?_⟩
    · simp [Fault.causes, listed]
    · rw [types_eq_lineEnd, next, List.flatMap_singleton]
    · rw [tags_eq_lineEnd, next, List.flatMap_singleton]

/-- A placeholder that is tagged with a host and typed as late. -/
def lateHost : Fault :=
  wrapped (.serial 1) (.types ["Timeout"]) (wrapped (.serial 0) (.tags [⟨"host", "db"⟩]) todo)

/-- A message around a custom node that has a placeholder as its cause and lists another
cause. -/
def lateAside : Fault :=
  wrapped (.serial 3) (.message "reading")
    (custom (.serial 2)
      { typeName := "Aside", concrete := "aside", display := some "aside", message := none
        types := ["Retry"], tags := [], stack := none, predicate := fun _ => none
        predicateNames := [] }
      (some todo) (some [lateHost]))

/-- The listed cause is the only cause of the fault, and neither its type name nor its tag is
visible there. Joined, both would be. -/
theorem shows_causes_lateAside :
    lateAside.causes = [lateHost] ∧ lateHost.types = ["Timeout"] ∧
      lateHost.tags = [⟨"host", "db"⟩] ∧ lateAside.types = ["Retry"] ∧ lateAside.tags = [] ∧
      (joined (.serial 4) [lateHost]).Shows lateHost := by
  obtain ⟨causes, types, tags⟩ := (shows_causes lateAside).2 todo [lateHost] rfl rfl
  have joined := (shows_causes (joined (.serial 4) [lateHost])).1 (.inl rfl)
  refine ⟨causes, by decide, by decide, ?_, ?_, joined lateHost List.mem_cons_self⟩
  · rw [types]
    decide
  · rw [tags]
    decide

end CauseTree.Fault
