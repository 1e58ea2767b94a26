import CauseTree.Proofs.Classification
import CauseTree.Proofs.Lookups
import CauseTree.Proofs.Recovery

/-!
# Type names that a snapshot declares

A type name is on a line when a node declares it or when a predicate answers yes. A snapshot
keeps the names and forgets which of the two it was, so a rebuilt fault declares every name
and has no predicates. All names come back, those of causes without content included, since
such causes show no names.

A rebuilt fault refuses no name. To ask it for a name is therefore to look the name up in its
listing, and a name that was listed below a refusal, and did not apply to the fault, applies
to the rebuilt one.
-/

namespace CauseTree

namespace Snapshot

/-- The outline of a snapshot without content shows no type names. -/
theorem nameless_of_isNil {stack : StackTrace} {snapshot : Snapshot}
    (nil : snapshot.isNil = true) :
    ∀ entry ∈ (snapshot.outline stack).entries, entry.types = [] := by
  obtain ⟨message, types, tags, entries, causes⟩ := snapshot
  simp only [isNil, Bool.and_eq_true, List.isEmpty_iff] at nil
  obtain ⟨⟨⟨⟨_, rfl⟩, _⟩, _⟩, rfl⟩ := nil
  simp [outline, outlines, Outline.entries, Outline.branchEntries, Fault.distinctNames_eq_nil_iff]

/-- No node of a rebuilt fault has predicates. -/
theorem predicate?_rebuild {stack : StackTrace} {id : NodeId} {snapshot : Snapshot} {fault : Fault}
    (made : snapshot.rebuild stack id = some fault) :
    ∀ node ∈ fault.walk.toList, ∀ kind, node.predicate? kind = none := by
  intro node visited kind
  rw [Fault.toList_walk] at visited
  obtain ⟨place, message, types, tags, causes, rfl⟩ :=
    nodes_rebuild stack id snapshot fault made node (Fault.preorder_subset fault visited)
  rfl

end Snapshot

namespace Fault

/-- Where no node of a walk has predicates, a name applies exactly when it is listed. -/
theorem isKind_iff_mem_types {kind : String} {fault : Fault}
    (unanswered : ∀ node ∈ fault.walk.toList, ∀ name, node.predicate? name = none) :
    fault.isKind kind = true ↔ kind ∈ fault.types := by
  have listed : fault.ListsPredicates := by
    intro node visited name answered
    simp [unanswered node visited name] at answered
  rw [isKind_iff_accepting, mem_types_iff_accepts listed]
  constructor
  · rintro ⟨passed, last, path, accepted, _⟩
    exact ⟨last, (mem_preorder_iff fault last).mpr ⟨passed, path⟩, accepted⟩
  · rintro ⟨last, visited, accepted⟩
    obtain ⟨passed, path⟩ := (mem_preorder_iff fault last).mp visited
    refine ⟨passed, last, path, accepted, ?_⟩
    rintro node member ⟨refused, _⟩
    have walked : node ∈ fault.walk.toList := by
      rw [toList_walk]
      exact path.passed_visited member
    simp [unanswered node walked kind] at refused

/-- A rebuilt outline shows the type names that the outline of the fault shows. A cause that
is not rebuilt shows none. -/
theorem names_rebuilt (stack : StackTrace) (fault : Fault) (name : String) :
    (∃ entry ∈ (fault.snapshot.outline stack).entries, name ∈ entry.types) ↔
      ∃ entry ∈ fault.outline.entries, name ∈ entry.types := by
  induction fault using outline_induction with
  | step fault inductionHypothesis =>
    have line : name ∈ distinctNames fault.entry.types ↔ name ∈ fault.entry.types :=
      mem_distinctNames name fault.entry.types
    rw [snapshot_eq, Snapshot.outline, Outline.entries, Outline.branchEntries_eq,
      Snapshot.outlines_eq, entries_eq]
    simp only [List.exists_mem_cons_iff, line]
    apply or_congr Iff.rfl
    constructor
    · rintro ⟨entry, shown, named⟩
      obtain ⟨branch, made, inside⟩ := List.mem_flatMap.mp shown
      obtain ⟨snapshot, kept, rfl⟩ := List.mem_map.mp made
      obtain ⟨cause, member, rfl⟩ := List.mem_map.mp (List.mem_filter.mp kept).1
      obtain ⟨original, below, again⟩ :=
        (inductionHypothesis cause member).mp ⟨entry, inside, named⟩
      exact ⟨original, List.mem_flatMap.mpr ⟨cause, member, below⟩, again⟩
    · rintro ⟨original, shown, named⟩
      obtain ⟨cause, member, inside⟩ := List.mem_flatMap.mp shown
      obtain ⟨entry, below, again⟩ :=
        (inductionHypothesis cause member).mpr ⟨original, inside, named⟩
      have content : cause.snapshot.isNil = false := by
        apply Bool.eq_false_iff.mpr
        intro nil
        simp [Snapshot.nameless_of_isNil nil entry below] at again
      have kept : cause.snapshot ∈
          (fault.lineCauses.map snapshot).filter fun snapshot => !snapshot.isNil :=
        List.mem_filter.mpr ⟨List.mem_map_of_mem member, by simp [content]⟩
      exact ⟨entry, List.mem_flatMap.mpr ⟨_, List.mem_map_of_mem kept, below⟩, again⟩

/-- Without doubly linked nodes a rebuilt fault has the type names of the fault whose snapshot
it was rebuilt from. Exactly the names in that listing apply to it, whether or not they were
refused before, and no predicate is left to refuse one. A fault that is not rebuilt has no
type names. -/
theorem types_rebuilt (fault : Fault) (stack : StackTrace) (id : NodeId)
    (single : fault.SingleLinked) :
    (∀ rebuilt, fault.snapshot.rebuild stack id = some rebuilt →
        rebuilt.types = fault.types ∧
          (∀ kind, rebuilt.isKind kind = true ↔ kind ∈ fault.types) ∧
          ∀ node ∈ rebuilt.walk.toList, ∀ kind, node.predicate? kind = none) ∧
      (fault.snapshot.rebuild stack id = none → fault.types = []) := by
  constructor
  · intro rebuilt made
    have kept (name : String) : name ∈ rebuilt.types ↔ name ∈ fault.types := by
      rw [mem_types_iff_entries rebuilt (Snapshot.singleLinked_rebuild stack id _ _ made),
        Snapshot.outline_rebuild stack id _ _ made, names_rebuilt,
        mem_types_iff_entries fault single]
    have unanswered := Snapshot.predicate?_rebuild made
    have listed : rebuilt.types = fault.types :=
      Ordered.eq_of_increasing (distinctNames_increasing _) (distinctNames_increasing _) kept
    refine ⟨listed, ?_, unanswered⟩
    intro kind
    rw [isKind_iff_mem_types unanswered, listed]
  · intro unmade
    have nil : fault.snapshot.isNil = true := (Snapshot.rebuild_eq_none_iff stack id _).mp unmade
    apply List.eq_nil_iff_forall_not_mem.mpr
    intro name listed
    obtain ⟨entry, shown, named⟩ :=
      (names_rebuilt stack fault name).mpr ((mem_types_iff_entries fault single name).mp listed)
    simp [Snapshot.nameless_of_isNil nil entry shown] at named

/-- A failure that is declared as a timeout below a node that denies it, joined with a fault
that shows nothing. -/
def deniedTimeout : Fault := joined (.serial 3) [noTimeout, joined (.serial 2) []]

/-- The denied timeout applies to the rebuilt fault, on which the name that a predicate gave is
declared as well. The fault that shows nothing is not rebuilt and has no type names. -/
theorem types_rebuilt_deniedTimeout :
    deniedTimeout.SingleLinked ∧
      (∃ rebuilt, deniedTimeout.snapshot.rebuild .empty (.serial 4) = some rebuilt ∧
        rebuilt.types = ["Network", "Timeout"] ∧
        deniedTimeout.isKind "Timeout" = false ∧ rebuilt.isKind "Timeout" = true) ∧
      (joined (.serial 2) []).SingleLinked ∧
      (joined (.serial 2) []).snapshot.rebuild .empty (.serial 4) = none ∧
      (joined (.serial 2) []).types = [] := by
  have single : deniedTimeout.SingleLinked := by
    unfold SingleLinked
    decide
  have singleEmpty : (joined (.serial 2) []).SingleLinked := by
    unfold SingleLinked
    decide
  have content : deniedTimeout.snapshot.isNil = false := by decide
  have made := Snapshot.rebuild_eq_some .empty (.serial 4) deniedTimeout.snapshot content
  have unmade : (joined (.serial 2) []).snapshot.rebuild .empty (.serial 4) = none :=
    (Snapshot.rebuild_eq_none_iff .empty (.serial 4) _).mpr (by decide)
  obtain ⟨listed, applies, _⟩ := (types_rebuilt deniedTimeout .empty (.serial 4) single).1 _ made
  have named : deniedTimeout.types = ["Network", "Timeout"] := by decide
  refine ⟨single, ⟨_, made, listed.trans named, by decide, ?_⟩, singleEmpty, unmade, ?_⟩
  · exact (applies "Timeout").mpr (by rw [named]; decide)
  · exact (types_rebuilt _ .empty (.serial 4) singleEmpty).2 unmade

end Fault

end CauseTree
