import CauseTree.Proofs.Outlines

/-!
# What lookups find

A lookup walks a graph node by node. An outline gathers line by line, and then shows the
causes at the end of a line. The two go different ways from a node that has both a cause
and a list of causes. Where no node has both, they come by the same nodes in the same
order, each as often as paths lead to it, so the lookups find what the outline shows.

An entry sorts what its line gathers before it shows it. A lookup sorts once, at the end,
so the two are compared by the values and by how often each occurs; only stack traces,
which neither sorts, are compared in their order.
-/

namespace CauseTree.Fault

section SingleLinked

variable (fault : Fault) (single : fault.SingleLinked)
include single

/-- Without doubly linked nodes a walk gathers what the lines of the outline gather, one
line after another. -/
theorem flatMap_walk {α : Type} (gather : Fault → List α) :
    fault.walk.toList.flatMap gather =
      fault.heads.flatMap fun head => head.line.flatMap gather := by
  rw [toList_walk, preorder_eq_heads fault single, List.flatMap_assoc]

/-- Without doubly linked nodes the tags of a fault are those of all entries of its
outline, each as often as it is shown. -/
theorem tags_perm_entries :
    fault.tags.Perm (fault.outline.entries.flatMap Entry.tags) := by
  rw [tags_eq_entries fault single]
  exact Ordered.sort_perm _

/-- Without doubly linked nodes the type names of a fault are those of all entries of its
outline. -/
theorem mem_types_iff_entries (name : String) :
    name ∈ fault.types ↔ ∃ entry ∈ fault.outline.entries, name ∈ entry.types := by
  have shown (head : Fault) : name ∈ head.entry.types ↔ name ∈ head.line.flatMap ownKinds :=
    mem_distinctNames name (head.line.flatMap ownKinds)
  rw [types, mem_distinctNames, flatMap_walk fault single, entries_outline, List.mem_flatMap]
  constructor
  · rintro ⟨head, member, gathered⟩
    exact ⟨head.entry, List.mem_map_of_mem member, (shown head).mpr gathered⟩
  · rintro ⟨entry, member, named⟩
    obtain ⟨head, started, rfl⟩ := List.mem_map.mp member
    exact ⟨head, started, (shown head).mp named⟩

/-- Without doubly linked nodes the stack traces on a walk are those of all entries of the
outline, in their order. -/
theorem traces_eq_entries :
    fault.walk.toList.filterMap stack? = fault.outline.entries.flatMap Entry.traces := by
  have gathered := flatMap_walk fault single fun node => node.stack?.toList
  rw [entries_outline, List.flatMap_map, List.filterMap_eq_flatMap_toList, gathered]
  apply List.flatMap_congr
  intro head _
  exact (List.filterMap_eq_flatMap_toList stack? head.line).symm

/-- Without doubly linked nodes the lookups find what the outline shows. The tags are in
order and are those of the entries, repeats included. The type names are in strictly
increasing order and are those that some entry has. The stack traces on the walk are those
of the entries, one after another. -/
theorem lookups_find_entries :
    (fault.tags.Pairwise (· ≤ ·) ∧
        fault.tags.Perm (fault.outline.entries.flatMap Entry.tags)) ∧
      (fault.types.Pairwise (· < ·) ∧
        ∀ name, name ∈ fault.types ↔ ∃ entry ∈ fault.outline.entries, name ∈ entry.types) ∧
      fault.walk.toList.filterMap stack? = fault.outline.entries.flatMap Entry.traces := by
  have tagsOrdered : fault.tags.Pairwise (· ≤ ·) := Tag.sort_ordered _
  have typesIncreasing : fault.types.Pairwise (· < ·) := distinctNames_increasing _
  exact ⟨⟨tagsOrdered, tags_perm_entries fault single⟩,
    ⟨typesIncreasing, mem_types_iff_entries fault single⟩, traces_eq_entries fault single⟩

end SingleLinked

/-- A full disk that two of three joined faults come from: the same node, tagged once, and
below a custom node whose predicate answers yes. -/
def sharedDisk : Fault :=
  let disk := wrapped (.serial 1) (.tags [⟨"disk", "sda"⟩])
    (base (.serial 0) "full" (.ofFrames [⟨"write", none, none⟩]))
  joined (.serial 4)
    [wrapped (.serial 2) (.types ["Retry"]) disk, todo,
      custom (.serial 3)
        { typeName := "Volume", concrete := "volume", display := none, message := none
          types := ["Retry"], tags := [⟨"disk", "a"⟩], stack := none
          predicate := fun name => if name = "Full" then some true else none
          predicateNames := ["Full"] }
        (some disk) none]

/-- The shared node is found once for each of the two lines that show it. -/
theorem lookups_find_sharedDisk :
    sharedDisk.SingleLinked ∧
      sharedDisk.tags.Perm [⟨"disk", "sda"⟩, ⟨"disk", "a"⟩, ⟨"disk", "sda"⟩] ∧
      (∀ name, name ∈ sharedDisk.types ↔ name = "Retry" ∨ name = "Full") ∧
      sharedDisk.walk.toList.filterMap stack? =
        [.ofFrames [⟨"write", none, none⟩], .ofFrames [⟨"write", none, none⟩]] := by
  have single : sharedDisk.SingleLinked := by
    unfold SingleLinked
    decide
  have entries : sharedDisk.outline.entries =
      [⟨[], [], [], []⟩,
        ⟨["full"], ["Retry"], [⟨"disk", "sda"⟩], [.ofFrames [⟨"write", none, none⟩]]⟩,
        ⟨["TODO"], [], [], []⟩,
        ⟨["full"], ["Full", "Retry"], [⟨"disk", "a"⟩, ⟨"disk", "sda"⟩],
          [.ofFrames [⟨"write", none, none⟩]]⟩] := by
    decide
  obtain ⟨⟨_, tags⟩, ⟨_, types⟩, traces⟩ := lookups_find_entries sharedDisk single
  rw [entries] at tags types traces
  refine ⟨single, tags, ?_, traces⟩
  intro name
  rw [types]
  simp only [List.mem_cons, List.not_mem_nil, or_false, exists_eq_or_imp, exists_eq_left]
  tauto

end CauseTree.Fault
