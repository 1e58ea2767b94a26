import CauseTree.Proofs.Outlines
import CauseTree.Snapshot.Basic

/-!
# Rebuilt faults

A rebuilt fault has one node for each snapshot that has content, and each such node is a
line of its own: it has a list of causes, even where the list is empty. Its outline can
therefore be read off the snapshot. The message stands alone, the type names are sorted
and distinct, the tags are those of the map, and the only stack trace is the fresh one.
Causes without content are missing.

The snapshot of a rebuilt fault is the normal form of the snapshot that it was rebuilt
from. With a fresh stack trace that has frames, a normal form has content at every level,
so it is rebuilt without loss and is its own normal form. Without frames this can fail:
a snapshot whose only content is a stack trace is rebuilt as a fault without content.
-/

namespace CauseTree

namespace Snapshot

mutual

/-- The normal form of a snapshot: message and tags are kept, type names are sorted and
distinct, the stack entries are those of the fresh trace, and causes without content are
left out. -/
def normal (stack : StackTrace) : Snapshot → Snapshot
  | ⟨message, types, tags, _, causes⟩ =>
    ⟨message, Fault.distinctNames types, tags, stack.entries, normals stack causes⟩

/-- The normal forms of the snapshots that have content, in order. -/
def normals (stack : StackTrace) : List Snapshot → List Snapshot
  | [] => []
  | snapshot :: rest =>
    if snapshot.isNil then normals stack rest else snapshot.normal stack :: normals stack rest

end

mutual

/-- The outline of the fault that is rebuilt from a snapshot. -/
def outline (stack : StackTrace) : Snapshot → Outline
  | ⟨message, types, tags, _, causes⟩ =>
    ⟨⟨if message.isEmpty then [] else [message], Fault.distinctNames types, tags.entries, [stack]⟩,
      outlines stack causes⟩

/-- The outlines of the faults that are rebuilt from several snapshots, in order. -/
def outlines (stack : StackTrace) : List Snapshot → List Outline
  | [] => []
  | snapshot :: rest =>
    if snapshot.isNil then outlines stack rest else snapshot.outline stack :: outlines stack rest

end

/-- Snapshots of several outlines, as one list. -/
theorem ofOutlines_eq (branches : List Outline) : ofOutlines branches = branches.map ofOutline := by
  induction branches with
  | nil => rfl
  | cons branch rest inductionHypothesis => simp [ofOutlines, inductionHypothesis]

/-- Outlines are rebuilt from the snapshots that have content. -/
theorem outlines_eq (stack : StackTrace) (snapshots : List Snapshot) :
    outlines stack snapshots =
      (snapshots.filter fun snapshot => !snapshot.isNil).map (outline stack) := by
  induction snapshots with
  | nil => rfl
  | cons snapshot rest inductionHypothesis =>
    rw [outlines, inductionHypothesis]
    cases nil : snapshot.isNil <;> simp [nil]

/-- A snapshot is rebuilt exactly when it has content. -/
theorem rebuild_eq_none_iff (stack : StackTrace) (id : NodeId) (snapshot : Snapshot) :
    snapshot.rebuild stack id = none ↔ snapshot.isNil = true := by
  obtain ⟨message, types, tags, entries, causes⟩ := snapshot
  rw [rebuild]
  split <;> simp_all

/-- A snapshot with content is rebuilt as one node above its rebuilt causes. -/
theorem rebuild_eq_some (stack : StackTrace) (id : NodeId) (snapshot : Snapshot)
    (content : snapshot.isNil = false) :
    snapshot.rebuild stack id =
      some (.rebuilt id snapshot.message snapshot.types snapshot.tags.entries stack
        (rebuildAll stack id 0 snapshot.causes)) := by
  obtain ⟨message, types, tags, entries, causes⟩ := snapshot
  rw [rebuild, content]
  rfl

/-- A rebuilt node is a line of its own, and its entry shows what it holds. -/
theorem entry_rebuilt (id : NodeId) (message : String) (types : List String) (tags : TagMap)
    (stack : StackTrace) (causes : List Fault) :
    (Fault.rebuilt id message types tags.entries stack causes).entry =
      ⟨if message.isEmpty then [] else [message], Fault.distinctNames types, tags.entries,
        [stack]⟩ := by
  have own : Fault.shownMessage? (.rebuilt id message types tags.entries stack causes) =
      if message.isEmpty then none else some message := by
    by_cases empty : message = "" <;>
      simp [Fault.shownMessage?, Fault.message?, Option.filter, empty]
  have kinds : Fault.ownKinds (.rebuilt id message types tags.entries stack causes) = types := by
    simp [Fault.ownKinds, Fault.ownTypes, Fault.predicateNames]
  have line : Fault.line (.rebuilt id message types tags.entries stack causes) =
      [.rebuilt id message types tags.entries stack causes] := rfl
  simp only [Fault.entry, line, List.filterMap_cons, List.filterMap_nil, List.flatMap_cons,
    List.flatMap_nil, List.append_nil, own, kinds]
  refine Entry.mk.injEq .. |>.mpr ⟨?_, rfl, TagMap.sort_entries tags, rfl⟩
  by_cases empty : message = "" <;>
    simp [empty, Fault.closingMessage?, Fault.lineEnd, Fault.causes?]

mutual

/-- The outline of a rebuilt fault is read off its snapshot. -/
theorem outline_rebuild (stack : StackTrace) (id : NodeId) : (snapshot : Snapshot) →
    (fault : Fault) → snapshot.rebuild stack id = some fault →
    fault.outline = snapshot.outline stack
  | ⟨message, types, tags, entries, causes⟩, fault, made => by
    rw [rebuild] at made
    split at made
    · simp at made
    · have same := Option.some.inj made
      subst same
      rw [Fault.outline, entry_rebuilt, outline, ← outlines_rebuildAll stack id 0 causes]
      rfl

/-- The outlines of rebuilt causes are read off their snapshots. -/
theorem outlines_rebuildAll (stack : StackTrace) (parent : NodeId) (index : Nat) :
    (snapshots : List Snapshot) →
    Fault.outlines (rebuildAll stack parent index snapshots) = outlines stack snapshots
  | [] => rfl
  | snapshot :: rest => by
    have later := outlines_rebuildAll stack parent (index + 1) rest
    rw [rebuildAll, outlines]
    cases made : snapshot.rebuild stack (.within parent index) with
    | none =>
      rw [(rebuild_eq_none_iff stack _ snapshot).mp made]
      exact later
    | some fault =>
      have content : snapshot.isNil = false := by
        apply Bool.eq_false_iff.mpr
        intro nil
        have unmade := (rebuild_eq_none_iff stack (.within parent index) snapshot).mpr nil
        simp [unmade] at made
      have first := outline_rebuild stack (.within parent index) snapshot fault made
      rw [content, ← first, ← later]
      rfl

end

mutual

/-- Every node that can be reached from a rebuilt fault is a rebuilt node. -/
theorem nodes_rebuild (stack : StackTrace) (id : NodeId) : (snapshot : Snapshot) →
    (fault : Fault) → snapshot.rebuild stack id = some fault →
    ∀ node ∈ fault.reach, ∃ place message types tags causes,
      node = .rebuilt place message types tags stack causes
  | ⟨message, types, tags, entries, causes⟩, fault, made => by
    rw [rebuild] at made
    split at made
    · simp at made
    · obtain rfl := Option.some.inj made
      intro node member
      rcases List.mem_cons.mp member with rfl | below
      · exact ⟨id, message, types, tags.entries, rebuildAll stack id 0 causes, rfl⟩
      · rw [Fault.reachAll_eq] at below
        obtain ⟨cause, inside, reached⟩ := List.mem_flatMap.mp below
        exact nodes_rebuildAll stack id 0 causes cause inside node reached

/-- Every node that can be reached from rebuilt causes is a rebuilt node. -/
theorem nodes_rebuildAll (stack : StackTrace) (parent : NodeId) (index : Nat) :
    (snapshots : List Snapshot) → ∀ cause ∈ rebuildAll stack parent index snapshots,
    ∀ node ∈ cause.reach, ∃ place message types tags causes,
      node = .rebuilt place message types tags stack causes
  | [] => fun cause member => by simp [rebuildAll] at member
  | snapshot :: rest => fun cause member => by
    rw [rebuildAll] at member
    rcases List.mem_append.mp member with first | later
    · exact nodes_rebuild stack _ snapshot cause (Option.mem_toList.mp first)
    · exact nodes_rebuildAll stack parent (index + 1) rest cause later

end

/-- No rebuilt node has a single cause. -/
theorem singleLinked_rebuild (stack : StackTrace) (id : NodeId) (snapshot : Snapshot)
    (fault : Fault) (made : snapshot.rebuild stack id = some fault) : fault.SingleLinked := by
  intro node reached
  obtain ⟨place, message, types, tags, causes, rfl⟩ :=
    nodes_rebuild stack id snapshot fault made node reached
  exact .inl rfl

/-- The message of an entry with one message, or none where it is empty, is that message. -/
theorem message_alone (message : String) (types : List String) (tags : List Tag)
    (traces : List StackTrace) :
    Entry.message ⟨if message.isEmpty then [] else [message], types, tags, traces⟩ = message := by
  by_cases empty : message = ""
  · simp [Entry.message, empty]
  · simp [Entry.message, empty]

/-- The stack entries of one trace are those of its frames, of which there may be none. -/
theorem stackEntries_alone (messages types : List String) (tags : List Tag) (stack : StackTrace) :
    stackEntries (Entry.filledTraces ⟨messages, types, tags, [stack]⟩) = stack.entries := by
  by_cases empty : stack.frames = []
  · simp [Entry.filledTraces, StackTrace.isEmpty, StackTrace.entries, stackEntries, empty]
  · simp [Entry.filledTraces, StackTrace.isEmpty, stackEntries, empty]

mutual

/-- The snapshot of a rebuilt outline is the normal form. -/
theorem ofOutline_outline (stack : StackTrace) : (snapshot : Snapshot) →
    ofOutline (snapshot.outline stack) = snapshot.normal stack
  | ⟨message, types, tags, entries, causes⟩ => by
    rw [outline, normal, ofOutline, ofOutlines_outlines stack causes, TagMap.ofFirst_entries,
      message_alone, stackEntries_alone]

/-- The snapshots of rebuilt outlines are the normal forms. -/
theorem ofOutlines_outlines (stack : StackTrace) : (snapshots : List Snapshot) →
    ofOutlines (outlines stack snapshots) = normals stack snapshots
  | [] => rfl
  | snapshot :: rest => by
    rw [outlines, normals]
    split
    · exact ofOutlines_outlines stack rest
    · rw [ofOutlines, ofOutline_outline stack snapshot, ofOutlines_outlines stack rest]

end

/-- The snapshot of a rebuilt fault is the normal form of what it was rebuilt from. -/
theorem snapshot_rebuild {stack : StackTrace} {id : NodeId} {snapshot : Snapshot} {fault : Fault}
    (made : snapshot.rebuild stack id = some fault) : fault.snapshot = snapshot.normal stack := by
  rw [Fault.snapshot, outline_rebuild stack id snapshot fault made, ofOutline_outline]

/-- With a fresh stack trace that has frames, a normal form has content. -/
theorem isNil_normal {stack : StackTrace} (filled : stack.isEmpty = false) (snapshot : Snapshot) :
    (snapshot.normal stack).isNil = false := by
  obtain ⟨message, types, tags, entries, causes⟩ := snapshot
  rw [normal]
  simp only [StackTrace.isEmpty, List.isEmpty_eq_false_iff] at filled
  simp [isNil, StackTrace.entries, filled]

mutual

/-- With a fresh stack trace that has frames, a normal form is its own normal form. -/
theorem normal_normal {stack : StackTrace} (filled : stack.isEmpty = false) :
    (snapshot : Snapshot) → (snapshot.normal stack).normal stack = snapshot.normal stack
  | ⟨message, types, tags, entries, causes⟩ => by
    rw [normal, normal, normals_normals filled causes, Fault.distinctNames_distinctNames]

/-- With a fresh stack trace that has frames, normal forms are their own normal forms. -/
theorem normals_normals {stack : StackTrace} (filled : stack.isEmpty = false) :
    (snapshots : List Snapshot) →
    normals stack (normals stack snapshots) = normals stack snapshots
  | [] => rfl
  | snapshot :: rest => by
    rw [normals]
    split
    · exact normals_normals filled rest
    · rw [normals, isNil_normal filled, normal_normal filled snapshot,
        normals_normals filled rest]
      rfl

end

/-- A snapshot without content is not rebuilt, and any other is rebuilt as a fault whose
snapshot is the normal form. With a fresh stack trace that has frames, rebuilding once
more changes nothing. -/
theorem rebuild_normalizes (snapshot : Snapshot) (stack : StackTrace) (id : NodeId) :
    (snapshot.rebuild stack id = none ↔ snapshot.isNil = true) ∧
      (snapshot.isNil = false → ∃ fault, snapshot.rebuild stack id = some fault ∧
        fault.snapshot = snapshot.normal stack ∧
        (stack.isEmpty = false → ∀ later, ∃ again, fault.snapshot.rebuild stack later = some again ∧
          again.snapshot = fault.snapshot)) := by
  constructor
  · exact rebuild_eq_none_iff stack id snapshot
  · intro content
    have made := rebuild_eq_some stack id snapshot content
    refine ⟨_, made, snapshot_rebuild made, ?_⟩
    intro filled later
    rw [snapshot_rebuild made]
    have remade := rebuild_eq_some stack later (snapshot.normal stack)
      (isNil_normal filled snapshot)
    exact ⟨_, remade, (snapshot_rebuild remade).trans (normal_normal filled snapshot)⟩

/-- Names are sorted, the empty cause is left out, and the stack entries are fresh. -/
theorem rebuild_normalizes_repeats :
    Snapshot.isNil ⟨"m", ["b", "a", "b"], .empty, ["old"], [.empty, ⟨"c", [], .empty, [], []⟩]⟩ =
        false ∧
      StackTrace.isEmpty (.ofFrames [⟨"f", none, none⟩]) = false ∧
      ∃ fault, rebuild (.ofFrames [⟨"f", none, none⟩]) (.serial 0)
          ⟨"m", ["b", "a", "b"], .empty, ["old"], [.empty, ⟨"c", [], .empty, [], []⟩]⟩ =
          some fault ∧
        fault.snapshot = ⟨"m", ["a", "b"], .empty, ["<unknown>:f"],
          [⟨"c", [], .empty, ["<unknown>:f"], []⟩]⟩ ∧
        ∃ again, fault.snapshot.rebuild (.ofFrames [⟨"f", none, none⟩]) (.serial 1) = some again ∧
          again.snapshot = fault.snapshot := by
  obtain ⟨fault, made, normalized, remade⟩ :=
    (rebuild_normalizes ⟨"m", ["b", "a", "b"], .empty, ["old"],
      [.empty, ⟨"c", [], .empty, [], []⟩]⟩ (.ofFrames [⟨"f", none, none⟩]) (.serial 0)).2
      (by decide)
  exact ⟨by decide, by decide, fault, made, normalized, remade (by decide) (.serial 1)⟩

end Snapshot

end CauseTree
