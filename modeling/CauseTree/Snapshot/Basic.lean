import CauseTree.Outline.Basic
import CauseTree.Tag.Map

/-!
# Snapshots

A snapshot is plain data: what a reader can see of a fault, collapsed line by line as
in its outline. The first of several tags of one name counts. The frames of the stack
traces are kept as texts, with an empty text between two traces; traces without frames
leave nothing. A snapshot without any content stands for no fault at all.

A fault is rebuilt from a snapshot with a fresh stack trace in place of the stored
one, because frames of another program mean nothing here. Causes without any content
are left out, and each rebuilt cause is identified by its position among the causes
that the snapshot lists.
-/

namespace CauseTree

/-- Message, type names, tags, stack entries and causes as plain data. -/
structure Snapshot where
  message : String
  types : List String
  tags : TagMap
  stack : List String
  causes : List Snapshot

namespace Snapshot

/-- The snapshot without content. -/
def empty : Snapshot := ⟨"", [], .empty, [], []⟩

instance : Inhabited Snapshot := ⟨empty⟩

/-- Whether the snapshot has no content. -/
def isNil (snapshot : Snapshot) : Bool :=
  snapshot.message.isEmpty && snapshot.types.isEmpty && snapshot.tags.isEmpty &&
    snapshot.stack.isEmpty && snapshot.causes.isEmpty

mutual

/-- Whether two snapshots have the same content. -/
def same : Snapshot → Snapshot → Bool
  | ⟨message, types, tags, stack, causes⟩, ⟨message', types', tags', stack', causes'⟩ =>
    message == message' && types == types' && decide (tags = tags') && stack == stack' &&
      sameAll causes causes'

/-- Whether two lists of snapshots agree item by item. -/
def sameAll : List Snapshot → List Snapshot → Bool
  | [], [] => true
  | a :: as, b :: bs => same a b && sameAll as bs
  | _, _ => false

end

mutual

/-- Snapshots have the same content exactly when they are equal. -/
theorem same_iff : (snapshot other : Snapshot) → (same snapshot other = true ↔ snapshot = other)
  | ⟨message, types, tags, stack, causes⟩, ⟨message', types', tags', stack', causes'⟩ => by
    simp [same, sameAll_iff causes causes', and_assoc]

/-- Lists of snapshots agree item by item exactly when they are equal. -/
theorem sameAll_iff : (snapshots others : List Snapshot) →
    (sameAll snapshots others = true ↔ snapshots = others)
  | [], [] => by simp [sameAll]
  | [], _ :: _ => by simp [sameAll]
  | _ :: _, [] => by simp [sameAll]
  | a :: as, b :: bs => by simp [sameAll, same_iff a b, sameAll_iff as bs]

end

/-- The entries of several stack traces, with an empty one between two traces. -/
def stackEntries : List StackTrace → List String
  | [] => []
  | [stack] => stack.entries
  | stack :: next :: rest => stack.entries ++ "" :: stackEntries (next :: rest)

mutual

/-- The snapshot of an outline. -/
def ofOutline : Outline → Snapshot
  | ⟨entry, branches⟩ =>
    ⟨entry.message, entry.types, .ofFirst entry.tags, stackEntries entry.filledTraces,
      ofOutlines branches⟩

/-- The snapshots of several outlines, in order. -/
def ofOutlines : List Outline → List Snapshot
  | [] => []
  | outline :: rest => ofOutline outline :: ofOutlines rest

end

mutual

/-- The fault that a snapshot stands for, with the given identity and stack trace. -/
def rebuild (stack : StackTrace) (id : NodeId) : Snapshot → Option Fault
  | ⟨message, types, tags, entries, causes⟩ =>
    if isNil ⟨message, types, tags, entries, causes⟩ then none
    else some (.rebuilt id message types tags.entries stack (rebuildAll stack id 0 causes))

/-- The faults that the causes of a snapshot stand for, from a position on. -/
def rebuildAll (stack : StackTrace) (parent : NodeId) (index : Nat) : List Snapshot → List Fault
  | [] => []
  | snapshot :: rest =>
    (rebuild stack (.within parent index) snapshot).toList ++
      rebuildAll stack parent (index + 1) rest

end

end Snapshot

/-- The snapshot of a fault. -/
def Fault.snapshot (fault : Fault) : Snapshot := Snapshot.ofOutline fault.outline

/-- The snapshot of an optional fault; an absent one has no content. -/
def Snapshot.ofOptional : Option Fault → Snapshot
  | none => .empty
  | some fault => fault.snapshot

end CauseTree
