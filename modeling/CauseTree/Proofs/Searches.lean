import CauseTree.Proofs.Descent
import Std.Data.HashSet.Lemmas

/-!
# Searching for a recorded stack trace

The search of a graph enters a numbered node once. It keeps the numbers of the nodes from
which it has found nothing, and passes over a node whose number is among them. This is right
as long as a number stands for one node: then nothing recorded can be reached from any node
whose number is kept. Each part of the search keeps it that way, whatever was kept before, so
the whole search finds a recorded stack trace exactly when one can be reached.
-/

namespace CauseTree.Fault

/-- Whether the node itself has a stack trace that was recorded. -/
def isRecorded (node : Fault) : Bool := node.stack?.any StackTrace.recorded

/-- Among these nodes a number stands for one node. -/
def Numbered (nodes : List Fault) : Prop :=
  ∀ node ∈ nodes, ∀ other ∈ nodes, ∀ number,
    node.serial? = some number → other.serial? = some number → node = other

/-- Nothing recorded can be reached from a node whose number is kept. -/
def InVain (nodes : List Fault) (searched : Std.HashSet Nat) : Prop :=
  ∀ node ∈ nodes, ∀ number, node.serial? = some number → number ∈ searched →
    ∀ below ∈ node.reach, below.isRecorded = false

/-- What the answer of a search says of the nodes that it was to search. If it fails, one of
them is recorded. If it answers with numbers, none of them is, and all numbers were searched
in vain. -/
def Settles (nodes reached : List Fault) : Option (Std.HashSet Nat) → Prop
  | none => ∃ node ∈ reached, node.isRecorded = true
  | some searched => (∀ node ∈ reached, node.isRecorded = false) ∧ InVain nodes searched

/-- Whatever was searched in vain before, the answers of the search settle these nodes. -/
def Searches (nodes reached : List Fault)
    (search : Std.HashSet Nat → Option (Std.HashSet Nat)) : Prop :=
  ∀ searched, InVain nodes searched → Settles nodes reached (search searched)

/-- A node is searched, once, before its direct causes. -/
theorem search_eq (fault : Fault) :
    fault.search = fault.searchOnce (searchAll fault.directCauses) := by
  cases fault with
  | wrapped id note cause =>
    funext searched
    simp [search, searchAll, directCauses, cause?, causes?]
  | custom id node cause causes =>
    funext searched
    cases cause <;> cases causes <;> simp [search, searchAll, directCauses, cause?, causes?]
  | _ => simp [search, searchAll, directCauses, cause?, causes?]

section Search

variable {nodes reached further : List Fault} {fault : Fault} {faults : List Fault}
variable {answer : Option (Std.HashSet Nat)}
variable {search next : Std.HashSet Nat → Option (Std.HashSet Nat)}

/-- An answer about some nodes is one about another node as well that is not recorded. -/
theorem Settles.cons (settled : Settles nodes reached answer) (clean : fault.isRecorded = false) :
    Settles nodes (fault :: reached) answer := by
  cases answer with
  | none =>
    obtain ⟨node, member, recorded⟩ := settled
    exact ⟨node, List.mem_cons_of_mem _ member, recorded⟩
  | some searched => exact ⟨List.forall_mem_cons.mpr ⟨clean, settled.1⟩, settled.2⟩

/-- The number of a node can be kept when all that is reached from it was searched. -/
theorem Settles.keep (settled : Settles nodes fault.reach answer) (numbered : Numbered nodes)
    (inside : fault ∈ nodes) {number : Nat} (named : fault.serial? = some number) :
    Settles nodes fault.reach (answer.map fun searched => searched.insert number) := by
  cases answer with
  | none => exact settled
  | some searched =>
    obtain ⟨clean, vain⟩ := settled
    refine ⟨clean, ?_⟩
    intro node member other same kept
    rcases Std.HashSet.mem_insert.mp kept with equal | earlier
    · obtain rfl : number = other := by simpa using equal
      rw [numbered node member fault inside number same named]
      exact clean
    · exact vain node member other same earlier

/-- Two searches, one after the other, settle the nodes of both. -/
theorem Searches.bind (first : Searches nodes reached search)
    (second : Searches nodes further next) :
    Searches nodes (reached ++ further) fun searched => (search searched).bind next := by
  intro searched vain
  have settled := first searched vain
  show Settles nodes (reached ++ further) ((search searched).bind next)
  cases answer : search searched with
  | none =>
    rw [answer] at settled
    obtain ⟨node, member, recorded⟩ := settled
    exact ⟨node, List.mem_append_left _ member, recorded⟩
  | some middle =>
    rw [answer] at settled
    obtain ⟨clean, middleVain⟩ := settled
    have settledLater := second middle middleVain
    rw [Option.bind_some]
    cases last : next middle with
    | none =>
      rw [last] at settledLater
      obtain ⟨node, member, recorded⟩ := settledLater
      exact ⟨node, List.mem_append_right _ member, recorded⟩
    | some later =>
      rw [last] at settledLater
      exact ⟨List.forall_mem_append.mpr ⟨clean, settledLater.1⟩, settledLater.2⟩

/-- Searching several faults in order settles all nodes that can be reached from them. -/
theorem searches_all (each : ∀ fault ∈ faults, Searches nodes fault.reach fault.search) :
    Searches nodes (faults.flatMap reach) (searchAll faults) := by
  induction faults with
  | nil => exact fun searched vain => ⟨List.forall_mem_nil _, vain⟩
  | cons fault rest inductionHypothesis =>
    obtain ⟨first, later⟩ := List.forall_mem_cons.mp each
    exact first.bind (inductionHypothesis later)

/-- A node is passed over when its number was searched in vain. Otherwise what is below it is
searched, and its number is kept. -/
theorem Searches.once (numbered : Numbered nodes) (inside : fault ∈ nodes)
    (below : Searches nodes (fault.directCauses.flatMap reach) search) :
    Searches nodes fault.reach (fault.searchOnce search) := by
  intro searched vain
  unfold searchOnce
  split
  · next recorded => exact ⟨fault, mem_reach_self fault, recorded⟩
  · next unrecorded =>
    have clean : fault.isRecorded = false := by simpa [isRecorded] using unrecorded
    have settled : Settles nodes fault.reach (search searched) := by
      rw [reach_eq]
      exact (below searched vain).cons clean
    split
    · exact settled
    · next number named =>
      split
      · next known =>
        exact ⟨vain fault inside number named (Std.HashSet.contains_iff_mem.mp known), vain⟩
      · exact settled.keep numbered inside named

/-- The search of a fault settles all nodes that can be reached from it. -/
theorem searches (numbered : Numbered nodes) (fault : Fault) (inside : fault.reach ⊆ nodes) :
    Searches nodes fault.reach fault.search := by
  induction fault using cause_induction with
  | step fault inductionHypothesis =>
    rw [search_eq]
    refine .once numbered (inside (mem_reach_self fault)) (searches_all ?_)
    intro cause direct
    refine inductionHypothesis cause direct fun node member => inside ?_
    rw [reach_eq]
    exact List.mem_cons_of_mem _ (List.mem_flatMap.mpr ⟨cause, direct, member⟩)

end Search

/-- Where a number stands for one node, the search finds a recorded stack trace exactly when one
can be reached. -/
theorem hasRecordedStack_iff (fault : Fault) (numbered : Numbered fault.reach) :
    fault.hasRecordedStack = true ↔ ∃ node ∈ fault.reach, node.isRecorded = true := by
  have nothing : InVain fault.reach ∅ := by
    intro node _ number _ kept
    exact absurd kept Std.HashSet.not_mem_empty
  have settled := searches numbered fault (List.Subset.refl _) ∅ nothing
  unfold hasRecordedStack
  cases answer : fault.search ∅ with
  | none =>
    rw [answer] at settled
    exact iff_of_true rfl settled
  | some searched =>
    rw [answer] at settled
    refine iff_of_false (by simp) ?_
    rintro ⟨node, member, recorded⟩
    rw [settled.1 node member] at recorded
    exact Bool.false_ne_true recorded

end CauseTree.Fault
