import CauseTree.Proofs.Recovery
import Mathlib.Data.List.Forall2

/-!
# Faults that a snapshot loses

A snapshot without content stands for no fault at all. A fault with such a snapshot is not
rebuilt, and where it is one of several causes, the rebuilt fault has one cause less.

What has a text can still be lost. A line shows the texts of foreign faults and of other
nodes without a message at its end, so that a fault with a text has a snapshot with content.
It asks for this whether the node has a message and whether it has a list of causes, and not
whether these are empty. A custom node with an empty message of its own, or with an empty
list of causes, ends its line without anything to show for its text. When nothing else on
the line shows anything, the fault is lost, and a fault is lost in no other way.
-/

namespace CauseTree

/-- Stack traces that have frames leave entries. -/
theorem Snapshot.stackEntries_eq_nil_iff {traces : List StackTrace}
    (filled : ∀ trace ∈ traces, trace.isEmpty = false) :
    stackEntries traces = [] ↔ traces = [] := by
  match traces with
  | [] => simp [stackEntries]
  | [trace] =>
    have frames : trace.frames ≠ [] := by simpa [StackTrace.isEmpty] using filled trace
    simp [stackEntries, StackTrace.entries, frames]
  | trace :: next :: rest => simp [stackEntries]

namespace Fault

/-- Whether a node shows nothing of itself on its line: no message, no type names, no tags and
no stack trace with frames. -/
def isBare (node : Fault) : Bool :=
  node.message?.all String.isEmpty && node.ownKinds.isEmpty && node.ownTags.isEmpty &&
    node.stack?.all StackTrace.isEmpty

/-- Whether a node ends its line with nothing to show for its text, because it is a custom
node with an empty list of causes, or with an empty message and no causes. -/
def isMute : Fault → Bool
  | custom _ _ _ (some causes) => causes.isEmpty
  | custom _ node none none => node.message = some ""
  | _ => false

/-- Whether all nodes on the line of a fault are bare and the last one is mute. -/
def isUnseen (fault : Fault) : Bool := fault.line.all isBare && fault.lineEnd.isMute

section Entry

variable (fault : Fault)

/-- A line shows no message when no node on it has one and it takes no text from its end. -/
theorem messages_eq_nil_iff :
    fault.entry.messages = [] ↔
      (∀ node ∈ fault.line, node.message?.all String.isEmpty = true) ∧
        fault.lineEnd.closingMessage? = none := by
  have silent (node : Fault) :
      node.shownMessage? = none ↔ node.message?.all String.isEmpty = true := by
    unfold shownMessage?
    cases node.message? <;> simp [Option.filter]
  simp only [entry, List.append_eq_nil_iff, List.filterMap_eq_nil_iff, silent,
    Option.toList_eq_nil_iff]

/-- A line shows no type names when no node on it contributes one. -/
theorem entryTypes_eq_nil_iff :
    fault.entry.types = [] ↔ ∀ node ∈ fault.line, node.ownKinds = [] := by
  simp only [entry, distinctNames_eq_nil_iff, List.flatMap_eq_nil_iff]

/-- A line shows no tags when no node on it has one. -/
theorem entryTags_eq_nil_iff :
    fault.entry.tags = [] ↔ ∀ node ∈ fault.line, node.ownTags = [] := by
  simp only [entry, Ordered.sort_eq_nil_iff, List.flatMap_eq_nil_iff]

/-- A line has no stack trace with frames when no node on it has one. -/
theorem filledTraces_eq_nil_iff :
    fault.entry.filledTraces = [] ↔
      ∀ node ∈ fault.line, node.stack?.all StackTrace.isEmpty = true := by
  simp only [Entry.filledTraces, entry, List.filter_eq_nil_iff, List.mem_filterMap,
    Option.all_eq_true, Bool.not_eq_true, Bool.not_eq_false', forall_exists_index, and_imp]
  constructor
  · intro empty node member trace recorded
    exact empty trace node member recorded
  · intro empty trace node member recorded
    exact empty node member trace recorded

/-- A snapshot has no content exactly when the nodes on the line are bare, the line takes no
text from its end, and there are no causes below it. -/
theorem isNil_iff :
    fault.snapshot.isNil = true ↔
      (∀ node ∈ fault.line, node.isBare = true) ∧ fault.lineEnd.closingMessage? = none ∧
        fault.lineCauses = [] := by
  have filled : ∀ trace ∈ fault.entry.filledTraces, trace.isEmpty = false := by
    intro trace member
    simpa using (List.mem_filter.mp member).2
  rw [snapshot_eq]
  simp only [Snapshot.isNil, Bool.and_eq_true, String.isEmpty_iff, List.isEmpty_iff,
    List.map_eq_nil_iff, TagMap.isEmpty_ofFirst, message_eq_empty_iff, messages_eq_nil_iff,
    entryTypes_eq_nil_iff, entryTags_eq_nil_iff, Snapshot.stackEntries_eq_nil_iff filled,
    filledTraces_eq_nil_iff, isBare, forall_and]
  tauto

end Entry

/-- A bare node with a text that ends its line is mute exactly when the line takes no text
from it and no causes are below it. Any other kind of node has a text only if it has a
message or causes, or else the line takes the text. -/
theorem isMute_iff {node : Fault} (ends : Ends node) (bare : node.isBare = true)
    (stated : node.text ≠ "") :
    node.isMute = true ↔ node.closingMessage? = none ∧ node.causes?.getD [] = [] := by
  have silent : node.message?.all String.isEmpty = true := by
    simp only [isBare, Bool.and_eq_true] at bare
    exact bare.1.1.1
  cases node with
  | base id message stack =>
    simp [message?] at silent
    simp [text, textAfter, silent] at stated
  | todo => simp [isMute, closingMessage?, causes?, message?, text, textAfter]
  | foreign id value => simp [isMute, closingMessage?, causes?, message?, stated]
  | wrapped id note cause => exact absurd (ends.causeless rfl) (Option.some_ne_none cause)
  | joined id causes =>
    have filled : causes ≠ [] := by
      rintro rfl
      exact stated rfl
    simp [isMute, causes?, filled]
  | rebuilt id message types tags stack causes =>
    simp [message?] at silent
    simp [text, textAfter, silent] at stated
  | custom id node cause causes =>
    cases causes with
    | some list => cases cause <;> simp [isMute, closingMessage?, causes?]
    | none =>
      have causeless : cause = none := ends.causeless rfl
      subst causeless
      cases own : node.message with
      | none => simp [isMute, closingMessage?, causes?, message?, own, stated]
      | some message =>
        have empty : message = "" := by simpa [message?, own] using silent
        simp [isMute, closingMessage?, causes?, message?, own, empty]

/-- Where the end of a line has a text, the snapshot has no content exactly when the line is
unseen. -/
theorem isNil_eq_isUnseen {fault : Fault} (stated : fault.lineEnd.text ≠ "") :
    fault.snapshot.isNil = fault.isUnseen := by
  have last : fault.lineEnd ∈ fault.line := List.mem_of_getLast? (getLast_line fault)
  rw [Bool.eq_iff_iff, isNil_iff, isUnseen, Bool.and_eq_true, List.all_eq_true]
  constructor
  · rintro ⟨bare, untaken, causeless⟩
    exact ⟨bare, (isMute_iff (ends_lineEnd fault) (bare _ last) stated).mpr ⟨untaken, causeless⟩⟩
  · rintro ⟨bare, mute⟩
    exact ⟨bare, (isMute_iff (ends_lineEnd fault) (bare _ last) stated).mp mute⟩

/-- Each cause with content is rebuilt, in order, and no other. -/
theorem rebuildAll_causes (stack : StackTrace) (parent : NodeId) (index : Nat)
    (causes : List Fault) :
    List.Forall₂ (fun cause rebuilt => ∃ id, cause.snapshot.rebuild stack id = some rebuilt)
      (causes.filter fun cause => !cause.snapshot.isNil)
      (Snapshot.rebuildAll stack parent index (causes.map snapshot)) := by
  induction causes generalizing index with
  | nil => exact .nil
  | cons cause rest inductionHypothesis =>
    rw [List.map_cons, Snapshot.rebuildAll]
    cases nil : cause.snapshot.isNil with
    | true =>
      rw [(Snapshot.rebuild_eq_none_iff stack (.within parent index) _).mpr nil,
        List.filter_cons_of_neg (by simp [nil])]
      exact inductionHypothesis (index + 1)
    | false =>
      have made := Snapshot.rebuild_eq_some stack (.within parent index) _ nil
      rw [made, List.filter_cons_of_pos (by simp [nil])]
      exact .cons ⟨_, made⟩ (inductionHypothesis (index + 1))

/-- Where every node that can be reached has a text, a fault has a snapshot without content
exactly when it is unseen, and then it is not rebuilt. The causes of a fault that is rebuilt
are all those at the end of its line that are not unseen, rebuilt in their order. -/
theorem lost_iff_unseen (fault : Fault) (stated : ∀ node ∈ fault.reach, node.text ≠ "") :
    (fault.snapshot.isNil = true ↔ fault.isUnseen = true) ∧
      (∀ stack id, fault.snapshot.rebuild stack id = none ↔ fault.isUnseen = true) ∧
      ∀ stack id rebuilt, fault.snapshot.rebuild stack id = some rebuilt →
        ∃ causes, rebuilt.causes? = some causes ∧
          List.Forall₂ (fun cause again => ∃ place, cause.snapshot.rebuild stack place = some again)
            (fault.lineCauses.filter fun cause => !cause.isUnseen) causes := by
  have unseen : fault.snapshot.isNil = fault.isUnseen :=
    isNil_eq_isUnseen (stated _ (lineEnd_mem_reach fault))
  refine ⟨by rw [unseen], ?_, ?_⟩
  · intro stack id
    rw [Snapshot.rebuild_eq_none_iff, unseen]
  · intro stack id rebuilt made
    have content : fault.snapshot.isNil = false := by
      apply Bool.eq_false_iff.mpr
      intro nil
      simp [(Snapshot.rebuild_eq_none_iff stack id _).mpr nil] at made
    have kept : (fault.lineCauses.filter fun cause => !cause.isUnseen) =
        fault.lineCauses.filter fun cause => !cause.snapshot.isNil := by
      apply List.filter_congr
      intro cause member
      have inside : cause.lineEnd ∈ fault.reach :=
        reach_lineCauses member (lineEnd_mem_reach cause)
      rw [isNil_eq_isUnseen (stated _ inside)]
    rw [Snapshot.rebuild_eq_some stack id _ content, snapshot_eq] at made
    obtain rfl := Option.some.inj made
    rw [kept]
    exact ⟨_, rfl, rebuildAll_causes stack id 0 fault.lineCauses⟩

/-- A full disk, as a custom node reports it: the text says what has happened, and the message
of its own is empty. -/
def fullDisk : Fault :=
  custom (.serial 0)
    { typeName := "Disk", concrete := "disk", display := some "disk full", message := some ""
      types := [], tags := [], stack := none, predicate := fun _ => none, predicateNames := [] }
    none none

/-- A replica that no attempt was made to reach: the list of its causes is empty. -/
def noAttempt : Fault :=
  custom (.serial 1)
    { typeName := "Replica", concrete := "replica", display := some "no attempt made"
      message := none, types := [], tags := [], stack := none, predicate := fun _ => none
      predicateNames := [] }
    none (some [])

/-- A full disk, a replica and a slow feed, joined. -/
def diskAndFeed : Fault :=
  joined (.serial 3) [fullDisk, noAttempt, base (.serial 2) "slow feed" .empty]

/-- The full disk and the replica are lost, and the joined faults come back with one cause
instead of three. -/
theorem lost_iff_unseen_fullDisk :
    (∀ node ∈ diskAndFeed.reach, node.text ≠ "") ∧
      (∀ lost ∈ [fullDisk, noAttempt],
        lost.snapshot.isNil = true ∧ ∀ stack id, lost.snapshot.rebuild stack id = none) ∧
      ∃ rebuilt causes, diskAndFeed.snapshot.rebuild .empty (.serial 4) = some rebuilt ∧
        rebuilt.causes? = some causes ∧ causes.length = 1 := by
  have stated : ∀ node ∈ diskAndFeed.reach, node.text ≠ "" := by decide
  have unseen : ∀ lost ∈ [fullDisk, noAttempt], lost.isUnseen = true := by decide
  have statedLost : ∀ lost ∈ [fullDisk, noAttempt], ∀ node ∈ lost.reach, node.text ≠ "" := by
    decide
  obtain ⟨_, remade, kept⟩ := lost_iff_unseen diskAndFeed stated
  refine ⟨stated, ?_, ?_⟩
  · intro lost member
    obtain ⟨nil, unmade, _⟩ := lost_iff_unseen lost (statedLost lost member)
    exact ⟨nil.mpr (unseen lost member), fun stack id => (unmade stack id).mpr (unseen lost member)⟩
  · cases made : diskAndFeed.snapshot.rebuild .empty (.serial 4) with
    | none => exact absurd ((remade .empty (.serial 4)).mp made) (by decide)
    | some rebuilt =>
      obtain ⟨causes, listed, matched⟩ := kept .empty (.serial 4) rebuilt made
      exact ⟨rebuilt, causes, rfl, listed, matched.length_eq.symm.trans (by decide)⟩

end Fault

end CauseTree
