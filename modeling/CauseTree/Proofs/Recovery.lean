import CauseTree.Proofs.Rebuild

/-!
# What a snapshot preserves

A snapshot keeps one value for each tag name and leaves out causes without content when
it is rebuilt. Where no line repeats a tag name and every line has content, neither loses
anything that a tree rendering shows, so the rebuilt fault looks the same in every tree
style. The tags of a whole graph are the tags of its entries, unless a node has both a
cause and a list of causes, and then they are the same too.
-/

namespace CauseTree

namespace Fault

/-- The snapshot of a fault has the snapshots of the causes at the end of its line below it. -/
theorem snapshot_eq (fault : Fault) :
    fault.snapshot =
      ⟨fault.entry.message, fault.entry.types, .ofFirst fault.entry.tags,
        Snapshot.stackEntries fault.entry.filledTraces, fault.lineCauses.map snapshot⟩ := by
  rw [snapshot, outline_eq, Snapshot.ofOutline, Snapshot.ofOutlines_eq, List.map_map]
  rfl

/-- No line of the outline carries two tags of one name. -/
def UnrepeatedTags (fault : Fault) : Prop :=
  ∀ head ∈ fault.heads, ((head.line.flatMap ownTags).map Tag.name).Nodup

/-- No line of the outline has a snapshot without content. -/
def ContentThroughout (fault : Fault) : Prop :=
  ∀ head ∈ fault.heads, head.snapshot.isNil = false

/-- Tags of a line without a repeated name all stand in the snapshot. -/
theorem entries_ofFirst_entry {fault : Fault}
    (unrepeated : ((fault.line.flatMap ownTags).map Tag.name).Nodup) :
    (TagMap.ofFirst fault.entry.tags).entries = fault.entry.tags := by
  have arranged : fault.entry.tags.Perm (fault.line.flatMap ownTags) := Ordered.sort_perm _
  exact TagMap.entries_ofFirst (Tag.increasing_of_nodup (Tag.sort_ordered _)
    ((arranged.map Tag.name).nodup_iff.mpr unrepeated))

/-- A line without a repeated tag name keeps its heading in a snapshot. -/
theorem heading_rebuilt {fault : Fault} (stack : StackTrace)
    (unrepeated : ((fault.line.flatMap ownTags).map Tag.name).Nodup) :
    Entry.heading ⟨if fault.entry.message.isEmpty then [] else [fault.entry.message],
      distinctNames fault.entry.types, (TagMap.ofFirst fault.entry.tags).entries, [stack]⟩ =
        fault.entry.heading := by
  have kinds : distinctNames fault.entry.types = fault.entry.types :=
    distinctNames_distinctNames (fault.line.flatMap ownKinds)
  rw [Entry.heading, Snapshot.message_alone, entries_ofFirst_entry unrepeated, kinds,
    Entry.heading]
  by_cases silent : fault.entry.messages = []
  · simp [silent, (message_eq_empty_iff fault).mpr silent]
  · have spoken : fault.entry.message ≠ "" := mt (message_eq_empty_iff fault).mp silent
    simp [silent, spoken]

/-- Without repeated tag names and with content throughout, an outline keeps its headings
when it is rebuilt from the snapshot. -/
theorem headings_rebuilt (stack : StackTrace) (fault : Fault) (unrepeated : fault.UnrepeatedTags)
    (content : fault.ContentThroughout) :
    (fault.snapshot.outline stack).headings = fault.outline.headings := by
  induction fault using outline_induction with
  | step fault inductionHypothesis =>
    obtain ⟨unrepeatedHere, unrepeatedBelow⟩ := (forall_heads_iff fault).mp unrepeated
    obtain ⟨_, contentBelow⟩ := (forall_heads_iff fault).mp content
    have kept : (fault.lineCauses.map snapshot).filter (fun snapshot => !snapshot.isNil) =
        fault.lineCauses.map snapshot := by
      apply List.filter_eq_self.mpr
      intro taken member
      obtain ⟨cause, inside, rfl⟩ := List.mem_map.mp member
      have own : cause.snapshot.isNil = false :=
        ((forall_heads_iff cause).mp (contentBelow cause inside)).1
      simp [own]
    rw [snapshot_eq, Snapshot.outline, Snapshot.outlines_eq, kept, outline_eq, Outline.headings,
      Outline.headings, heading_rebuilt stack unrepeatedHere, Outline.branchHeadings_eq,
      Outline.branchHeadings_eq, List.map_map, List.map_map, List.map_map]
    congr 1
    apply List.map_congr_left
    intro cause member
    exact inductionHypothesis cause member (unrepeatedBelow cause member)
      (contentBelow cause member)

/-- A rebuilt fault looks the same in every tree style as the fault whose snapshot it was
rebuilt from, when no line repeats a tag name and every line has content. Without doubly
linked nodes it has the same tags. -/
theorem rebuild_preserves_tree (fault : Fault) (stack : StackTrace) (id : NodeId)
    (unrepeated : fault.UnrepeatedTags) (content : fault.ContentThroughout) :
    ∃ rebuilt, fault.snapshot.rebuild stack id = some rebuilt ∧
      rebuilt.outline.headings = fault.outline.headings ∧
      (∀ style : Style, style.detail = .tree → rebuilt.render style = fault.render style) ∧
      (fault.SingleLinked → rebuilt.tags = fault.tags) := by
  have made := Snapshot.rebuild_eq_some stack id fault.snapshot
    ((forall_heads_iff fault).mp content).1
  have same := headings_rebuilt stack fault unrepeated content
  rw [← Snapshot.outline_rebuild stack id fault.snapshot _ made] at same
  refine ⟨_, made, same, ?_, ?_⟩
  · intro style tree
    exact render_eq_of_headings same style tree
  · intro single
    have rebuiltSingle := Snapshot.singleLinked_rebuild stack id _ _ made
    rw [tags_eq_entries fault single, tags_eq_entries _ rebuiltSingle, ← Outline.tags_headings,
      same, Outline.tags_headings]

/-- A message above two joined faults: a tagged foreign fault, and a fault of two lines. -/
def twoFailures : Fault :=
  wrapped (.serial 5) (.message "saving")
    (joined (.serial 4)
      [wrapped (.serial 2) (.tags [⟨"host", "db"⟩, ⟨"port", "1"⟩])
        (wrapped (.serial 1) (.message "writing") (foreign (.serial 0) ⟨"io", "full", [], none⟩)),
      base (.serial 3) "slow\ndisk" .empty])

/-- Both failures come back from the snapshot with their lines, branches and tags. -/
theorem rebuild_preserves_twoFailures :
    twoFailures.UnrepeatedTags ∧ twoFailures.ContentThroughout ∧ twoFailures.SingleLinked ∧
      ∃ rebuilt, twoFailures.snapshot.rebuild .empty (.serial 6) = some rebuilt ∧
        rebuilt.render .tree =
          "saving\n├── writing: full [host:\"db\" port:\"1\"]\n└── slow\n    disk" ∧
        rebuilt.tags = [⟨"host", "db"⟩, ⟨"port", "1"⟩] := by
  have unrepeated : twoFailures.UnrepeatedTags := by
    unfold UnrepeatedTags
    decide
  have content : twoFailures.ContentThroughout := by
    unfold ContentThroughout
    decide
  have single : twoFailures.SingleLinked := by
    unfold SingleLinked
    decide
  obtain ⟨rebuilt, made, _, alike, tagged⟩ :=
    rebuild_preserves_tree twoFailures .empty (.serial 6) unrepeated content
  refine ⟨unrepeated, content, single, rebuilt, made, ?_, ?_⟩
  · rw [alike .tree rfl]
    decide
  · rw [tagged single]
    decide

end Fault

end CauseTree
