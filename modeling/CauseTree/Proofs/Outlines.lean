import CauseTree.Proofs.Canonical
import CauseTree.Proofs.Layout
import CauseTree.Proofs.Walks
import Mathlib.Data.List.Perm.Basic

/-!
# What an outline shows

A tree rendering shows of an entry its messages joined into one, its type names and its
tags, but neither how the message is made up nor the stack traces. What it shows is the
heading of the entry, and the headings of all entries determine the tree rendering.

Messages of an entry are never empty, so a joined message is empty only where there are
no messages at all, which is where a rendering shows the placeholder.
-/

namespace CauseTree

namespace Entry

/-- What a tree rendering shows of an entry: the messages as one, the names and the tags. -/
def heading (entry : Entry) : Entry where
  messages := if entry.messages.isEmpty then [] else [entry.message]
  types := entry.types
  tags := entry.tags
  traces := []

/-- The heading has the message of the entry. -/
theorem message_heading (entry : Entry) : entry.heading.message = entry.message := by
  unfold heading message
  cases entry.messages <;> simp

/-- A tree rendering writes an entry as it writes its heading. -/
theorem rows_heading (style : Style) (tree : style.detail = .tree) (entry : Entry) :
    entry.heading.rows style = entry.rows style := by
  have lines : entry.heading.messageLines style = entry.messageLines style := by
    have empty : entry.heading.messages.isEmpty = entry.messages.isEmpty := by
      unfold heading
      cases entry.messages <;> simp
    unfold messageLines
    rw [message_heading, empty]
  have summary : entry.heading.summary = entry.summary := rfl
  simp only [rows, lines, summary, tree, reduceCtorEq, if_false]

end Entry

namespace Outline

mutual

/-- The entries of an outline in the order in which they are shown. -/
def entries : Outline → List Entry
  | ⟨entry, branches⟩ => entry :: branchEntries branches

/-- The entries of several outlines, in order. -/
def branchEntries : List Outline → List Entry
  | [] => []
  | branch :: rest => branch.entries ++ branchEntries rest

end

mutual

/-- The outline of the headings. -/
def headings : Outline → Outline
  | ⟨entry, branches⟩ => ⟨entry.heading, branchHeadings branches⟩

/-- The outlines of the headings, in order. -/
def branchHeadings : List Outline → List Outline
  | [] => []
  | branch :: rest => branch.headings :: branchHeadings rest

end

/-- The entries of several outlines stand one after another. -/
theorem branchEntries_eq (branches : List Outline) :
    branchEntries branches = branches.flatMap entries := by
  induction branches with
  | nil => rfl
  | cons branch rest inductionHypothesis => simp [branchEntries, inductionHypothesis]

/-- Headings are taken from each of several outlines. -/
theorem branchHeadings_eq (branches : List Outline) :
    branchHeadings branches = branches.map headings := by
  induction branches with
  | nil => rfl
  | cons branch rest inductionHypothesis => simp [branchHeadings, inductionHypothesis]

mutual

/-- A tree rendering writes an outline as it writes the outline of the headings. -/
theorem rows_headings (style : Style) (tree : style.detail = .tree) : (outline : Outline) →
    outline.headings.rows style = outline.rows style
  | ⟨entry, branches⟩ => by
    rw [headings, rows, rows, Entry.rows_heading style tree,
      branchRows_headings style tree branches]

/-- A tree rendering writes branches as it writes those of the headings. -/
theorem branchRows_headings (style : Style) (tree : style.detail = .tree) :
    (branches : List Outline) →
    branchRows style (branchHeadings branches) = branchRows style branches
  | [] => rfl
  | [branch] => by
    simp only [branchHeadings, branchRows, rows_headings style tree branch]
  | branch :: next :: rest => by
    have later := branchRows_headings style tree (next :: rest)
    simp only [branchHeadings] at later
    simp only [branchHeadings, branchRows, rows_headings style tree branch, later]

end

mutual

/-- The outline of the headings has the headings as its entries. -/
theorem entries_headings : (outline : Outline) →
    outline.headings.entries = outline.entries.map Entry.heading
  | ⟨entry, branches⟩ => by
    rw [headings, entries, entries, branchEntries_headings branches, List.map_cons]

/-- The outlines of the headings have the headings as their entries. -/
theorem branchEntries_headings : (branches : List Outline) →
    branchEntries (branchHeadings branches) = (branchEntries branches).map Entry.heading
  | [] => rfl
  | branch :: rest => by
    rw [branchHeadings, branchEntries, branchEntries, entries_headings branch,
      branchEntries_headings rest, List.map_append]

end

/-- Headings keep all tags. -/
theorem tags_headings (outline : Outline) :
    outline.headings.entries.flatMap Entry.tags = outline.entries.flatMap Entry.tags := by
  rw [entries_headings, List.flatMap_map]
  rfl

end Outline

namespace Fault

/-- Faults whose outlines have the same headings look the same in every tree rendering. -/
theorem render_eq_of_headings {fault other : Fault}
    (same : fault.outline.headings = other.outline.headings) (style : Style)
    (tree : style.detail = .tree) : fault.render style = other.render style := by
  rw [render_eq style fault (.inl tree), render_eq style other (.inl tree), Outline.layout,
    Outline.layout, ← Outline.rows_headings style tree, same, Outline.rows_headings style tree]

/-- No message of an entry is empty. -/
theorem messages_filled (fault : Fault) : "" ∉ fault.entry.messages := by
  intro member
  rcases List.mem_append.mp member with own | closing
  · obtain ⟨node, _, shown⟩ := List.mem_filterMap.mp own
    simp [shownMessage?, Option.filter_eq_some_iff] at shown
  · unfold closingMessage? at closing
    split at closing
    · split at closing <;> simp_all
    · simp at closing

/-- The message of an entry is empty only where there are no messages. -/
theorem message_eq_empty_iff (fault : Fault) :
    fault.entry.message = "" ↔ fault.entry.messages = [] := by
  have filled := messages_filled fault
  unfold Entry.message
  match shown : fault.entry.messages with
  | [] => simp
  | [message] =>
    rw [shown] at filled
    simpa [eq_comm] using filled
  | first :: next :: rest =>
    simp [String.intercalate_cons_cons]

/-- The entries of an outline are that of the line and those of the causes at its end. -/
theorem entries_eq (fault : Fault) :
    fault.outline.entries =
      fault.entry :: fault.lineCauses.flatMap fun cause => cause.outline.entries := by
  rw [outline_eq, Outline.entries, Outline.branchEntries_eq, List.flatMap_map]

/-- The entries of an outline are those of its heads. -/
theorem entries_outline (fault : Fault) : fault.outline.entries = fault.heads.map entry := by
  induction fault using outline_induction with
  | step fault inductionHypothesis =>
    rw [entries_eq, heads_eq, List.map_cons, List.map_flatMap]
    exact congrArg _ (List.flatMap_congr inductionHypothesis)

/-- Without doubly linked nodes the tags of a fault are the tags of all entries of its
outline. -/
theorem tags_eq_entries (fault : Fault) (single : fault.SingleLinked) :
    fault.tags = Ordered.sort (fault.outline.entries.flatMap Entry.tags) := by
  rw [tags, toList_walk, preorder_eq_heads fault single, entries_outline, List.flatMap_assoc,
    List.flatMap_map]
  apply Tag.sort_congr
  apply List.Perm.flatMap_left
  intro head _
  exact (Ordered.sort_perm (head.line.flatMap ownTags)).symm

end Fault

end CauseTree
