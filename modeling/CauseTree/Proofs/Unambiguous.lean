import CauseTree.Proofs.Outlines

/-!
# Tree renderings are unambiguous

Without stack traces, and where no content breaks a line, an entry is one line: its
message or the placeholder, and the summary after it. The tree of these lines is the sketch
of an outline. A rendering is the lines of the sketch behind connectors, and contents may
look like connectors themselves.

The sketch can be read back all the same, as long as all connectors have the same length
and those before the first line of a cause are not among those before its further lines.
Then a line of a list of causes starts the next cause exactly where it does not start with a
continuation. So the lines of the first cause end in a place that the lines determine,
and the connector comes off each of them by its length. That the first cause is also the
last one is seen from there being no lines after it, so the two branches need not differ.
-/

namespace CauseTree

namespace Style

/-- The connectors before the first line of a cause. -/
def branches (style : Style) : List String := [style.branch, style.lastBranch]

/-- The connectors before the further lines of a cause. -/
def continuations (style : Style) : List String := [style.continuation, style.lastContinuation]

/-- The connectors are all of one length, none of them breaks a line, and no branch is a
continuation. In particular none of them is empty. -/
structure Separable (style : Style) : Prop where
  level : ∀ connector ∈ style.branches ++ style.continuations,
    connector.length = style.branch.length
  unbroken : ∀ connector ∈ style.branches ++ style.continuations, '\n' ∉ connector.toList
  distinct : ∀ connector ∈ style.branches, connector ∉ style.continuations

instance (style : Style) : Decidable style.Separable :=
  decidable_of_iff
    ((∀ connector ∈ style.branches ++ style.continuations,
        connector.length = style.branch.length) ∧
      (∀ connector ∈ style.branches ++ style.continuations, '\n' ∉ connector.toList) ∧
      ∀ connector ∈ style.branches, connector ∉ style.continuations)
    ⟨fun ⟨level, unbroken, distinct⟩ => ⟨level, unbroken, distinct⟩,
      fun ⟨level, unbroken, distinct⟩ => ⟨level, unbroken, distinct⟩⟩

/-- The line starts with a continuation. -/
def Continues (style : Style) (row : String) : Prop :=
  ∃ connector ∈ style.continuations, ∃ text, row = connector ++ text

/-- The connector on the first line of an entry is a branch. -/
theorem branchAt_mem (style : Style) (place : Place) : style.branchAt place ∈ style.branches := by
  unfold branchAt branches
  split <;> simp

/-- The connector on the further lines of an entry is a continuation. -/
theorem continuationAt_mem (style : Style) (place : Place) :
    style.continuationAt place ∈ style.continuations := by
  unfold continuationAt continuations
  split <;> simp

namespace Separable

variable {style : Style} {connector other : String}

/-- A line determines its connector and the text behind it. -/
theorem append_inj (separable : style.Separable)
    (member : connector ∈ style.branches ++ style.continuations)
    (otherMember : other ∈ style.branches ++ style.continuations) {text further : String}
    (same : connector ++ text = other ++ further) : connector = other ∧ text = further := by
  have length : connector.toList.length = other.toList.length := by
    rw [String.length_toList, String.length_toList, separable.level connector member,
      separable.level other otherMember]
  have lists : connector.toList ++ text.toList = other.toList ++ further.toList := by
    rw [← String.toList_append, same, String.toList_append]
  obtain ⟨connectors, texts⟩ := List.append_inj lists length
  exact ⟨String.toList_injective connectors, String.toList_injective texts⟩

/-- A line behind a branch does not start with a continuation. -/
theorem not_continues (separable : style.Separable) (branch : connector ∈ style.branches)
    (text : String) : ¬style.Continues (connector ++ text) := by
  rintro ⟨continuation, listed, further, same⟩
  have connectors := separable.append_inj (List.mem_append_left _ branch)
    (List.mem_append_right _ listed) same
  exact separable.distinct connector branch (connectors.1 ▸ listed)

end Separable

/-- Lines that start with a continuation end where the first line comes that does not. -/
theorem continued_inj {style : Style} {before after otherBefore otherAfter : List String}
    (same : before ++ after = otherBefore ++ otherAfter)
    (continued : ∀ row ∈ before, style.Continues row)
    (otherContinued : ∀ row ∈ otherBefore, style.Continues row)
    (started : ∀ row ∈ after.head?, ¬style.Continues row)
    (otherStarted : ∀ row ∈ otherAfter.head?, ¬style.Continues row) :
    before = otherBefore ∧ after = otherAfter := by
  rcases List.append_eq_append_iff.mp same with ⟨between, longer, rfl⟩ | ⟨between, longer, rfl⟩
  · cases between with
    | nil => simp [longer]
    | cons row rest =>
      exact absurd (otherContinued row (by simp [longer])) (started row (by simp))
  · cases between with
    | nil => simp [longer]
    | cons row rest =>
      exact absurd (continued row (by simp [longer])) (otherStarted row (by simp))

end Style

namespace Outline

/-- Lines behind connectors determine the lines. -/
theorem behind_injective (first other : String) {lines further : List String}
    (same : behind first other lines = behind first other further) : lines = further := by
  have cancel (connector : String) : Function.Injective (connector ++ ·) := fun text next equal =>
    String.append_right_inj connector |>.mp equal
  match lines, further with
  | [], [] => rfl
  | line :: rest, next :: later =>
    obtain ⟨head, tail⟩ := List.cons.inj same
    rw [cancel first head, List.map_injective_iff.mpr (cancel other) tail]

/-- Behind connectors without line feeds, lines without line feeds have none. -/
theorem feed_not_mem_behind {first other : String} {lines : List String}
    (before : '\n' ∉ first.toList) (further : '\n' ∉ other.toList)
    (clean : ∀ line ∈ lines, '\n' ∉ line.toList) :
    ∀ row ∈ behind first other lines, '\n' ∉ row.toList := by
  cases lines with
  | nil => simp [behind]
  | cons line rest =>
    obtain ⟨top, below⟩ := List.forall_mem_cons.mp clean
    simpa [behind] using ⟨⟨before, top⟩, fun row member => ⟨further, below row member⟩⟩

end Outline

/-- The text of each entry of an outline, in a tree. -/
structure Sketch where
  content : String
  branches : List Sketch

namespace Sketch

mutual

/-- The lines of a sketch. -/
def rows (style : Style) : Sketch → List String
  | ⟨content, branches⟩ => content :: branchRows style branches

/-- The lines of the branches of a sketch, each behind its connectors. -/
def branchRows (style : Style) : List Sketch → List String
  | [] => []
  | branch :: rest =>
    Outline.behind (style.branchAt ⟨0, rest.length + 1, true⟩)
      (style.continuationAt ⟨0, rest.length + 1, true⟩) (rows style branch) ++
        branchRows style rest

end

/-- Branches start with a line behind a branch connector. -/
theorem branchRows_started {style : Style} (separable : style.Separable) (branches : List Sketch) :
    ∀ row ∈ (branchRows style branches).head?, ¬style.Continues row := by
  match branches with
  | [] => simp [branchRows]
  | ⟨content, inner⟩ :: rest =>
    intro row first
    simp only [branchRows, rows, Outline.behind, List.cons_append, List.head?_cons,
      Option.mem_some_iff] at first
    rw [← first]
    exact separable.not_continues (style.branchAt_mem _) content

/-- Where the lines of branches are the same, those of the first branch are, together with
its connectors, and so are those of the branches after it. -/
theorem branchRows_cons_inj {style : Style} (separable : style.Separable) {branch other : Sketch}
    {rest others : List Sketch}
    (same : branchRows style (branch :: rest) = branchRows style (other :: others)) :
    Outline.behind (style.branchAt ⟨0, rest.length + 1, true⟩)
        (style.continuationAt ⟨0, rest.length + 1, true⟩) (branch.rows style) =
      Outline.behind (style.branchAt ⟨0, others.length + 1, true⟩)
        (style.continuationAt ⟨0, others.length + 1, true⟩) (other.rows style) ∧
    branchRows style rest = branchRows style others := by
  obtain ⟨content, inner⟩ := branch
  obtain ⟨otherContent, otherInner⟩ := other
  simp only [branchRows, rows, Outline.behind, List.cons_append, List.cons.injEq] at same ⊢
  obtain ⟨head, tail⟩ := same
  have continued (place : Place) (lines : List String) :
      ∀ row ∈ lines.map (style.continuationAt place ++ ·), style.Continues row := by
    intro row member
    obtain ⟨line, _, rfl⟩ := List.mem_map.mp member
    exact ⟨_, style.continuationAt_mem place, line, rfl⟩
  obtain ⟨below, after⟩ := Style.continued_inj tail (continued _ _) (continued _ _)
    (branchRows_started separable rest) (branchRows_started separable others)
  exact ⟨⟨head, below⟩, after⟩

mutual

/-- The lines of a sketch determine the sketch. -/
theorem eq_of_rows {style : Style} (separable : style.Separable) : (sketch other : Sketch) →
    sketch.rows style = other.rows style → sketch = other
  | ⟨content, branches⟩, ⟨otherContent, otherBranches⟩, same => by
    rw [rows, rows] at same
    obtain ⟨rfl, below⟩ := List.cons.inj same
    rw [eq_of_branchRows separable branches otherBranches below]

/-- The lines of branches determine the branches. The connectors of the first branch are
known only once the branches after it are. -/
theorem eq_of_branchRows {style : Style} (separable : style.Separable) :
    (branches others : List Sketch) →
    branchRows style branches = branchRows style others → branches = others
  | [], [], _ => rfl
  | [], ⟨content, inner⟩ :: rest, same => by
    simp [branchRows, rows, Outline.behind] at same
  | ⟨content, inner⟩ :: rest, [], same => by
    simp [branchRows, rows, Outline.behind] at same
  | branch :: rest, other :: others, same => by
    obtain ⟨first, after⟩ := branchRows_cons_inj separable same
    obtain rfl := eq_of_branchRows separable rest others after
    rw [eq_of_rows separable branch other (Outline.behind_injective _ _ first)]

end

end Sketch

/-- The text that a tree rendering writes for an entry: the message, or the placeholder where
there is none, and the summary. -/
def Entry.content (style : Style) (entry : Entry) : String :=
  (if entry.messages.isEmpty then style.placeholder else entry.message) ++ entry.summary

/-- An entry whose content breaks no line is one line. -/
theorem Entry.rows_unbroken {style : Style} (tree : style.detail = .tree) {entry : Entry}
    (unbroken : '\n' ∉ (entry.content style).toList) :
    entry.rows style = [entry.content style] := by
  rw [content, String.toList_append, List.mem_append, not_or] at unbroken
  have lines : entry.messageLines style =
      [if entry.messages.isEmpty then style.placeholder else entry.message] := by
    rw [messageLines, List.splitOn_eq_singleton unbroken.1, List.map_singleton,
      String.ofList_toList]
  simp [rows, lines, withSummary, content, tree]

namespace Outline

mutual

/-- The contents of the entries of an outline, in a tree. -/
def sketch (style : Style) : Outline → Sketch
  | ⟨entry, branches⟩ => ⟨entry.content style, sketches style branches⟩

/-- The sketches of several outlines, in order. -/
def sketches (style : Style) : List Outline → List Sketch
  | [] => []
  | branch :: rest => branch.sketch style :: sketches style rest

end

/-- No content breaks a line. -/
def Unbroken (style : Style) (outline : Outline) : Prop :=
  ∀ entry ∈ outline.entries, '\n' ∉ (entry.content style).toList

instance (style : Style) (outline : Outline) : Decidable (outline.Unbroken style) :=
  inferInstanceAs (Decidable (∀ entry ∈ outline.entries, '\n' ∉ (entry.content style).toList))

/-- There are as many sketches as outlines. -/
theorem length_sketches (style : Style) (branches : List Outline) :
    (sketches style branches).length = branches.length := by
  induction branches with
  | nil => rfl
  | cons branch rest inductionHypothesis => simp [sketches, inductionHypothesis]

/-- Of an outline without broken lines the entry is unbroken, and so are the branches. -/
theorem Unbroken.branches {style : Style} {entry : Entry} {branches : List Outline}
    (unbroken : Unbroken style ⟨entry, branches⟩) :
    '\n' ∉ (entry.content style).toList ∧ ∀ branch ∈ branches, branch.Unbroken style := by
  unfold Unbroken at unbroken
  rw [entries, branchEntries_eq, List.forall_mem_cons, List.forall_mem_flatMap] at unbroken
  exact unbroken

mutual

/-- Without broken lines the lines of an outline are those of its sketch. -/
theorem rows_sketch {style : Style} (tree : style.detail = .tree) : (outline : Outline) →
    outline.Unbroken style → outline.rows style = (outline.sketch style).rows style
  | ⟨entry, branches⟩, unbroken => by
    obtain ⟨own, below⟩ := unbroken.branches
    rw [rows, sketch, Sketch.rows, Entry.rows_unbroken tree own,
      branchRows_sketches tree branches below, List.singleton_append]

/-- Without broken lines the lines of branches are those of their sketches. -/
theorem branchRows_sketches {style : Style} (tree : style.detail = .tree) :
    (branches : List Outline) → (∀ branch ∈ branches, branch.Unbroken style) →
    branchRows style branches = Sketch.branchRows style (sketches style branches)
  | [], _ => rfl
  | branch :: rest, unbroken => by
    obtain ⟨first, later⟩ := List.forall_mem_cons.mp unbroken
    rw [branchRows_cons style 0 (rest.length + 1) branch rest (Nat.zero_add _), sketches,
      Sketch.branchRows, length_sketches, rows_sketch tree branch first,
      branchRows_sketches tree rest later]

end

mutual

/-- Without broken lines and connectors, no line of an outline has a line feed. -/
theorem feed_not_mem_rows {style : Style} (tree : style.detail = .tree)
    (separable : style.Separable) : (outline : Outline) → outline.Unbroken style →
    ∀ row ∈ outline.rows style, '\n' ∉ row.toList
  | ⟨entry, branches⟩, unbroken => by
    obtain ⟨own, below⟩ := unbroken.branches
    rw [rows, Entry.rows_unbroken tree own, List.singleton_append]
    exact List.forall_mem_cons.mpr ⟨own, feed_not_mem_branchRows tree separable branches below⟩

/-- Without broken lines and connectors, no line of branches has a line feed. -/
theorem feed_not_mem_branchRows {style : Style} (tree : style.detail = .tree)
    (separable : style.Separable) : (branches : List Outline) →
    (∀ branch ∈ branches, branch.Unbroken style) →
    ∀ row ∈ branchRows style branches, '\n' ∉ row.toList
  | [], _ => by simp [branchRows]
  | branch :: rest, unbroken => by
    obtain ⟨first, later⟩ := List.forall_mem_cons.mp unbroken
    rw [branchRows_cons style 0 (rest.length + 1) branch rest (Nat.zero_add _)]
    have before (place : Place) : '\n' ∉ (style.branchAt place).toList :=
      separable.unbroken _ (List.mem_append_left _ (style.branchAt_mem place))
    have further (place : Place) : '\n' ∉ (style.continuationAt place).toList :=
      separable.unbroken _ (List.mem_append_right _ (style.continuationAt_mem place))
    have here := feed_not_mem_rows tree separable branch first
    exact List.forall_mem_append.mpr ⟨feed_not_mem_behind (before _) (further _) here,
      feed_not_mem_branchRows tree separable rest later⟩

end

end Outline

end CauseTree
