import CauseTree.Outline.Layout
import CauseTree.Proofs.Lines

/-!
# The writer lays an outline out

The writer changes one connector at a time, so what it writes depends on the connectors
that it is left with. Two facts about every step of the writer are carried through all
of it: which text the step adds, and that no connector but the innermost one is changed.
The second fact fixes the margin of every later line, because each line sets the
innermost connector anew before it is written: to the branch on the first line of an
entry, and to the continuation on all others.

With margins fixed, what the writer adds for an outline is the layout of the outline
behind the margins of its place. Below an entry the margin is the continuation of the
entry, whatever the branches above have done to their own connectors.

The lines of an entry itself are the lines of its message, the last one with the type names
and the tags behind it, and then those of its stack traces.
-/

namespace CauseTree

namespace Text

/-- Lines, each after a line feed. -/
def feeds (rows : List String) : String := String.join (rows.map ("\n" ++ ·))

/-- Without lines there is nothing. -/
@[simp]
theorem feeds_nil : feeds [] = "" := by simp [feeds]

/-- The first line stands after its line feed and before the others. -/
theorem feeds_cons (row : String) (rest : List String) :
    feeds (row :: rest) = "\n" ++ row ++ feeds rest := by
  simp [feeds]

/-- Two lists of lines stand one after the other. -/
theorem feeds_append (before after : List String) :
    feeds (before ++ after) = feeds before ++ feeds after := by
  simp [feeds]

/-- Joined lines are the first line and then the others after their line feeds. -/
theorem intercalate_cons (row : String) (rest : List String) :
    "\n".intercalate (row :: rest) = row ++ feeds rest := by
  induction rest generalizing row with
  | nil => simp
  | cons next rest inductionHypothesis =>
    rw [String.intercalate_cons_cons, inductionHypothesis, feeds_cons]
    simp only [String.append_assoc]

/-- No line of a text holds a line feed. -/
theorem feed_not_mem_line {text line : List Char} (member : line ∈ text.splitOn '\n') :
    '\n' ∉ line := by
  induction text generalizing line with
  | nil =>
    obtain rfl : line = [] := by simpa using member
    exact List.not_mem_nil
  | cons c rest inductionHypothesis =>
    rw [List.splitOn_cons_eq_if_modifyHead] at member
    split at member
    · rcases List.mem_cons.mp member with rfl | later
      · exact List.not_mem_nil
      · exact inductionHypothesis later
    · next other =>
      cases lines : rest.splitOn '\n' with
      | nil => exact absurd lines (List.splitOn_ne_nil _ _)
      | cons first later =>
        rw [lines] at member inductionHypothesis
        rcases List.mem_cons.mp member with rfl | further
        · have clean := inductionHypothesis List.mem_cons_self
          have different : '\n' ≠ c := fun same => other (beq_iff_eq.mpr same.symm)
          exact List.not_mem_cons_of_ne_of_not_mem different clean
        · exact inductionHypothesis (List.mem_cons_of_mem _ further)

/-- The lines of a text give the text back. -/
theorem intercalate_lines (text : String) :
    "\n".intercalate ((text.toList.splitOn '\n').map String.ofList) = text := by
  apply String.toList_injective
  rw [String.toList_intercalate, List.map_map]
  have lines : String.toList ∘ String.ofList = id := funext fun line => String.toList_ofList
  rw [lines, List.map_id]
  exact List.intercalate_splitOn '\n'

end Text

/-- Lines after a first line stand behind the second of two connectors throughout. -/
theorem Outline.intercalate_behind (first other : String) (lines further : List String)
    (filled : lines ≠ []) :
    "\n".intercalate (behind first other (lines ++ further)) =
      "\n".intercalate (behind first other lines) ++ Text.feeds (further.map (other ++ ·)) := by
  match lines, filled with
  | line :: rest, _ =>
    simp only [behind, List.cons_append, List.map_append, Text.intercalate_cons,
      Text.feeds_append, String.append_assoc]

/-- What is written before an entry: a line feed, unless the entry starts the text. -/
def Place.opening (place : Place) : String := if place.onNewLine then "\n" else ""

namespace Writer

open Text

/-- Connectors as they stand on a line, outermost first. -/
def margin (connectors : List String) : String := String.join connectors.reverse

/-- The margin of a line whose innermost connector is the given one. -/
def marginAt (writer : Writer) (connector : String) : String :=
  margin (writer.connect connector).connectors

/-- The later writer has added a piece and has changed at most the innermost connector. -/
structure Adds (writer : Writer) (piece : String) (later : Writer) : Prop where
  text : later.text = writer.text ++ piece
  connectors : ∀ connector,
    (later.connect connector).connectors = (writer.connect connector).connectors

/-- Indenting writes the margin. -/
theorem indent_eq (writer : Writer) : writer.indent = writer.write (margin writer.connectors) := by
  have folded : ∀ (pieces : List String) (writer : Writer),
      pieces.foldl write writer = writer.write (String.join pieces) := by
    intro pieces
    induction pieces with
    | nil => simp [write]
    | cons piece rest inductionHypothesis =>
      intro writer
      rw [List.foldl_cons, inductionHypothesis]
      simp [write, String.append_assoc]
  exact folded writer.connectors.reverse writer

/-- Of two connectors set one after the other the last one counts. -/
theorem connect_connect (writer : Writer) (first last : String) :
    (writer.connect first).connect last = writer.connect last := by
  obtain ⟨text, connectors⟩ := writer
  cases connectors <;> rfl

/-- Setting a connector writes nothing. -/
theorem connect_text (writer : Writer) (connector : String) :
    (writer.connect connector).text = writer.text := by
  obtain ⟨text, connectors⟩ := writer
  cases connectors <;> rfl

namespace Adds

variable {writer later last : Writer} {piece further : String}

/-- Steps one after another add their pieces one after another. -/
theorem trans (first : Adds writer piece later) (second : Adds later further last) :
    Adds writer (piece ++ further) last where
  text := by rw [second.text, first.text, String.append_assoc]
  connectors connector := (second.connectors connector).trans (first.connectors connector)

/-- A step leaves the margin of every later line as it was. -/
theorem margin (step : Adds writer piece later) (connector : String) :
    later.marginAt connector = writer.marginAt connector :=
  congrArg Writer.margin (step.connectors connector)

end Adds

/-- Writing a piece adds it. -/
theorem write_adds (writer : Writer) (piece : String) : Adds writer piece (writer.write piece) where
  text := rfl
  connectors connector := by
    obtain ⟨text, connectors⟩ := writer
    cases connectors <;> rfl

/-- Setting the innermost connector adds nothing. -/
theorem connect_adds (writer : Writer) (connector : String) :
    Adds writer "" (writer.connect connector) where
  text := by simp [connect_text]
  connectors further := by rw [connect_connect]

/-- A piece on the current line adds the margin of the line and the piece. -/
theorem line_adds (writer : Writer) (connector piece : String) :
    Adds writer (writer.marginAt connector ++ piece)
      ((writer.connect connector).indent.write piece) := by
  rw [indent_eq]
  have started : Adds writer ("" ++ writer.marginAt connector)
      ((writer.connect connector).write (writer.marginAt connector)) :=
    (connect_adds writer connector).trans (write_adds _ _)
  rw [String.empty_append] at started
  exact started.trans (write_adds _ piece)

/-- A new line adds a line feed and sets the continuation. -/
theorem newLine_adds (style : Style) (place : Place) (writer : Writer) :
    Adds writer "\n" (writer.newLine style place) := by
  have fed : Adds writer ("\n" ++ "") (writer.newLine style place) :=
    (write_adds writer "\n").trans (connect_adds _ (style.continuationAt place))
  rwa [String.append_empty] at fed

/-- Pieces on new lines of an entry stand behind the margin of its further lines. -/
theorem continueWith_adds (style : Style) (place : Place) (pieces : List String)
    (writer : Writer) :
    Adds writer (feeds (pieces.map (writer.marginAt (style.continuationAt place) ++ ·)))
      (writer.continueWith style place pieces) := by
  induction pieces generalizing writer with
  | nil => exact ⟨by simp [continueWith], fun connector => rfl⟩
  | cons piece rest inductionHypothesis =>
    have fed := write_adds writer "\n"
    have line := line_adds (writer.write "\n") (style.continuationAt place) piece
    have both := fed.trans line
    have step := both.trans (inductionHypothesis _)
    rw [both.margin, fed.margin] at step
    simpa [feeds_cons, continueWith, newLine, String.append_assoc] using step

/-- Writers with the same connectors have the same ones after setting the innermost. -/
theorem connect_congr {writer other : Writer} (same : writer.connectors = other.connectors)
    (connector : String) :
    (writer.connect connector).connectors = (other.connect connector).connectors := by
  obtain ⟨text, connectors⟩ := writer
  obtain ⟨otherText, otherConnectors⟩ := other
  cases same
  cases connectors <;> rfl

/-- Below an entered level, what is added keeps the levels further out. -/
theorem Adds.inside {writer later : Writer} {piece innermost : String} {outer : List String}
    (step : Adds writer piece later) (entered : writer.connectors = innermost :: outer) :
    ∃ changed, later.connectors = changed :: outer := by
  have kept := step.connectors innermost
  have opened : (writer.connect innermost).connectors = innermost :: outer := by
    simp [connect, entered]
  rw [opened] at kept
  cases connectors : later.connectors with
  | nil => simp [connect, connectors] at kept
  | cons changed further =>
    have same : innermost :: further = innermost :: outer := by
      simpa [connect, connectors] using kept
    exact ⟨changed, by rw [List.cons.inj same |>.2]⟩

/-- What is added inside a level is added, once the level is left, outside of it. -/
theorem leave_adds {style : Style} {place : Place} {writer later : Writer} {piece : String}
    (inner : Adds (writer.enter style place) piece later) : Adds writer piece later.leave where
  text := by
    show later.text = writer.text ++ piece
    rw [inner.text]
    exact congrArg (· ++ piece) (connect_text writer _)
  connectors connector := by
    obtain ⟨changed, left⟩ := inner.inside rfl
    have outside : later.leave.connectors =
        (writer.connect (style.continuationAt place)).connectors := by
      simp [leave, left]
    rw [connect_congr outside, connect_connect]

/-- At a level, the margin ends with the connector of the level. -/
theorem marginAt_eq {writer : Writer} {innermost : String} {outer : List String}
    (entered : writer.connectors = innermost :: outer) (connector : String) :
    writer.marginAt connector = margin outer ++ connector := by
  simp [marginAt, margin, connect, entered]

/-- The lines of a message stand behind a branch first and behind continuations then. -/
theorem message_adds (style : Style) (place : Place) (lines : List String) (filled : lines ≠ [])
    (writer : Writer) :
    Adds writer
      ("\n".intercalate (Outline.behind (writer.marginAt (style.branchAt place))
        (writer.marginAt (style.continuationAt place)) lines))
      ((writer.connect (style.branchAt place)).message style place lines) := by
  match lines, filled with
  | first :: later, _ =>
    have line := line_adds writer (style.branchAt place) first
    have step := line.trans (continueWith_adds style place later _)
    rw [line.margin] at step
    rw [Outline.behind, intercalate_cons]
    exact step

end Writer

namespace Entry

open Text Writer

/-- A message always has a line. -/
theorem messageLines_ne_nil (style : Style) (entry : Entry) : entry.messageLines style ≠ [] := by
  intro empty
  exact List.splitOn_ne_nil _ _ (List.map_eq_nil_iff.mp empty)

/-- With a summary there is always a line. -/
theorem withSummary_ne_nil (summary : String) (lines : List String) :
    withSummary summary lines ≠ [] := by
  fun_cases withSummary summary lines <;> simp

/-- The summary stands behind the last line. -/
theorem withSummary_concat (summary last : String) (front : List String) :
    withSummary summary (front ++ [last]) = front ++ [last ++ summary] := by
  induction front with
  | nil => rfl
  | cons line rest inductionHypothesis =>
    cases rest with
    | nil => rfl
    | cons next rest => exact congrArg (line :: ·) inductionHypothesis

/-- The summary ends the last of the lines below the first. -/
theorem feeds_withSummary (other summary : String) (lines : List String) (filled : lines ≠ []) :
    feeds ((withSummary summary lines).map (other ++ ·)) =
      feeds (lines.map (other ++ ·)) ++ summary := by
  obtain ⟨front, last, rfl⟩ := (List.eq_nil_or_concat' lines).resolve_left filled
  rw [withSummary_concat]
  simp only [List.map_append, List.map_singleton, feeds_append, feeds_cons, feeds_nil,
    String.append_assoc, String.append_empty]

/-- The summary ends the last line of a message. -/
theorem intercalate_withSummary (first other summary : String) (lines : List String)
    (filled : lines ≠ []) :
    "\n".intercalate (Outline.behind first other (withSummary summary lines)) =
      "\n".intercalate (Outline.behind first other lines) ++ summary := by
  match lines, filled with
  | [line], _ => simp [withSummary, Outline.behind, String.append_assoc]
  | line :: next :: rest, _ =>
    simp only [withSummary, Outline.behind, intercalate_cons]
    rw [feeds_withSummary other summary (next :: rest) (List.cons_ne_nil next rest)]
    simp only [String.append_assoc]

/-- An entry always has a line. -/
theorem rows_ne_nil (style : Style) (entry : Entry) : entry.rows style ≠ [] := by
  simp [rows, withSummary_ne_nil]

/-- The lines of several stack traces, each with an empty line after it, are put together with
empty lines between them. -/
theorem traceRows_eq (traces : List StackTrace) :
    traceRows traces = [""].intercalate (traces.map fun trace => trace.rows ++ [""]) := by
  cases traces with
  | nil => rfl
  | cons first later =>
    rw [traceRows]
    induction later generalizing first with
    | nil => simp
    | cons next rest inductionHypothesis =>
      have below := inductionHypothesis next
      rw [List.map_cons] at below
      rw [List.map_cons, List.map_cons, List.intercalate_cons_cons, ← below]
      simp

/-- What the lines of an entry are. The message, or the placeholder where there is none, is
split at its line feeds. Behind its last line stand the type names and the tags, each of the
two where there are any. Stack traces follow where the style shows them and they have frames:
two lines for each frame and an empty line, and one more empty line between two traces. -/
structure WrittenAs (style : Style) (entry : Entry) (front : List String) (last : String) :
    Prop where
  unbroken : ∀ line ∈ front ++ [last], '\n' ∉ line.toList
  message : "\n".intercalate (front ++ [last]) =
    if entry.messages = [] then style.placeholder else ": ".intercalate entry.messages
  rows : entry.rows style =
    front ++
      [last ++ (if entry.types = [] then "" else " (" ++ " ".intercalate entry.types ++ ")") ++
        (if entry.tags = [] then ""
          else " [" ++ " ".intercalate (entry.tags.map Tag.text) ++ "]")] ++
      if style.detail = .traces then
        [""].intercalate ((entry.traces.filter fun trace => !trace.frames.isEmpty).map fun trace =>
          (trace.frames.flatMap fun frame => [frame.function, "\t" ++ frame.location]) ++ [""])
      else []

/-- The lines of every entry are what they are meant to be. -/
theorem exists_writtenAs (style : Style) (entry : Entry) :
    ∃ front last, entry.WrittenAs style front last := by
  have filled := messageLines_ne_nil style entry
  obtain ⟨front, last, lines⟩ :=
    (List.eq_nil_or_concat' (entry.messageLines style)).resolve_left filled
  refine ⟨front, last, ?_, ?_, ?_⟩
  · rw [← lines]
    refine List.forall_mem_map.mpr fun line member => ?_
    rw [String.toList_ofList]
    exact feed_not_mem_line member
  · rw [← lines, messageLines, intercalate_lines]
    simp only [List.isEmpty_iff, message]
  · rw [rows, lines, withSummary_concat, traceRows_eq]
    simp only [summary, List.isEmpty_iff, String.append_assoc]
    rfl

/-- The stack traces of an entry are written as the lines that the layout has for them. -/
theorem writeTraces_eq (style : Style) (place : Place) (traces : List StackTrace)
    (writer : Writer) :
    writeTraces style place traces writer =
      writer.continueWith style place (traceRows traces) := by
  cases traces with
  | nil => rfl
  | cons first later =>
    simp [writeTraces, traceRows, continueWith, List.foldl_append, List.foldl_flatMap]

/-- An entry is written as its lines, the first one behind a branch and the others behind
continuations. -/
theorem write_adds (style : Style) (place : Place) (entry : Entry) (writer : Writer) :
    Adds writer
      (place.opening ++ "\n".intercalate (Outline.behind (writer.marginAt (style.branchAt place))
        (writer.marginAt (style.continuationAt place)) (entry.rows style)))
      (entry.write style place writer) := by
  have opened : Adds writer place.opening
      (if place.onNewLine then writer.newLine style place else writer) := by
    unfold Place.opening
    split
    · exact newLine_adds style place writer
    · exact ⟨String.append_empty.symm, fun connector => rfl⟩
  have message := message_adds style place (entry.messageLines style)
    (messageLines_ne_nil style entry)
    (if place.onNewLine then writer.newLine style place else writer)
  rw [opened.margin, opened.margin] at message
  have summarized := (opened.trans message).trans (Writer.write_adds _ entry.summary)
  unfold write rows
  rw [Outline.intercalate_behind _ _ _ _ (withSummary_ne_nil _ _),
    intercalate_withSummary _ _ _ _ (messageLines_ne_nil style entry)]
  simp only [writeTraces_eq]
  split
  · have traced := summarized.trans
      (continueWith_adds style place (traceRows entry.filledTraces) _)
    rw [summarized.margin] at traced
    simpa only [String.append_assoc] using traced
  · simpa [String.append_assoc] using summarized

end Entry

namespace Outline

open Text Writer

/-- An outline always has a line. -/
theorem rows_ne_nil (style : Style) (outline : Outline) : outline.rows style ≠ [] := by
  obtain ⟨entry, branches⟩ := outline
  simp [rows, Entry.rows_ne_nil]

/-- Lines behind margins are the lines behind connectors, each after the common margin. -/
theorem feeds_behind (margin first other : String) (lines : List String) (filled : lines ≠ []) :
    "\n" ++ "\n".intercalate (behind (margin ++ first) (margin ++ other) lines) =
      feeds ((behind first other lines).map (margin ++ ·)) := by
  match lines, filled with
  | line :: rest, _ =>
    simp only [behind, intercalate_cons, List.map_cons, List.map_map, feeds_cons]
    simp [Function.comp_def, String.append_assoc]

/-- The layout puts the branch at a place behind the connectors of the place. -/
theorem branchRows_cons (style : Style) (index count : Nat) (branch : Outline)
    (rest : List Outline) (counted : index + (branch :: rest).length = count) :
    branchRows style (branch :: rest) =
      behind (style.branchAt ⟨index, count, true⟩) (style.continuationAt ⟨index, count, true⟩)
        (branch.rows style) ++ branchRows style rest := by
  cases rest with
  | nil =>
    have last : Place.isLast ⟨index, count, true⟩ = true := by
      simp only [List.length_cons, List.length_nil] at counted
      simp [Place.isLast]
      omega
    simp [branchRows, Style.branchAt, Style.continuationAt, last]
  | cons next rest =>
    have notLast : Place.isLast ⟨index, count, true⟩ = false := by
      simp only [List.length_cons] at counted
      simp [Place.isLast]
      omega
    simp [branchRows, Style.branchAt, Style.continuationAt, notLast]

mutual

/-- An outline is written as its layout behind the margins of its place. -/
theorem write_adds (style : Style) (place : Place) : (outline : Outline) → (writer : Writer) →
    Adds writer
      (place.opening ++ "\n".intercalate (behind (writer.marginAt (style.branchAt place))
        (writer.marginAt (style.continuationAt place)) (outline.rows style)))
      (outline.write style place writer)
  | ⟨entry, branches⟩, writer => by
    have head := Entry.write_adds style place entry writer
    have inside := writeBranches_adds style 0 branches.length branches (Nat.zero_add _)
      ((entry.write style place writer).enter style place) "" _ rfl
    have whole := head.trans (leave_adds inside)
    have margin : Writer.margin ((entry.write style place writer).connect
        (style.continuationAt place)).connectors =
          writer.marginAt (style.continuationAt place) := head.margin _
    rw [margin, String.append_assoc,
      ← intercalate_behind _ _ _ _ (Entry.rows_ne_nil style entry)] at whole
    exact whole

/-- Branches are written as their layouts, one after another, behind the margin of the
entry above them. -/
theorem writeBranches_adds (style : Style) (index count : Nat) : (branches : List Outline) →
    index + branches.length = count → (writer : Writer) → (innermost : String) →
    (outer : List String) → writer.connectors = innermost :: outer →
    Adds writer (feeds ((branchRows style branches).map (margin outer ++ ·)))
      (writeBranches style index count branches writer)
  | [], _, writer, _, _, _ => by
    exact ⟨by simp [branchRows, writeBranches], fun connector => rfl⟩
  | branch :: rest, counted, writer, innermost, outer, entered => by
    have first := write_adds style ⟨index, count, true⟩ branch writer
    obtain ⟨changed, kept⟩ := first.inside entered
    have later := writeBranches_adds style (index + 1) count rest
      (by rw [← counted, List.length_cons]; omega) _ changed outer kept
    have both := first.trans later
    rw [marginAt_eq entered, marginAt_eq entered, Place.opening, if_pos rfl,
      feeds_behind _ _ _ _ (rows_ne_nil style branch), ← feeds_append, ← List.map_append,
      ← branchRows_cons style index count branch rest counted] at both
    exact both

end

/-- Empty connectors leave the lines as they are. -/
theorem behind_empty (lines : List String) : behind "" "" lines = lines := by
  cases lines <;> simp [behind]

/-- The text of an outline is its layout. -/
theorem render_eq (style : Style) (outline : Outline) :
    outline.render style = outline.layout style := by
  have written := (write_adds style .root outline ⟨"", []⟩).text
  have outermost (connector : String) : Writer.marginAt ⟨"", []⟩ connector = "" := rfl
  have unopened : Place.root.opening = "" := rfl
  rw [outermost, outermost, behind_empty, unopened, String.empty_append, String.empty_append]
    at written
  exact written

end Outline

/-- A rendering as an outline is the layout of the fault's outline. -/
theorem Fault.render_eq (style : Style) (fault : Fault)
    (drawn : style.detail = .tree ∨ style.detail = .traces) :
    fault.render style = fault.outline.layout style := by
  rcases drawn with tree | traces
  · simp only [render, tree, Outline.render_eq]
  · simp only [render, traces, Outline.render_eq]

/-- The single-pass writer and the recursive layout agree on every fault and every choice
of connectors. The layout of a fault is the lines of its entry and then, for each of the
causes at the end of its line, the lines of that cause behind connectors. -/
theorem Fault.render_layout (style : Style) (fault : Fault)
    (drawn : style.detail = .tree ∨ style.detail = .traces) :
    fault.render style = "\n".intercalate (fault.outline.rows style) ∧
      fault.outline.rows style =
        fault.entry.rows style ++ Outline.branchRows style (fault.lineCauses.map outline) ∧
      ∃ front last, fault.entry.WrittenAs style front last := by
  refine ⟨fault.render_eq style drawn, ?_, Entry.exists_writtenAs style fault.entry⟩
  rw [outline_eq, Outline.rows]

/-- A fault of a message with two lines, with a type name, a tag and a stack trace. -/
def slowHost : Fault :=
  .wrapped (.serial 2) (.tags [⟨"host", "db"⟩])
    (.wrapped (.serial 1) (.types ["Slow", "Timeout"])
      (.base (.serial 0) "slow\nhost" (.ofFrames [⟨"dial", none, none⟩])))

/-- Behind the connectors of a cause that is not the last, the type names and the tag stand on
the second line of its message, and its stack trace stands below that line. -/
theorem Fault.render_two_causes :
    (Style.verbose.detail = .tree ∨ Style.verbose.detail = .traces) ∧
      (joined (.serial 3) [slowHost, todo]).render .verbose =
        ".\n├── slow\n│   host (Slow Timeout) [host:\"db\"]\n│   dial\n│   \t<unknown>\n│   \n" ++
          "└── TODO" ∧
      ∃ front last, slowHost.entry.WrittenAs .verbose front last ∧
        "\n".intercalate (front ++ [last]) = "slow\nhost" := by
  obtain ⟨written, _⟩ := render_layout .verbose (joined (.serial 3) [slowHost, todo]) (.inr rfl)
  obtain ⟨_, _, front, last, own⟩ := render_layout .verbose slowHost (.inr rfl)
  exact ⟨.inr rfl, written.trans (by decide +kernel), front, last, own, own.message⟩

end CauseTree
