import CauseTree.Proofs.Layout
import CauseTree.Proofs.Vanishing

/-!
# Stack traces in snapshots and renderings

A snapshot keeps the stack traces of a line as one list of entries, with an empty entry
between two traces. An entry has a colon behind its location and is never empty itself, and
traces without frames leave nothing, so what stands between the empty entries are the traces
that have frames, one by one. No empty entry stands at an end or beside another one, which
would separate a trace that is not there.

A rendering with stack traces goes through the same traces in the same order. It writes two
lines for each frame below the line of the fault and an empty line after each trace, with one
more empty line between two traces.
-/

namespace CauseTree

/-- The entry of a frame has a colon and is therefore not empty. -/
theorem Frame.entry_ne_empty (frame : Frame) : frame.entry ≠ "" := by
  simp [entry]

namespace StackTrace

/-- No entry of a stack trace is empty. -/
theorem empty_not_mem_entries (trace : StackTrace) : "" ∉ trace.entries := by
  intro member
  obtain ⟨frame, _, empty⟩ := List.mem_map.mp member
  exact frame.entry_ne_empty empty

/-- A stack trace with frames has entries. -/
theorem entries_ne_nil {trace : StackTrace} (filled : trace.isEmpty = false) :
    trace.entries ≠ [] := by
  simpa [entries, isEmpty] using filled

end StackTrace

namespace Snapshot

/-- The groups of entries that stand between empty ones. Without entries there is no group. -/
def groups (entries : List String) : List (List String) :=
  if entries.isEmpty then [] else entries.splitOn ""

/-- No empty entry stands at an end or beside another one. -/
structure Spaced (entries : List String) : Prop where
  start : entries.head? ≠ some ""
  ending : entries.getLast? ≠ some ""
  apart : ¬ ["", ""] <:+: entries

/-- Entries none of which is empty. -/
theorem spaced_of_not_mem {entries : List String} (blankless : "" ∉ entries) : Spaced entries where
  start first := blankless (List.mem_of_mem_head? first)
  ending last := blankless (List.mem_of_getLast? last)
  apart inside := blankless (inside.subset List.mem_cons_self)

/-- One empty entry between entries that are not empty and further entries. -/
theorem Spaced.after {entries further : List String} (later : Spaced further)
    (blankless : "" ∉ entries) (filled : entries ≠ []) (present : further ≠ []) :
    Spaced (entries ++ "" :: further) where
  start := by
    rw [List.head?_append_of_ne_nil _ filled]
    exact (spaced_of_not_mem blankless).start
  ending := by
    rw [List.getLast?_append_of_ne_nil _ (List.cons_ne_nil _ _),
      List.getLast?_cons_of_ne_nil present]
    exact later.ending
  apart := by
    rintro ⟨before, after, split⟩
    rw [List.append_assoc] at split
    -- the two would start among the first entries, at the separator, or among the others
    rcases List.append_eq_append_iff.mp split with ⟨middle, rfl, rest⟩ | ⟨middle, rfl, rest⟩
    · cases middle with
      | nil =>
        obtain rfl : "" :: after = further := by simpa using rest
        exact later.start rfl
      | cons entry middle =>
        obtain ⟨rfl, _⟩ : "" = entry ∧ _ := by simpa using rest
        simp at blankless
    · cases middle with
      | nil =>
        obtain rfl : further = "" :: after := by simpa using rest
        exact later.start rfl
      | cons entry middle =>
        obtain ⟨_, rfl⟩ : entry = "" ∧ middle ++ "" :: "" :: after = further := by
          simpa [eq_comm] using rest
        exact later.apart ⟨middle, after, by simp⟩

/-- The entries of several stack traces are put together with empty entries between them. -/
theorem stackEntries_eq (traces : List StackTrace) :
    stackEntries traces = [""].intercalate (traces.map StackTrace.entries) := by
  fun_induction stackEntries traces with
  | case1 => rfl
  | case2 trace => simp
  | case3 trace next rest inductionHypothesis =>
    rw [inductionHypothesis]
    simp [List.intercalate_cons_cons]

section Filled

variable {traces : List StackTrace} (filled : ∀ trace ∈ traces, trace.isEmpty = false)
include filled

/-- The groups of entries are the entries of the stack traces. -/
theorem groups_stackEntries : groups (stackEntries traces) = traces.map StackTrace.entries := by
  have blankless : ∀ entries ∈ traces.map StackTrace.entries, "" ∉ entries := by
    intro entries member
    obtain ⟨trace, _, rfl⟩ := List.mem_map.mp member
    exact trace.empty_not_mem_entries
  cases traces with
  | nil => rfl
  | cons trace rest =>
    have present : (stackEntries (trace :: rest)).isEmpty = false := by
      rw [List.isEmpty_eq_false_iff, Ne, stackEntries_eq_nil_iff filled]
      exact List.cons_ne_nil trace rest
    rw [groups, present, stackEntries_eq]
    exact List.splitOn_intercalate "" blankless (by simp)

/-- Empty entries stand only between the entries of two stack traces. -/
theorem spaced_stackEntries : Spaced (stackEntries traces) := by
  fun_induction stackEntries traces with
  | case1 => exact spaced_of_not_mem List.not_mem_nil
  | case2 trace => exact spaced_of_not_mem trace.empty_not_mem_entries
  | case3 trace next rest inductionHypothesis =>
    obtain ⟨here, later⟩ := List.forall_mem_cons.mp filled
    refine (inductionHypothesis later).after trace.empty_not_mem_entries
      (StackTrace.entries_ne_nil here) ?_
    rw [Ne, stackEntries_eq_nil_iff later]
    exact List.cons_ne_nil next rest

end Filled

end Snapshot

namespace Fault

/-- The stack traces on the line of a fault that have frames, the outermost first. -/
def lineTraces (fault : Fault) : List StackTrace :=
  (fault.line.filterMap stack?).filter fun trace => !trace.isEmpty

/-- A line with stack traces is written as one without them, and the traces are written below. -/
theorem rows_traces (style : Style) (fault : Fault) :
    fault.entry.rows (style.showing .traces) =
      fault.entry.rows (style.showing .tree) ++ Entry.traceRows fault.lineTraces := by
  simp only [Entry.rows, Style.showing, if_true, reduceCtorEq, if_false, List.append_nil]
  rfl

/-- A snapshot keeps every stack trace with frames on the line of a fault, apart from the others
and in their order. Its groups of entries are these traces, each of them frame by frame as
location and short function. There are no entries exactly when no trace on the line has
frames, and the empty ones stand between others only, one at a time. A rendering with stack
traces writes the same traces in the same order below the lines that it has without them. -/
theorem traces_kept (fault : Fault) (style : Style) :
    Snapshot.groups fault.snapshot.stack =
        fault.lineTraces.map (fun trace => trace.frames.map fun frame =>
          frame.location ++ ":" ++ frame.shortFunction) ∧
      (fault.snapshot.stack = [] ↔
        (fault.line.filterMap stack?).all StackTrace.isEmpty = true) ∧
      Snapshot.Spaced fault.snapshot.stack ∧
      fault.render (style.showing .traces) =
        "\n".intercalate
          (fault.entry.rows (style.showing .tree) ++
            [""].intercalate (fault.lineTraces.map fun trace =>
              (trace.frames.flatMap fun frame =>
                [frame.function, "\t" ++ frame.location]) ++ [""]) ++
            Outline.branchRows (style.showing .traces) (fault.lineCauses.map outline)) := by
  have filled : ∀ trace ∈ fault.lineTraces, trace.isEmpty = false := by
    intro trace member
    simpa using (List.mem_filter.mp member).2
  have kept : fault.snapshot.stack = Snapshot.stackEntries fault.lineTraces := rfl
  rw [kept]
  refine ⟨Snapshot.groups_stackEntries filled, ?_, Snapshot.spaced_stackEntries filled, ?_⟩
  · rw [Snapshot.stackEntries_eq_nil_iff filled]
    simp only [lineTraces, List.filter_eq_nil_iff, List.all_eq_true, Bool.not_eq_true,
      Bool.not_eq_false']
  · rw [render_eq _ fault (.inr rfl), outline_eq, Outline.layout, Outline.rows, rows_traces,
      Entry.traceRows_eq]
    rfl

/-- A full disk with a stack trace, and two more around it, the inner one without frames. -/
def tracedDisk : Fault :=
  wrapped (.serial 2) (.stack (.ofFrames [⟨"app::outer", some "app.rs", some 7⟩]))
    (wrapped (.serial 1) (.stack .empty)
      (base (.serial 0) "full" (.ofFrames [⟨"app::inner", none, none⟩])))

/-- The trace without frames leaves neither a group nor a further empty entry between the other
two, and no lines below the message. -/
theorem traces_kept_tracedDisk :
    tracedDisk.snapshot.stack = ["app.rs:7:outer", "", "<unknown>:inner"] ∧
      Snapshot.groups tracedDisk.snapshot.stack = [["app.rs:7:outer"], ["<unknown>:inner"]] ∧
      Snapshot.Spaced tracedDisk.snapshot.stack ∧
      tracedDisk.render .verbose =
        "full\napp::outer\n\tapp.rs:7\n\n\napp::inner\n\t<unknown>\n" := by
  obtain ⟨groups, _, spaced, written⟩ := traces_kept tracedDisk .tree
  exact ⟨by decide, groups.trans (by decide), spaced, written.trans (by decide +kernel)⟩

end Fault

end CauseTree
