import CauseTree.Proofs.Aggregates
import CauseTree.Proofs.Lines
import CauseTree.Outline.Render
import CauseTree.Snapshot.Basic
import Mathlib.Tactic.Tauto

/-!
# The order of annotations

Layers around a fault put messages, stack traces, type names and tags on one line. Messages
and stack traces are shown in the order in which they were put on, the outermost first.
Type names are shown sorted, each once, and tags are shown sorted, so it does not matter in
which order they were put on, on how many layers they came, or which messages and stack
traces stand between them. A layer that adds nothing leaves nothing.

Two sequences of layers with the same messages and the same stack traces in the same order,
the same type names and the same tags therefore give faults that look alike: they show the
same text, the same outline and the same snapshot, and they have the same type names and
tags. Only the first layer of each has its cause adapted, so both stand around the same form.
-/

namespace CauseTree

namespace Note

/-- The message that a note adds. -/
def addedMessage? : Note → Option String
  | .message text => some text
  | _ => none

/-- The stack trace that a note adds. -/
def addedTrace? : Note → Option StackTrace
  | .stack trace => some trace
  | _ => none

end Note

namespace Layer

/-- The message that a layer adds. -/
def addedMessage? : Layer → Option String
  | .message text => some text
  | .wrap text _ => some text
  | _ => none

/-- The stack trace that a layer adds. -/
def addedTrace? : Layer → Option StackTrace
  | .wrap _ trace => some trace
  | .stack trace => some trace
  | _ => none

/-- The type names that a layer adds. -/
def addedTypes : Layer → List String
  | .types names => names
  | _ => []

/-- The tags that a layer adds, in the order in which they are given. -/
def addedTags : Layer → List Tag
  | .tags list => list
  | _ => []

end Layer

/-- Two sequences of layers add the same messages and the same stack traces in the same
order, the same type names, and the same tags equally often. -/
structure SameAnnotations (layers others : List Layer) : Prop where
  messages : layers.filterMap Layer.addedMessage? = others.filterMap Layer.addedMessage?
  traces : layers.filterMap Layer.addedTrace? = others.filterMap Layer.addedTrace?
  types : ∀ name, name ∈ layers.flatMap Layer.addedTypes ↔ name ∈ others.flatMap Layer.addedTypes
  tags : (layers.flatMap Layer.addedTags).Perm (others.flatMap Layer.addedTags)

section Notes

variable (layers : List Layer)

/-- The notes of layers have their messages. -/
theorem addedMessages_notesOf :
    (notesOf layers).filterMap Note.addedMessage? = layers.filterMap Layer.addedMessage? := by
  rw [notesOf, List.filterMap_flatMap, List.filterMap_eq_flatMap_toList Layer.addedMessage?]
  apply List.flatMap_congr
  intro layer _
  cases layer <;> rfl

/-- The notes of layers have their stack traces. -/
theorem addedTraces_notesOf :
    (notesOf layers).filterMap Note.addedTrace? = layers.filterMap Layer.addedTrace? := by
  rw [notesOf, List.filterMap_flatMap, List.filterMap_eq_flatMap_toList Layer.addedTrace?]
  apply List.flatMap_congr
  intro layer _
  cases layer <;> rfl

/-- The notes of layers have their type names. -/
theorem addedTypes_notesOf :
    (notesOf layers).flatMap Note.addedTypes = layers.flatMap Layer.addedTypes := by
  rw [notesOf, List.flatMap_assoc]
  apply List.flatMap_congr
  intro layer _
  cases layer <;> simp [Layer.notes, Note.addedTypes, Layer.addedTypes]

/-- The notes of layers have their tags, which each layer sorts. -/
theorem addedTags_notesOf :
    ((notesOf layers).flatMap Note.addedTags).Perm (layers.flatMap Layer.addedTags) := by
  rw [notesOf, List.flatMap_assoc]
  apply List.Perm.flatMap_left
  intro layer _
  cases layer with
  | tags list => simpa [Layer.notes, Note.addedTags, Layer.addedTags] using Ordered.sort_perm list
  | _ => exact List.Perm.refl _

end Notes

namespace Fault

/-- The message of a wrapper's note stands in front of the text of its cause. -/
theorem text_wrapped (id : NodeId) (note : Note) (cause : Fault) :
    (wrapped id note cause).text =
      note.addedMessage?.elim cause.text fun message => message ++ ": " ++ cause.text := by
  cases note with
  | message text => exact text_message id text cause
  | _ => rfl

/-- The messages of notes stand in front of the text of the cause, the outermost first. -/
theorem text_under (serial : Nat) (cause : Fault) (notes : List Note) :
    (cause.under serial notes).text =
      (notes.filterMap Note.addedMessage?).foldl (fun inner message => message ++ ": " ++ inner)
        cause.text := by
  induction notes generalizing serial cause with
  | nil => rfl
  | cons note rest inductionHypothesis =>
    rw [under, inductionHypothesis, text_wrapped]
    cases note <;> rfl

/-- The line of a wrapper shows what its note adds, and then the line of its cause. -/
theorem entry_wrapped (id : NodeId) (note : Note) (cause : Fault) :
    (wrapped id note cause).entry =
      { messages := (note.addedMessage?.filter fun message => !message.isEmpty).toList ++
          cause.entry.messages
        types := distinctNames (note.addedTypes ++ cause.entry.types)
        tags := Ordered.sort (note.addedTags ++ cause.entry.tags)
        traces := note.addedTrace?.toList ++ cause.entry.traces } := by
  have messages : (wrapped id note cause).shownMessage? =
      note.addedMessage?.filter fun message => !message.isEmpty := by
    cases note <;> rfl
  have trace : (wrapped id note cause).stack? = note.addedTrace? := by
    cases note <;> rfl
  unfold entry
  rw [Entry.mk.injEq]
  refine ⟨?_, ?_, ?_, ?_⟩
  · rw [line, lineEnd, List.filterMap_cons, messages]
    cases note.addedMessage?.filter fun message => !message.isEmpty <;> rfl
  · rw [line, List.flatMap_cons, ownKinds_wrapped]
    apply distinctNames_congr
    intro name
    simp only [List.mem_append, mem_distinctNames]
  · rw [line, List.flatMap_cons, ownTags_wrapped]
    exact Tag.sort_congr ((Ordered.sort_perm _).symm.append_left note.addedTags)
  · rw [line, List.filterMap_cons, trace]
    cases note.addedTrace? <;> rfl

section Under

variable (serial : Nat) (cause : Fault) (notes : List Note)

/-- A line under notes ends where the line of the cause ends. -/
theorem lineEnd_under : (cause.under serial notes).lineEnd = cause.lineEnd := by
  induction notes generalizing serial cause with
  | nil => rfl
  | cons note rest inductionHypothesis => exact inductionHypothesis _ _

/-- Notes leave the causes at the end of the line as they are. -/
theorem lineCauses_under : (cause.under serial notes).lineCauses = cause.lineCauses := by
  rw [lineCauses, lineEnd_under, lineCauses]

/-- A line under notes shows their messages and stack traces, the outermost first, in front
of those of the cause. It shows their type names and their tags among those of the cause. -/
theorem entry_under :
    (cause.under serial notes).entry =
      { messages := ((notes.filterMap Note.addedMessage?).filter
            fun message => !message.isEmpty).reverse ++ cause.entry.messages
        types := distinctNames (notes.flatMap Note.addedTypes ++ cause.entry.types)
        tags := Ordered.sort (notes.flatMap Note.addedTags ++ cause.entry.tags)
        traces := (notes.filterMap Note.addedTrace?).reverse ++ cause.entry.traces } := by
  induction notes generalizing serial cause with
  | nil =>
    have types : distinctNames cause.entry.types = cause.entry.types :=
      distinctNames_distinctNames _
    have tags : Ordered.sort cause.entry.tags = cause.entry.tags :=
      Tag.sort_eq_self (Tag.sort_ordered _)
    simp only [under, List.filterMap_nil, List.filter_nil, List.reverse_nil, List.nil_append,
      List.flatMap_nil, types, tags]
  | cons note rest inductionHypothesis =>
    rw [under, inductionHypothesis, entry_wrapped, Entry.mk.injEq]
    refine ⟨?_, ?_, ?_, ?_⟩
    · rw [List.filterMap_cons]
      cases note.addedMessage? with
      | none => rfl
      | some message => by_cases silent : message = "" <;> simp [Option.filter, silent]
    · rw [distinctNames_nested, List.flatMap_cons]
    · rw [Tag.sort_nested, List.flatMap_cons]
    · rw [List.filterMap_cons]
      cases note.addedTrace? <;> simp

end Under

/-- The faults look alike to every reader that does not ask for the nodes themselves. -/
structure LooksAlike (fault other : Fault) : Prop where
  text : fault.text = other.text
  render : ∀ style : Style, style.detail ≠ .dump → fault.render style = other.render style
  snapshot : fault.snapshot = other.snapshot
  types : fault.types = other.types
  tags : fault.tags = other.tags
  isKind : ∀ kind, fault.isKind kind = other.isKind kind

section Layers

variable {layers others : List Layer} (same : SameAnnotations layers others)
variable (serial otherSerial : Nat) (cause : Fault)
include same

/-- Type names that the layers add make no difference among other names. -/
theorem distinctNames_added (names : List String) :
    distinctNames ((notesOf layers).flatMap Note.addedTypes ++ names) =
      distinctNames ((notesOf others).flatMap Note.addedTypes ++ names) := by
  apply distinctNames_congr
  intro name
  simp only [List.mem_append, addedTypes_notesOf, same.types]

/-- Tags that the layers add make no difference among other tags. -/
theorem sort_added (tags : List Tag) :
    Ordered.sort ((notesOf layers).flatMap Note.addedTags ++ tags) =
      Ordered.sort ((notesOf others).flatMap Note.addedTags ++ tags) := by
  apply Tag.sort_congr
  apply List.Perm.append_right
  exact (addedTags_notesOf layers).trans (same.tags.trans (addedTags_notesOf others).symm)

/-- The text of a cause under layers depends on their messages. -/
theorem text_layers :
    (cause.under serial (notesOf layers)).text =
      (cause.under otherSerial (notesOf others)).text := by
  rw [text_under, text_under, addedMessages_notesOf, addedMessages_notesOf, same.messages]

/-- The outline of a cause under layers depends on what they add and on nothing else. -/
theorem outline_layers :
    (cause.under serial (notesOf layers)).outline =
      (cause.under otherSerial (notesOf others)).outline := by
  rw [outline_eq, outline_eq, entry_under, entry_under, lineCauses_under, lineCauses_under,
    addedMessages_notesOf, addedMessages_notesOf, addedTraces_notesOf, addedTraces_notesOf,
    same.messages, same.traces, distinctNames_added same, sort_added same]

/-- A cause under layers looks alike whatever the order of what they add, as long as
messages and stack traces keep theirs. -/
theorem looksAlike_layers :
    LooksAlike (cause.under serial (notesOf layers)) (cause.under otherSerial (notesOf others)) where
  text := text_layers same serial otherSerial cause
  render style drawn := by
    have text := text_layers same serial otherSerial cause
    have outline := outline_layers same serial otherSerial cause
    cases detail : style.detail with
    | dump => exact absurd detail drawn
    | _ => simp only [Fault.render, detail, text, outline]
  snapshot := by
    rw [Fault.snapshot, Fault.snapshot, outline_layers same serial otherSerial]
  types := by
    rw [types_under, types_under, distinctNames_added same]
  tags := by
    rw [tags_under, tags_under, sort_added same]
  isKind kind := by
    apply Bool.eq_iff_iff.mpr
    rw [isKind_under, isKind_under, addedTypes_notesOf, addedTypes_notesOf, same.types]

end Layers

end Fault

/-- The order of annotations does not matter. Two sequences of layers, neither of them empty,
that add the same messages and the same stack traces in the same order, the same type names,
and the same tags equally often, make faults that look alike of every fault, whatever the
registry makes of it first. -/
theorem annotations_commute (registry : Registry) (journal : Journal) (fault : Fault)
    {layers others : List Layer} (filled : layers ≠ []) (othersFilled : others ≠ [])
    (same : SameAnnotations layers others) :
    Fault.LooksAlike ((fault.addAll layers).run registry journal).1
      ((fault.addAll others).run registry journal).1 := by
  obtain ⟨first, rest, rfl⟩ := List.exists_cons_of_ne_nil filled
  obtain ⟨otherFirst, otherRest, rfl⟩ := List.exists_cons_of_ne_nil othersFilled
  rw [run_addAll, run_addAll, run_annotate, run_annotate]
  exact Fault.looksAlike_layers same _ _ _

/-- A message over a stack trace, and then all names and tags at once. -/
def wrappedFirst : List Layer :=
  [.wrap "saving" (.ofFrames [⟨"save", none, none⟩]), .types ["Io", "Disk"],
    .tags [⟨"host", "db"⟩, ⟨"disk", "sda"⟩]]

/-- The same annotations piece by piece, the stack trace after the message. -/
def tagsApart : List Layer :=
  [.tags [⟨"disk", "sda"⟩], .types [], .types ["Disk"], .message "saving",
    .tags [⟨"host", "db"⟩], .types ["Disk", "Io"], .stack (.ofFrames [⟨"save", none, none⟩])]

/-- Both sequences of layers around a full disk give the same text and the same snapshot. -/
theorem annotations_commute_tagsApart :
    wrappedFirst ≠ [] ∧ tagsApart ≠ [] ∧ SameAnnotations wrappedFirst tagsApart ∧
      ((diskFull.addAll tagsApart).run refuseThenType ⟨1, #[]⟩).1.text = "saving: full" ∧
      ((diskFull.addAll wrappedFirst).run refuseThenType ⟨1, #[]⟩).1.snapshot =
        ((diskFull.addAll tagsApart).run refuseThenType ⟨1, #[]⟩).1.snapshot := by
  have filled : wrappedFirst ≠ [] := List.cons_ne_nil _ _
  have othersFilled : tagsApart ≠ [] := List.cons_ne_nil _ _
  have same : SameAnnotations wrappedFirst tagsApart := by
    refine ⟨by decide, by decide, ?_, ?_⟩
    · intro name
      simp only [wrappedFirst, tagsApart, Layer.addedTypes, List.flatMap_cons, List.flatMap_nil,
        List.mem_append, List.mem_cons, List.not_mem_nil]
      tauto
    · exact List.Perm.swap _ _ []
  have alike := annotations_commute refuseThenType ⟨1, #[]⟩ diskFull filled othersFilled same
  exact ⟨filled, othersFilled, same, alike.text.symm.trans (by decide), alike.snapshot⟩

end CauseTree
