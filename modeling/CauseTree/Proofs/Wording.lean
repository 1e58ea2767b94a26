import CauseTree.Proofs.Annotations
import CauseTree.Proofs.Outlines

/-!
# The wording of a text

A fault writes its text by going down its nodes: a message stands in front of what is
inside, and joined causes stand one after another. An outline collects messages line by
line. Where no piece of the text is empty the two say the same: the text is the messages on
the line with colons between them, and where the line ends at joined causes their texts
follow as one more piece, with semicolons between them.

An empty piece would show in the text only, as a colon with nothing before it, because a
line leaves empty messages out. A rebuilt fault says its message alone, so the texts of its
causes are not part of its own, and a custom node says what it likes. Statements about whole
outlines leave both out.
-/

namespace CauseTree

namespace Outline

mutual

/-- What an outline says: the messages of its entry and, where there are branches, what the
branches say as one more piece. -/
def sentence : Outline → String
  | ⟨entry, branches⟩ =>
    ": ".intercalate
      (entry.messages ++ if branches.isEmpty then [] else ["; ".intercalate (sentences branches)])

/-- What each of several outlines says. -/
def sentences : List Outline → List String
  | [] => []
  | branch :: rest => branch.sentence :: sentences rest

end

/-- What several outlines say, as one list. -/
theorem sentences_eq (branches : List Outline) : sentences branches = branches.map sentence := by
  induction branches with
  | nil => rfl
  | cons branch rest inductionHypothesis => simp [sentences, inductionHypothesis]

end Outline

/-- The lines of an entry with messages are its message with the summary after it, when no
stack traces are shown. -/
theorem Entry.layout_rows {style : Style} (tree : style.detail = .tree) {entry : Entry}
    (spoken : entry.messages ≠ []) :
    "\n".intercalate (entry.rows style) = entry.message ++ entry.summary := by
  have lines := intercalate_withSummary "" "" entry.summary (entry.messageLines style)
    (messageLines_ne_nil style entry)
  rw [Outline.behind_empty, Outline.behind_empty] at lines
  have shown : entry.messageLines style =
      (entry.message.toList.splitOn '\n').map String.ofList := by
    simp [messageLines, spoken]
  have untraced : entry.rows style = withSummary entry.summary (entry.messageLines style) := by
    simp [rows, tree]
  rw [untraced, lines, shown, Text.intercalate_lines]

/-- Faults whose texts have no empty pieces, down to the first rebuilt nodes. -/
inductive Worded : Fault → Prop where
  | base (id : NodeId) {message : String} (stack : StackTrace) (filled : message ≠ "") :
      Worded (.base id message stack)
  | todo : Worded .todo
  | foreign (id : NodeId) {value : Foreign} (filled : value.text ≠ "") : Worded (.foreign id value)
  | rebuilt (id : NodeId) {message : String} (types : List String) (tags : List Tag)
      (stack : StackTrace) (causes : List Fault) (filled : message ≠ "") :
      Worded (.rebuilt id message types tags stack causes)
  | wrapped (id : NodeId) {note : Note} {cause : Fault} (filled : note.addedMessage? ≠ some "")
      (inner : Worded cause) : Worded (.wrapped id note cause)
  | joined (id : NodeId) {causes : List Fault} (filled : causes ≠ [])
      (inner : ∀ cause ∈ causes, Worded cause) : Worded (.joined id causes)

namespace Fault

/-- The texts of the causes that a node joins, as one text. -/
def joinedTexts : Fault → List String
  | joined _ causes => [joinedText causes]
  | _ => []

/-- A fault without empty pieces has a text. -/
theorem text_ne_empty {fault : Fault} (worded : Worded fault) : fault.text ≠ "" := by
  induction worded with
  | base id stack filled => simpa [text, textAfter] using filled
  | todo => decide
  | foreign id filled => simpa [text, textAfter] using filled
  | rebuilt id types tags stack causes filled => simpa [text, textAfter] using filled
  | @wrapped id note cause filled inner inductionHypothesis =>
    rw [text_wrapped]
    cases note.addedMessage? with
    | none => exact inductionHypothesis
    | some message => simp
  | @joined id causes filled inner inductionHypothesis =>
    have joinedText : (joined id causes).text = joinedText causes := rfl
    rw [joinedText, joinedText_eq]
    obtain ⟨first, rest, rfl⟩ := List.exists_cons_of_ne_nil filled
    cases rest with
    | nil => simpa using inductionHypothesis first List.mem_cons_self
    | cons next later => simp [String.intercalate_cons_cons]

/-- The text of a fault without empty pieces is made of the messages on its line and, where
the line ends at joined causes, of their texts. The induction is on the line; what it ends at
has a text, so a colon stands after every message in front of it. -/
theorem text_line {fault : Fault} (worded : Worded fault) :
    fault.text = ": ".intercalate (fault.entry.messages ++ fault.lineEnd.joinedTexts) := by
  induction worded with
  | base id stack filled =>
    simp [entry, line, lineEnd, shownMessage?, closingMessage?, causes?, message?, joinedTexts,
      Option.filter, filled, text, textAfter]
  | todo => decide
  | foreign id filled =>
    simp [entry, line, lineEnd, shownMessage?, closingMessage?, causes?, message?, joinedTexts,
      List.filterMap_cons, filled, text, textAfter]
  | rebuilt id types tags stack causes filled =>
    simp [entry, line, lineEnd, shownMessage?, closingMessage?, causes?, message?, joinedTexts,
      Option.filter, filled, text, textAfter]
  | @wrapped id note cause filled inner inductionHypothesis =>
    rw [text_wrapped, entry_wrapped, lineEnd]
    cases added : note.addedMessage? with
    | none => simpa using inductionHypothesis
    | some message =>
      have shown : message ≠ "" := by simpa [added] using filled
      have spoken : cause.entry.messages ++ cause.lineEnd.joinedTexts ≠ [] := by
        intro silent
        rw [silent, String.intercalate_nil] at inductionHypothesis
        exact text_ne_empty inner inductionHypothesis
      have first := String.intercalate_cons_of_ne_nil (s := ": ") (t := message) spoken
      simpa [Option.filter, shown, ← inductionHypothesis] using first.symm
  | @joined id causes filled inner inductionHypothesis =>
    have silent : (joined id causes).entry.messages = [] := rfl
    have joinedText : (joined id causes).text = joinedText causes := rfl
    have ending : (joined id causes).lineEnd.joinedTexts = [Fault.joinedText causes] := rfl
    rw [silent, joinedText, ending, List.nil_append, String.intercalate_singleton]

/-- The line of a fault without empty pieces ends at such a fault. -/
theorem worded_lineEnd {fault : Fault} (worded : Worded fault) : Worded fault.lineEnd := by
  induction worded with
  | wrapped id filled inner inductionHypothesis => exact inductionHypothesis
  | base id stack filled => exact .base id stack filled
  | todo => exact .todo
  | foreign id filled => exact .foreign id filled
  | rebuilt id types tags stack causes filled => exact .rebuilt id types tags stack causes filled
  | joined id filled inner => exact .joined id filled inner

/-- Whether a node is neither rebuilt nor custom, has no empty message or foreign text, and
does not join nothing. -/
def isPlain : Fault → Bool
  | base _ message _ => !message.isEmpty
  | todo => true
  | foreign _ value => !value.text.isEmpty
  | wrapped _ note _ => note.addedMessage?.all fun message => !message.isEmpty
  | joined _ causes => !causes.isEmpty
  | rebuilt .. => false
  | custom .. => false

/-- All nodes that can be reached are plain. -/
def Plain (fault : Fault) : Prop := ∀ node ∈ fault.reach, node.isPlain = true

/-- A graph is plain when its root is, and the graphs of its direct causes are. -/
theorem plain_iff (fault : Fault) :
    fault.Plain ↔ fault.isPlain = true ∧ ∀ cause ∈ fault.directCauses, cause.Plain := by
  unfold Plain
  rw [reach_eq]
  simp only [List.forall_mem_cons, List.forall_mem_flatMap]

/-- The text of a plain fault has no empty pieces. -/
theorem worded_of_plain {fault : Fault} (plain : fault.Plain) : Worded fault := by
  induction fault using cause_induction with
  | step fault inductionHypothesis =>
    obtain ⟨here, below⟩ := (plain_iff fault).mp plain
    have inner : ∀ cause ∈ fault.directCauses, Worded cause :=
      fun cause member => inductionHypothesis cause member (below cause member)
    cases fault with
    | base id message stack => exact .base id stack (by simpa [isPlain] using here)
    | todo => exact .todo
    | foreign id value => exact .foreign id (by simpa [isPlain] using here)
    | wrapped id note cause =>
      refine .wrapped id ?_ (inner cause List.mem_cons_self)
      intro silent
      simp [isPlain, silent] at here
    | joined id causes => exact .joined id (by simpa [isPlain] using here) inner
    | rebuilt id message types tags stack causes => simp [isPlain] at here
    | custom id node cause causes => simp [isPlain] at here

/-- What a plain node joins is what stands below the line that it ends. -/
theorem joinedTexts_eq {node : Fault} (plain : node.isPlain = true) :
    node.joinedTexts =
      if (node.causes?.getD []).isEmpty then []
      else ["; ".intercalate ((node.causes?.getD []).map text)] := by
  cases node with
  | joined id causes =>
    have filled : causes.isEmpty = false := by simpa [isPlain] using plain
    simp [joinedTexts, causes?, filled, joinedText_eq]
  | rebuilt id message types tags stack causes => simp [isPlain] at plain
  | custom id node cause causes => simp [isPlain] at plain
  | _ => rfl

/-- The text of a plain fault is what its outline says. -/
theorem text_eq_sentence {fault : Fault} (plain : fault.Plain) :
    fault.text = fault.outline.sentence := by
  induction fault using outline_induction with
  | step fault inductionHypothesis =>
    have ending : fault.lineEnd.isPlain = true := plain _ (lineEnd_mem_reach fault)
    have below : (fault.lineCauses.map outline).map Outline.sentence = fault.lineCauses.map text := by
      rw [List.map_map]
      apply List.map_congr_left
      intro cause member
      have inside : cause.Plain := fun node reached => plain node (reach_lineCauses member reached)
      exact (inductionHypothesis cause member inside).symm
    rw [text_line (worded_of_plain plain), joinedTexts_eq ending, outline_eq, Outline.sentence,
      Outline.sentences_eq, below, List.isEmpty_map]
    rfl

/-- A plain fault that joins nothing shows its text on a line without branches. -/
theorem outline_of_unjoined {fault : Fault} (plain : fault.Plain)
    (unjoined : ∀ node ∈ fault.reach, ∀ id causes, node ≠ joined id causes) :
    fault.text = fault.entry.message ∧ fault.outline = ⟨fault.entry, []⟩ := by
  have reached := lineEnd_mem_reach fault
  have ending : fault.lineEnd.isPlain = true := plain _ reached
  have alone : fault.lineEnd.joinedTexts = [] ∧ fault.lineCauses = [] := by
    unfold lineCauses
    cases last : fault.lineEnd with
    | joined id causes => exact absurd last (unjoined _ reached id causes)
    | rebuilt id message types tags stack causes => simp [last, isPlain] at ending
    | custom id node cause causes => simp [last, isPlain] at ending
    | _ => exact ⟨rfl, rfl⟩
  constructor
  · rw [text_line (worded_of_plain plain), alone.1, List.append_nil, Entry.message]
  · rw [outline_eq, alone.2, List.map_nil]

/-- The text of a plain fault is what its outline says. Where nothing is joined, the messages
of its only line are the whole text, the message of the snapshot is that text, and a tree
rendering is the text with the type names and tags after it. -/
theorem text_agrees (fault : Fault) (plain : fault.Plain) :
    fault.text = fault.outline.sentence ∧
      ((∀ node ∈ fault.reach, ∀ id causes, node ≠ joined id causes) →
        fault.entry.message = fault.text ∧ fault.snapshot.message = fault.text ∧
          ∀ style : Style, style.detail = .tree →
            fault.render style = fault.text ++ fault.entry.summary) := by
  refine ⟨text_eq_sentence plain, ?_⟩
  intro unjoined
  obtain ⟨text, outline⟩ := outline_of_unjoined plain unjoined
  have spoken : fault.entry.messages ≠ [] := by
    intro silent
    rw [Entry.message, silent, String.intercalate_nil] at text
    exact text_ne_empty (worded_of_plain plain) text
  refine ⟨text.symm, ?_, ?_⟩
  · rw [snapshot, outline, Snapshot.ofOutline, text]
  · intro style tree
    rw [render_eq style fault (.inl tree), outline, Outline.layout, Outline.rows,
      Outline.branchRows, List.append_nil, Entry.layout_rows tree spoken, text]

/-- A foreign fault with type names inside a message. -/
def refused : Fault :=
  wrapped (.serial 2) (.message "first replica")
    (wrapped (.serial 1) (.types ["Network", "Temporary"])
      (foreign (.serial 0) ⟨"net", "refused", [], none⟩))

/-- A message around joined faults, the second of which joins others. -/
def allReplicas : Fault :=
  wrapped (.serial 7) (.message "loading")
    (wrapped (.serial 6) (.stack .empty)
      (joined (.serial 5) [refused, joined (.serial 4) [base (.serial 3) "timeout" .empty, todo]]))

/-- The text names everything that is joined, as the outline does; of the first cause alone
the text and the only line agree. -/
theorem text_agrees_allReplicas :
    allReplicas.Plain ∧ allReplicas.text = "loading: first replica: refused; timeout; TODO" ∧
      refused.Plain ∧ (∀ node ∈ refused.reach, ∀ id causes, node ≠ joined id causes) ∧
      refused.snapshot.message = "first replica: refused" ∧
      refused.render .tree = "first replica: refused (Network Temporary)" := by
  have plain : allReplicas.Plain := by
    unfold Plain
    decide
  have plainCause : refused.Plain := by
    unfold Plain
    decide
  have unjoined : ∀ node ∈ refused.reach, ∀ id causes, node ≠ joined id causes := by
    simp [refused, reach]
  obtain ⟨_, message, rendered⟩ := (text_agrees refused plainCause).2 unjoined
  refine ⟨plain, ?_, plainCause, unjoined, ?_, ?_⟩
  · rw [(text_agrees allReplicas plain).1]
    decide
  · rw [message]
    decide
  · rw [rendered .tree rfl]
    decide

end Fault

end CauseTree
