import CauseTree.Proofs.Lines
import Mathlib.Data.List.Nodup

/-!
# Chains of sources

A reader of sources holds the view of a fault and asks for its source again and again. The
view of a fault is made at once down to the end: it holds the view of the first of the
fault's causes, if the fault has any. Only where a view holds no further one, the own
sources of a foreign fault are asked for.

Causes are smaller than the fault whose causes they are, since the end of a line counts as a
cause only of a fault above it. So every chain comes to an end, and no node comes twice on
it. What is left of the graph on the chain can be said without views: a fault is followed by
the first of its causes, a whole line of wrappers makes one step, and the last fault is
followed by its own sources.
-/

namespace CauseTree

namespace Fault

variable {fault cause : Fault}

/-- The end of a line is smaller than a node that goes on. -/
theorem sizeOf_lineEnd_lt (further : fault.onward? = some cause) :
    sizeOf fault.lineEnd < sizeOf fault := by
  -- along the line: each node has the end of its cause, and the cause is smaller
  induction fault using line_induction generalizing cause with
  | onward fault next goesOn inductionHypothesis =>
    have step : sizeOf next < sizeOf fault := sizeOf_directCauses goesOn.direct
    rw [goesOn.lineEnd]
    cases later : next.onward? with
    | none => rwa [(ends_of_onward later).lineEnd]
    | some after => exact Nat.lt_trans (inductionHypothesis later) step
  | ending fault ends inductionHypothesis =>
    obtain ⟨single, unlisted⟩ := onward_some further
    rw [ends.causeless unlisted] at single
    cases single

/-- The end of a line is no larger than a node of the line. -/
theorem sizeOf_lineEnd_le (fault : Fault) : sizeOf fault.lineEnd ≤ sizeOf fault := by
  cases further : fault.onward? with
  | none => exact Nat.le_of_eq (congrArg sizeOf (ends_of_onward further).lineEnd)
  | some cause => exact Nat.le_of_lt (sizeOf_lineEnd_lt further)

/-- A node goes on to its single cause where its line ends without a list of causes. -/
theorem onward_eq_cause (unlisted : fault.lineEnd.causes? = none) :
    fault.onward? = fault.cause? := by
  cases further : fault.onward? with
  | some cause => exact (onward_some further).1.symm
  | none =>
    have ends := ends_of_onward further
    rw [ends.lineEnd] at unlisted
    exact (ends.causeless unlisted).symm

/-- The causes of a fault are smaller than the fault. -/
theorem sizeOf_mem_causes (member : cause ∈ fault.causes) : sizeOf cause < sizeOf fault := by
  cases listed : fault.lineEnd.causes? with
  | some causes =>
    have inside : cause ∈ causes := by simpa [Fault.causes, listed] using member
    exact Nat.lt_of_lt_of_le (Nat.lt_trans (List.sizeOf_lt_of_mem inside) (sizeOf_causes listed))
      (sizeOf_lineEnd_le fault)
  | none =>
    cases single : fault.cause? with
    | none => simp [causes, listed, single] at member
    | some inner =>
      obtain rfl : cause = fault.lineEnd := by simpa [causes, listed, single] using member
      exact sizeOf_lineEnd_lt ((onward_eq_cause listed).trans single)

/-- The causes of a fault can be reached from it, and so can all that can be reached from
them. -/
theorem reach_causes (member : cause ∈ fault.causes) : cause.reach ⊆ fault.reach := by
  rcases mem_causes member with below | ⟨rfl, _⟩
  · exact reach_lineCauses below
  · exact reach_lineEnd fault

/-- What passes from the first cause of a fault to the fault holds of every fault. -/
theorem source_induction {motive : Fault → Prop}
    (step : ∀ fault, (∀ cause ∈ fault.causes.head?, motive cause) → motive fault) (fault : Fault) :
    motive fault :=
  step fault fun cause _ => source_induction step cause
termination_by sizeOf fault
decreasing_by exact sizeOf_mem_causes (List.mem_of_mem_head? ‹_›)

end Fault

/-- What a reader of sources holds: the view of a fault, with the view of its first cause
if it has one, or one of a foreign fault's own sources, with the texts of those after it. -/
inductive View where
  | ofFault (fault : Fault) (source : Option View)
  | ofText (text : String) (later : List String)

namespace View

/-- The first of a foreign fault's own sources. -/
def ofTexts? : List String → Option View
  | [] => none
  | text :: later => some (ofText text later)

/-- The source of a view. A foreign fault is asked for its own sources only where its view
holds no further one. -/
def source? : View → Option View
  | ofFault _ (some source) => some source
  | ofFault fault none => ofTexts? fault.foreignSources
  | ofText _ later => ofTexts? later

/-- The text of a view. -/
def text : View → String
  | ofFault fault _ => fault.text
  | ofText text _ => text

/-- The fault of a view, unless it is one of a foreign fault's own sources. -/
def fault? : View → Option Fault
  | ofFault fault _ => some fault
  | ofText _ _ => none

/-- From the view on, asking for sources until there is none gives these views. -/
inductive Follows : View → List View → Prop where
  | last {view : View} (ending : view.source? = none) : Follows view [view]
  | onward {view source : View} {later : List View} (step : view.source? = some source)
      (further : Follows source later) : Follows view (view :: later)

/-- From a view on, the same views follow however often they are asked for. -/
theorem Follows.unique {view : View} {views others : List View} (follows : Follows view views)
    (again : Follows view others) : views = others := by
  induction follows generalizing others with
  | last ending =>
    cases again with
    | last _ => rfl
    | onward step further => simp [ending] at step
  | onward step further inductionHypothesis =>
    cases again with
    | last ending => simp [ending] at step
    | onward stepAgain furtherAgain =>
      obtain rfl := Option.some.inj (step.symm.trans stepAgain)
      rw [inductionHypothesis furtherAgain]

/-- The own sources of a foreign fault follow one another until none is left. -/
theorem follows_ofTexts (view : View) (texts : List String)
    (own : view.source? = ofTexts? texts) :
    ∃ later, Follows view (view :: later) ∧ later.map text = texts ∧
      later.filterMap fault? = [] := by
  induction texts generalizing view with
  | nil => exact ⟨[], .last own, rfl, rfl⟩
  | cons first rest inductionHypothesis =>
    obtain ⟨later, follows, shown, textual⟩ := inductionHypothesis (ofText first rest) rfl
    exact ⟨ofText first rest :: later, .onward own follows, by simp [shown, text], textual⟩

end View

namespace Fault

/-- The view of a fault. -/
def view (fault : Fault) : View :=
  .ofFault fault
    (match _first : fault.causes.head? with
    | some cause => some cause.view
    | none => none)
termination_by sizeOf fault
decreasing_by exact sizeOf_mem_causes (List.mem_of_mem_head? ‹_›)

/-- The view of a fault holds the view of its first cause. -/
theorem view_eq (fault : Fault) : fault.view = .ofFault fault (fault.causes.head?.map view) := by
  rw [view]
  split <;> simp_all

/-- Below a node that goes on, the sources are those of its single cause. -/
theorem laterSources_onward {fault cause : Fault} (further : fault.onward? = some cause)
    (left : Bool) : fault.laterSources left = cause.laterSources true := by
  obtain ⟨single, unlisted⟩ := onward_some further
  cases fault with
  | wrapped id note inner =>
    cases single
    rw [laterSources]
  | custom id node inner causes =>
    cases single
    cases unlisted
    rw [laterSources]
  | _ => simp [cause?] at single

/-- At the end of a line the sources go on with the first of the listed causes. Without a
list the end itself is a source, when the line has been entered above it. -/
theorem laterSources_ending {fault : Fault} (ending : fault.onward? = none) (left : Bool) :
    fault.laterSources left =
      match fault.causes? with
      | some causes => (causes.head?.map sources).getD []
      | none => if left then [fault] else [] := by
  cases fault with
  | wrapped id note cause => simp [onward?, causes?, cause?] at ending
  | joined id causes => cases causes <;> simp [laterSources, causes?, sources]
  | rebuilt id message types tags stack causes =>
    cases causes <;> simp [laterSources, causes?, sources]
  | custom id node cause causes =>
    cases causes with
    | some list => cases cause <;> cases list <;> simp [laterSources, causes?, sources]
    | none =>
      cases cause with
      | some inner => simp [onward?, causes?, cause?] at ending
      | none => simp [laterSources, causes?]
  | _ => simp [laterSources, causes?]

/-- The sources below a node are decided at the end of its line. -/
theorem laterSources_eq (fault : Fault) (left : Bool) :
    fault.laterSources left =
      match fault.lineEnd.causes? with
      | some causes => (causes.head?.map sources).getD []
      | none => if left || fault.cause?.isSome then [fault.lineEnd] else [] := by
  induction fault using cause_induction generalizing left with
  | step fault inductionHypothesis =>
    cases further : fault.onward? with
    | some cause =>
      have goesOn := goesOn_of_onward further
      rw [laterSources_onward further, inductionHypothesis cause goesOn.direct, goesOn.lineEnd]
      simp [(onward_some further).1]
    | none =>
      have ends := ends_of_onward further
      rw [laterSources_ending further, ends.lineEnd]
      cases listed : fault.causes? with
      | some causes => rfl
      | none => simp [ends.causeless listed]

/-- A fault without causes has no sources after it. -/
theorem sources_lineEnd {fault : Fault} (unlisted : fault.lineEnd.causes? = none) :
    fault.lineEnd.sources = [fault.lineEnd] := by
  have ends := ends_lineEnd fault
  rw [sources, laterSources_eq, ends.lineEnd, unlisted, ends.causeless unlisted]
  rfl

/-- A fault is followed by the first of its causes and the sources of that one. -/
theorem sources_eq (fault : Fault) :
    fault.sources = fault :: (fault.causes.head?.map sources).getD [] := by
  rw [sources, laterSources_eq, causes]
  cases listed : fault.lineEnd.causes? with
  | some causes => rfl
  | none => cases fault.cause? <;> simp [sources_lineEnd listed]

/-- The texts of a fault and its sources are the text of the fault and those of its first
cause. A fault without causes is followed by its own sources, if it is foreign. -/
theorem sourceTexts_eq (fault : Fault) :
    fault.sourceTexts = fault.text ::
      match fault.causes with
      | cause :: _ => cause.sourceTexts
      | [] => fault.foreignSources := by
  rw [sourceTexts, sources_eq]
  cases causes : fault.causes with
  | nil => rfl
  | cons cause rest =>
    have ends : cause.sources.getLast? = some ((cause.laterSources false).getLast?.getD cause) := by
      rw [sources, List.getLast?_cons]
    simp [sourceTexts, List.getLast?_cons, ends]

/-- From the view of a fault on, asking for sources ends, and shows the texts of the faults
that follow one another as first causes and the own sources of the last of them. -/
theorem follows_view (fault : Fault) :
    ∃ views, View.Follows fault.view views ∧ views.map View.text = fault.sourceTexts ∧
      views.filterMap View.fault? = fault.sources := by
  induction fault using source_induction with
  | step fault inductionHypothesis =>
    rw [view_eq, sourceTexts_eq, sources_eq]
    cases causes : fault.causes with
    | nil =>
      obtain ⟨later, follows, shown, textual⟩ :=
        View.follows_ofTexts (.ofFault fault none) fault.foreignSources rfl
      exact ⟨_, follows, by simp [shown, View.text], congrArg (fault :: ·) textual⟩
    | cons cause rest =>
      obtain ⟨views, follows, shown, faults⟩ := inductionHypothesis cause (by simp [causes])
      exact ⟨_, .onward rfl follows, by simp [shown, View.text], congrArg (fault :: ·) faults⟩

/-- The faults that follow one another as sources get smaller, and all of them can be
reached. -/
theorem sources_descend (fault : Fault) :
    (fault.sources.Pairwise fun node later => sizeOf later < sizeOf node) ∧
      fault.sources ⊆ fault.reach := by
  induction fault using source_induction with
  | step fault inductionHypothesis =>
    rw [sources_eq]
    cases causes : fault.causes with
    | nil => exact ⟨List.pairwise_singleton _ _, by simpa using mem_reach_self fault⟩
    | cons cause rest =>
      have member : cause ∈ fault.causes := by simp [causes]
      obtain ⟨descending, inside⟩ := inductionHypothesis cause (by simp [causes])
      -- the later sources are smaller than the first cause, which is smaller than the fault
      have below : ∀ later ∈ cause.sources, sizeOf later < sizeOf fault := by
        intro later listed
        rw [sources] at descending listed
        rcases List.mem_cons.mp listed with rfl | further
        · exact sizeOf_mem_causes member
        · exact Nat.lt_trans (List.rel_of_pairwise_cons descending further)
            (sizeOf_mem_causes member)
      exact ⟨List.pairwise_cons.mpr ⟨below, descending⟩,
        List.cons_subset.mpr ⟨mem_reach_self fault, fun node listed =>
          reach_causes member (inside listed)⟩⟩

/-- Different nodes that can be reached have different identities. -/
def ToldApart (fault : Fault) : Prop :=
  ∀ node ∈ fault.reach, ∀ other ∈ fault.reach, node.sameNode other = true → node = other

/-- Nodes of different sizes are not the same node. -/
theorem ToldApart.sameNode_eq_false {fault node other : Fault} (apart : fault.ToldApart)
    (inside : node ∈ fault.reach) (otherInside : other ∈ fault.reach)
    (smaller : sizeOf other < sizeOf node) : node.sameNode other = false := by
  cases same : node.sameNode other with
  | false => rfl
  | true =>
    rw [apart node inside other otherInside same] at smaller
    exact absurd smaller (Nat.lt_irrefl _)

/-- Where different nodes have different identities, the end of a line counts as a cause
exactly when it is not the same node as the fault. -/
theorem causes_eq_sameNode {fault : Fault} (apart : fault.ToldApart) :
    fault.causes =
      match fault.lineEnd.causes? with
      | some causes => causes
      | none => if fault.sameNode fault.lineEnd then [] else [fault.lineEnd] := by
  rw [causes]
  cases listed : fault.lineEnd.causes? with
  | some causes => rfl
  | none =>
    cases further : fault.onward? with
    | none =>
      have single : fault.cause? = none := (onward_eq_cause listed).symm.trans further
      simp [single, (ends_of_onward further).lineEnd, sameNode]
    | some cause =>
      -- the end is smaller than the fault, so it is another node
      have other := apart.sameNode_eq_false (mem_reach_self fault) (lineEnd_mem_reach fault)
        (sizeOf_lineEnd_lt further)
      simp [(onward_some further).1, other]

/-- Where no identity is used twice, different nodes have different identities. -/
theorem toldApart_of_nodup {fault : Fault} (unused : (fault.reach.map identity).Nodup) :
    fault.ToldApart := by
  intro node member other otherMember same
  exact List.inj_on_of_nodup_map unused member otherMember (by simpa [sameNode] using same)

/-- A wrapped fault, and any other whose line goes on, is followed by what the end of its line
leads to: by the first of the causes there, or else by the end itself. -/
theorem sources_onward {fault cause : Fault} (further : fault.onward? = some cause) :
    fault.sources = fault ::
      match fault.lineEnd.causes? with
      | some causes => (causes.head?.map sources).getD []
      | none => [fault.lineEnd] := by
  rw [sources, laterSources_eq]
  cases fault.lineEnd.causes? with
  | some causes => rfl
  | none => simp [(onward_some further).1]

/-- The last of the sources has no causes, and its own sources come after it. -/
theorem getLast_sources (fault : Fault) :
    ∃ last, fault.sources.getLast? = some last ∧ last.causes = [] ∧
      fault.sourceTexts = fault.sources.map text ++ last.foreignSources := by
  induction fault using source_induction with
  | step fault inductionHypothesis =>
    rw [sourceTexts_eq, sources_eq]
    cases causes : fault.causes with
    | nil => exact ⟨fault, rfl, causes, rfl⟩
    | cons cause rest =>
      obtain ⟨last, ends, causeless, shown⟩ := inductionHypothesis cause (by simp [causes])
      exact ⟨last, by simp [List.getLast?_cons, ends], causeless, by simp [shown]⟩

/-- The chain of sources. From the view of a fault on, asking for sources ends, and what is
seen are the sources of the fault: the fault, then the first of its causes and so on, and
the own sources of the last one if it is foreign. No node comes twice. A line of wrappers
makes one step, to what the end of the line leads to. -/
theorem sources_follow (fault : Fault) :
    (∃ views, View.Follows fault.view views) ∧
    (∀ views, View.Follows fault.view views →
      views.map View.text = fault.sourceTexts ∧ views.filterMap View.fault? = fault.sources) ∧
    (fault.sourceTexts = fault.text ::
      match fault.causes with
      | cause :: _ => cause.sourceTexts
      | [] => fault.foreignSources) ∧
    fault.sources.Nodup ∧
    (fault.ToldApart →
      (fault.causes =
        match fault.lineEnd.causes? with
        | some causes => causes
        | none => if fault.sameNode fault.lineEnd then [] else [fault.lineEnd]) ∧
      fault.sources.Pairwise fun node later => node.sameNode later = false) ∧
    (∀ cause, fault.onward? = some cause →
      fault.sources = fault ::
        match fault.lineEnd.causes? with
        | some causes => (causes.head?.map sources).getD []
        | none => [fault.lineEnd]) ∧
    ∃ last, fault.sources.getLast? = some last ∧ last.causes = [] ∧
      fault.sourceTexts = fault.sources.map text ++ last.foreignSources := by
  obtain ⟨views, follows, shown, faults⟩ := follows_view fault
  obtain ⟨descending, inside⟩ := sources_descend fault
  refine ⟨⟨views, follows⟩, ?_, sourceTexts_eq fault, ?_, ?_, ?_, getLast_sources fault⟩
  · intro others again
    rw [← follows.unique again]
    exact ⟨shown, faults⟩
  · apply descending.imp
    rintro node later smaller rfl
    exact Nat.lt_irrefl _ smaller
  · intro apart
    refine ⟨causes_eq_sameNode apart, descending.imp_of_mem ?_⟩
    intro node later member laterMember smaller
    exact apart.sameNode_eq_false (inside member) (inside laterMember) smaller
  · exact fun cause further => sources_onward further

/-- A foreign fault under a stack trace and a message. -/
def diskOffline : Fault :=
  wrapped (.serial 2) (.message "replica")
    (wrapped (.serial 1) (.stack .empty)
      (foreign (.serial 0) ⟨"Sourced", "disk full", ["device", "sector"], none⟩))

/-- A message around two joined faults. -/
def lostReplica : Fault :=
  wrapped (.serial 5) (.message "reading")
    (joined (.serial 4) [diskOffline, base (.serial 3) "timed out" .empty])

/-- The chain passes over the join to its first cause, over both wrappers to the foreign fault,
and on to the own sources of that one. -/
theorem sources_follow_lostReplica :
    lostReplica.ToldApart ∧
      lostReplica.sourceTexts =
        ["reading: replica: disk full; timed out", "replica: disk full", "disk full", "device",
          "sector"] ∧
      (∀ views, View.Follows lostReplica.view views → views.length = 5) ∧
      (lostReplica.sources.Pairwise fun node later => node.sameNode later = false) ∧
      lostReplica.sources = [lostReplica, diskOffline, diskOffline.lineEnd] := by
  have apart : lostReplica.ToldApart := toldApart_of_nodup (by decide)
  have texts : lostReplica.sourceTexts =
      ["reading: replica: disk full; timed out", "replica: disk full", "disk full", "device",
        "sector"] := by decide
  obtain ⟨_, seen, _, _, identities, steps, _⟩ := sources_follow lostReplica
  obtain ⟨_, _, _, _, _, below, _⟩ := sources_follow diskOffline
  refine ⟨apart, texts, ?_, (identities apart).2, ?_⟩
  · intro views follows
    have shown := congrArg List.length (seen views follows).1
    rwa [texts, List.length_map] at shown
  · rw [steps _ rfl]
    exact congrArg (lostReplica :: ·) (below _ rfl)

end Fault

end CauseTree
