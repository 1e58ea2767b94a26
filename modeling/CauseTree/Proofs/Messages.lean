import CauseTree.Build.Payload
import CauseTree.Proofs.Vanishing
import CauseTree.Proofs.Wording

/-!
# Messages of rebuilt faults

The text of a fault follows its line: the messages on the line, and after them, where the
line ends at joined causes, the texts of these. The message of a snapshot is made of the
messages on the line alone, and the text of a rebuilt fault is that message. The causes are
rebuilt below it, but their texts are no longer part of its text.

So a rebuilt fault has the text of the fault itself exactly when the line of the fault does
not end at joined causes. A fault that joins others, without a message around it, comes back
with an empty text.
-/

namespace CauseTree

/-- Faults that the builders make without foreign and custom nodes: base faults, the
placeholder, faults rebuilt from snapshots, layers around such faults, and several of them
joined. -/
inductive Built (registry : Registry) : Fault → Prop where
  | base {message : String} {stack : StackTrace} {journal : Journal} {fault : Fault}
      (made : ((Fault.new message stack).run registry journal).1 = fault) : Built registry fault
  | todo : Built registry .todo
  | rebuilt {snapshot : Snapshot} {stack : StackTrace} {journal : Journal} {fault : Fault}
      (made : ((snapshot.toFault stack).run registry journal).1 = some fault) :
      Built registry fault
  | layer {cause fault : Fault} {layer : Layer} {journal : Journal} (built : Built registry cause)
      (made : ((cause.add layer).run registry journal).1 = fault) : Built registry fault
  | join {faults : List (Option Fault)} {journal : Journal} {fault : Fault}
      (built : ∀ cause ∈ Fault.present faults, Built registry cause)
      (made : ((Fault.join faults).run registry journal).1 = some fault) : Built registry fault

/-- What faults made without foreign and custom nodes look like, down to the first rebuilt
nodes. Something is joined only where there is something to join. -/
inductive Composed : Fault → Prop where
  | base (id : NodeId) (message : String) (stack : StackTrace) : Composed (.base id message stack)
  | todo : Composed .todo
  | rebuilt (id : NodeId) (message : String) (types : List String) (tags : List Tag)
      (stack : StackTrace) (causes : List Fault) :
      Composed (.rebuilt id message types tags stack causes)
  | wrapped (id : NodeId) (note : Note) {cause : Fault} (inner : Composed cause) :
      Composed (.wrapped id note cause)
  | joined (id : NodeId) {causes : List Fault} (filled : causes ≠ [])
      (inner : ∀ cause ∈ causes, Composed cause) : Composed (.joined id causes)

/-- Composed faults need no adapting. -/
theorem Composed.isInternal {fault : Fault} (composed : Composed fault) :
    fault.isInternal = true := by
  cases composed <;> rfl

/-- Notes around a composed fault make a composed fault. -/
theorem Composed.under {cause : Fault} (inner : Composed cause) (serial : Nat)
    (notes : List Note) : Composed (cause.under serial notes) := by
  induction notes generalizing serial cause with
  | nil => exact inner
  | cons note rest inductionHypothesis => exact inductionHypothesis (inner.wrapped _ note) _

/-- Internal faults stay as they are when they are adapted. -/
theorem AdaptsAll.eq_of_internal {registry : Registry} {faults causes : List Fault}
    {serial last : Nat} {consulted : List (List Consultation)}
    (adapts : AdaptsAll registry faults serial causes last consulted)
    (internal : ∀ fault ∈ faults, fault.isInternal = true) : causes = faults := by
  induction adapts with
  | none serial => rfl
  | next first further inductionHypothesis =>
    obtain ⟨here, later⟩ := List.forall_mem_cons.mp internal
    rw [inductionHypothesis later]
    cases first with
    | internal _ => rfl
    | recognized outside _ => simp [here] at outside
    | unrecognized _ _ => rfl

/-- The builders make composed faults. -/
theorem Built.composed {registry : Registry} {fault : Fault} (built : Built registry fault) :
    Composed fault := by
  induction built with
  | base made =>
    obtain rfl := made
    exact .base _ _ _
  | todo => exact .todo
  | @rebuilt snapshot stack journal fault made =>
    have remade : snapshot.rebuild stack (.serial journal.serial) = some fault := made
    cases content : snapshot.isNil with
    | true => simp [(Snapshot.rebuild_eq_none_iff _ _ snapshot).mpr content] at remade
    | false =>
      rw [Snapshot.rebuild_eq_some _ _ snapshot content] at remade
      obtain rfl := Option.some.inj remade
      exact .rebuilt _ _ _ _ _ _
  | @layer cause fault layer journal _ made inner =>
    have unadapted : registry.adapt cause journal = (cause, journal) := by
      simp [Registry.adapt, inner.isInternal]
    rw [run_add, unadapted, run_annotate] at made
    obtain rfl := made
    exact inner.under _ _
  | @join faults journal fault _ made inner =>
    obtain ⟨causes, last, consulted, adapts, ran⟩ := join_adapts registry faults journal
    obtain rfl := adapts.eq_of_internal fun cause member => (inner cause member).isInternal
    rw [ran, Journal.joined] at made
    split at made
    · simp at made
    · next filled =>
      obtain rfl := Option.some.inj made
      exact .joined _ (by simpa using filled) inner

namespace Fault

/-- No own message of a node that can be reached is empty. -/
def Spoken (fault : Fault) : Prop := ∀ node ∈ fault.reach, node.message? ≠ some ""

/-- No own message is empty when that of the root is not and none is below it. -/
theorem spoken_iff (fault : Fault) :
    fault.Spoken ↔ fault.message? ≠ some "" ∧ ∀ cause ∈ fault.directCauses, cause.Spoken := by
  unfold Spoken
  rw [reach_eq]
  simp only [List.forall_mem_cons, List.forall_mem_flatMap]

/-- The own message of a wrapper is that of its note. -/
theorem message?_wrapped (id : NodeId) (note : Note) (cause : Fault) :
    (wrapped id note cause).message? = note.addedMessage? := by
  cases note <;> rfl

/-- The text of a composed fault without empty messages has no empty pieces. -/
theorem worded_of_composed {fault : Fault} (composed : Composed fault) (spoken : fault.Spoken) :
    Worded fault := by
  induction composed with
  | base id message stack =>
    have own := ((spoken_iff _).mp spoken).1
    exact .base id stack (by simpa [message?] using own)
  | todo => exact .todo
  | rebuilt id message types tags stack causes =>
    have own := ((spoken_iff _).mp spoken).1
    exact .rebuilt id types tags stack causes (by simpa [message?] using own)
  | wrapped id note inner inductionHypothesis =>
    obtain ⟨own, below⟩ := (spoken_iff _).mp spoken
    rw [message?_wrapped] at own
    exact .wrapped id own (inductionHypothesis (below _ List.mem_cons_self))
  | joined id filled inner inductionHypothesis =>
    have below := ((spoken_iff _).mp spoken).2
    exact .joined id filled fun cause member => inductionHypothesis cause member (below cause member)

/-- A fault whose text has no empty pieces is not a custom node, and so it is not mute. -/
theorem isMute_of_worded {fault : Fault} (worded : Worded fault) : fault.isMute = false := by
  cases worded <;> rfl

/-- A composed fault without empty messages has a snapshot with content. -/
theorem content_of_composed {fault : Fault} (composed : Composed fault) (spoken : fault.Spoken) :
    fault.snapshot.isNil = false := by
  have ending : Worded fault.lineEnd := worded_lineEnd (worded_of_composed composed spoken)
  rw [isNil_eq_isUnseen (text_ne_empty ending), isUnseen, isMute_of_worded ending, Bool.and_false]

/-- A text that comes after others, with a colon between them, changes the whole. -/
theorem intercalate_concat_ne (messages : List String) {last : String} (filled : last ≠ "") :
    ": ".intercalate messages ≠ ": ".intercalate (messages ++ [last]) := by
  intro same
  cases messages with
  | nil => simp [eq_comm, filled] at same
  | cons first rest =>
    rw [String.intercalate_append_of_ne_nil (List.cons_ne_nil first rest) (List.cons_ne_nil last []),
      String.append_assoc] at same
    have longer := congrArg String.length same
    simp at longer

/-- The message of a line without empty messages is the text of the fault exactly when the
line does not end at joined causes. -/
theorem message_eq_text_iff {fault : Fault} (composed : Composed fault) (spoken : fault.Spoken) :
    fault.entry.message = fault.text ↔ ∀ node causes, fault.lineEnd ≠ joined node causes := by
  have worded := worded_of_composed composed spoken
  rw [text_line worded, Entry.message]
  constructor
  · intro same node causes ending
    have filled := text_ne_empty (worded_lineEnd worded)
    rw [ending] at filled
    rw [ending, joinedTexts] at same
    exact intercalate_concat_ne fault.entry.messages filled same
  · intro unjoined
    cases ending : fault.lineEnd with
    | joined node causes => exact absurd ending (unjoined node causes)
    | _ => simp [joinedTexts]

/-- The text of a rebuilt fault is the message of the line that its snapshot shows. -/
theorem text_rebuild {fault rebuilt : Fault} {stack : StackTrace} {id : NodeId}
    (made : fault.snapshot.rebuild stack id = some rebuilt) :
    rebuilt.text = fault.entry.message := by
  cases content : fault.snapshot.isNil with
  | true => simp [(Snapshot.rebuild_eq_none_iff _ _ _).mpr content] at made
  | false =>
    rw [Snapshot.rebuild_eq_some _ _ _ content, snapshot_eq] at made
    obtain rfl := Option.some.inj made
    simp [text, textAfter]

/-- A fault that is rebuilt from a snapshot has the messages on the line of the fault as its
text. When the fault is made by the builders, without foreign and custom nodes and without
empty messages, it is always rebuilt, and its text comes back exactly when its line does not
end at joined causes. -/
theorem text_rebuilt (fault : Fault) (stack : StackTrace) (id : NodeId) :
    (∀ rebuilt, fault.snapshot.rebuild stack id = some rebuilt →
        rebuilt.text = fault.entry.message) ∧
      ∀ registry, Built registry fault → fault.Spoken →
        ∃ rebuilt, fault.snapshot.rebuild stack id = some rebuilt ∧
          (rebuilt.text = fault.text ↔ ∀ node causes, fault.lineEnd ≠ joined node causes) := by
  refine ⟨fun rebuilt made => text_rebuild made, ?_⟩
  intro registry built spoken
  have composed := built.composed
  have made := Snapshot.rebuild_eq_some stack id _ (content_of_composed composed spoken)
  refine ⟨_, made, ?_⟩
  rw [text_rebuild made]
  exact message_eq_text_iff composed spoken

/-- Two base faults that are joined. -/
def bothSlow : Fault :=
  joined (.serial 2) [base (.serial 0) "slow disk" .empty, base (.serial 1) "slow feed" .empty]

/-- The joined faults come back without a text, although their own text names both. -/
theorem text_rebuilt_bothSlow :
    Built [] bothSlow ∧ bothSlow.Spoken ∧ bothSlow.text = "slow disk; slow feed" ∧
      ∃ rebuilt, bothSlow.snapshot.rebuild .empty (.serial 3) = some rebuilt ∧
        rebuilt.text = "" ∧ rebuilt.text ≠ bothSlow.text := by
  have disk : Built [] (base (.serial 0) "slow disk" .empty) :=
    @Built.base [] "slow disk" .empty ⟨0, #[]⟩ _ rfl
  have feed : Built [] (base (.serial 1) "slow feed" .empty) :=
    @Built.base [] "slow feed" .empty ⟨1, #[]⟩ _ rfl
  have built : Built [] bothSlow :=
    @Built.join [] [some (base (.serial 0) "slow disk" .empty),
      some (base (.serial 1) "slow feed" .empty)] ⟨2, #[]⟩ _
      (List.forall_mem_cons.mpr ⟨disk, List.forall_mem_singleton.mpr feed⟩) rfl
  have spoken : bothSlow.Spoken := by
    unfold Spoken
    decide
  obtain ⟨message, comesBack⟩ := text_rebuilt bothSlow .empty (.serial 3)
  obtain ⟨rebuilt, made, same⟩ := comesBack [] built spoken
  refine ⟨built, spoken, by decide, rebuilt, made, (message rebuilt made).trans (by decide), ?_⟩
  intro whole
  exact same.mp whole (.serial 2) _ rfl

end Fault

end CauseTree
