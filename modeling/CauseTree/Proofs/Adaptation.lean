import CauseTree.Build.Join

/-!
# Adapting once

Whether a registry knows a fault is a matter of its adapters in order: the first one that
recognizes the fault settles its form, and those after it are not consulted. How a build
uses the registry follows from this one fact. A layer puts its cause to the registry and
leaves an internal node, which needs no adapting, so however many layers are put around a
fault, and however they are called, all consultations are made for the first of them.
Joining puts each present fault to the registry in turn.
-/

namespace CauseTree

/-- The adapters do not recognize the fault, one after another. They leave the next free
serial number at the second one given. -/
inductive Refuses (fault : Fault) : List Adapter → Nat → Nat → Prop where
  | nobody (serial : Nat) : Refuses fault [] serial serial
  | onward {adapter : Adapter} {rest : List Adapter} {serial middle last : Nat}
      (refused : (adapter fault).runInert serial = (none, middle))
      (further : Refuses fault rest middle last) : Refuses fault (adapter :: rest) serial last

/-- The adapter at the position is the first one that recognizes the fault, and it gives
the fault its new form. -/
inductive Recognizes (fault : Fault) : List Adapter → Nat → Nat → Fault → Nat → Prop where
  | here {adapter : Adapter} {rest : List Adapter} {serial last : Nat} {adapted : Fault}
      (recognized : (adapter fault).runInert serial = (some adapted, last)) :
      Recognizes fault (adapter :: rest) serial 0 adapted last
  | onward {adapter : Adapter} {rest : List Adapter} {serial middle last position : Nat}
      {adapted : Fault} (refused : (adapter fault).runInert serial = (none, middle))
      (further : Recognizes fault rest middle position adapted last) :
      Recognizes fault (adapter :: rest) serial (position + 1) adapted last

/-- Consultations in vain of so many adapters, the first one at the given position. -/
def inVain (index count : Nat) : List Consultation :=
  (List.range' index count).map fun position => ⟨.registered position, false⟩

/-- Consultations in vain of so many adapters, and then of one that recognizes the fault. -/
def untilFound (index count : Nat) : List Consultation :=
  inVain index count ++ [⟨.registered (index + count), true⟩]

/-- What a registry makes of a fault: its form, the next free serial number afterwards,
and the adapters that are consulted. An internal fault is not put to them. Any other is
put to all adapters up to the first one that recognizes it, or else to all of them. -/
inductive Adapts (registry : Registry) (fault : Fault) (serial : Nat) :
    Fault → Nat → List Consultation → Prop where
  | internal (inside : fault.isInternal = true) : Adapts registry fault serial fault serial []
  | recognized {position last : Nat} {adapted : Fault} (outside : fault.isInternal = false)
      (first : Recognizes fault registry serial position adapted last) :
      Adapts registry fault serial adapted last (untilFound 0 position)
  | unrecognized {last : Nat} (outside : fault.isInternal = false)
      (refused : Refuses fault registry serial last) :
      Adapts registry fault serial fault last (inVain 0 registry.length)

namespace Journal

/-- The journal after some consultations, with the next free serial number. -/
def extend (journal : Journal) (serial : Nat) (consulted : List Consultation) : Journal :=
  ⟨serial, journal.consulted ++ consulted.toArray⟩

end Journal

section Scan

variable {fault : Fault}

/-- Some adapter is the first to recognize the fault, or none does. -/
theorem recognizes_or_refuses (fault : Fault) (adapters : List Adapter) (serial : Nat) :
    (∃ position adapted last, Recognizes fault adapters serial position adapted last) ∨
      ∃ last, Refuses fault adapters serial last := by
  induction adapters generalizing serial with
  | nil => exact .inr ⟨serial, .nobody serial⟩
  | cons adapter rest inductionHypothesis =>
    cases answer : (adapter fault).runInert serial with
    | mk answered middle =>
      cases answered with
      | some adapted => exact .inl ⟨0, adapted, middle, .here answer⟩
      | none =>
        rcases inductionHypothesis middle with ⟨position, adapted, last, first⟩ | ⟨last, refused⟩
        · exact .inl ⟨position + 1, adapted, last, .onward answer first⟩
        · exact .inr ⟨last, .onward answer refused⟩

/-- Adapters that are added at the end are not consulted for a fault that is recognized
before them. -/
theorem Recognizes.append {adapters : List Adapter} {serial position last : Nat}
    {adapted : Fault} (first : Recognizes fault adapters serial position adapted last)
    (more : List Adapter) : Recognizes fault (adapters ++ more) serial position adapted last := by
  induction first with
  | here recognized => exact .here recognized
  | onward refused further inductionHypothesis => exact .onward refused inductionHypothesis

/-- Consulting adapters that refuse the fault notes each of them once, in order. -/
theorem consult_refused {adapters : List Adapter} {serial last : Nat}
    (refused : Refuses fault adapters serial last) (index : Nat)
    (consulted : Array Consultation) :
    Registry.consult fault index adapters ⟨serial, consulted⟩ =
      (fault, ⟨last, consulted ++ (inVain index adapters.length).toArray⟩) := by
  induction refused generalizing index consulted with
  | nobody serial => simp [Registry.consult, inVain]
  | onward answer further inductionHypothesis =>
    simp [Registry.consult, answer, Journal.note, inductionHypothesis, inVain, List.range'_succ]

/-- Consulting adapters notes each of them once, in order, up to the first one that
recognizes the fault. -/
theorem consult_recognized {adapters : List Adapter} {serial position last : Nat}
    {adapted : Fault} (first : Recognizes fault adapters serial position adapted last)
    (index : Nat) (consulted : Array Consultation) :
    Registry.consult fault index adapters ⟨serial, consulted⟩ =
      (adapted, ⟨last, consulted ++ (untilFound index position).toArray⟩) := by
  induction first generalizing index consulted with
  | here recognized => simp [Registry.consult, recognized, Journal.note, untilFound, inVain]
  | onward refused further inductionHypothesis =>
    simp [Registry.consult, refused, Journal.note, inductionHypothesis, untilFound, inVain,
      List.range'_succ, Nat.add_assoc, Nat.add_comm 1]

end Scan

/-- A registry makes something of every fault, and notes what it consults. -/
theorem adapt_adapts (registry : Registry) (fault : Fault) (journal : Journal) :
    ∃ adapted last consulted, Adapts registry fault journal.serial adapted last consulted ∧
      registry.adapt fault journal = (adapted, journal.extend last consulted) := by
  cases inside : fault.isInternal with
  | true =>
    refine ⟨fault, journal.serial, [], .internal inside, ?_⟩
    simp [Registry.adapt, inside, Journal.extend]
  | false =>
    rcases recognizes_or_refuses fault registry journal.serial with
      ⟨position, adapted, last, first⟩ | ⟨last, refused⟩
    · refine ⟨adapted, last, _, .recognized inside first, ?_⟩
      simp [Registry.adapt, inside, consult_recognized first 0 journal.consulted, Journal.extend]
    · refine ⟨fault, last, _, .unrecognized inside refused, ?_⟩
      simp [Registry.adapt, inside, consult_refused refused 0 journal.consulted, Journal.extend]

/-- What is built after a first part runs on its value and its journal. -/
theorem run_bind {α β : Type} (registry : Registry) (build : Build α) (next : α → Build β)
    (journal : Journal) :
    (build >>= next).run registry journal =
      (next (build.run registry journal).1).run registry (build.run registry journal).2 := by
  induction build generalizing journal with
  | done value => rfl
  | identify rest inductionHypothesis => exact inductionHypothesis _ _
  | adapt fault rest inductionHypothesis => exact inductionHypothesis _ _

/-- The notes around a cause, the first one innermost, numbered from a serial number on. -/
def Fault.under (serial : Nat) (cause : Fault) : List Note → Fault
  | [] => cause
  | note :: rest => under (serial + 1) (.wrapped (.serial serial) note cause) rest

/-- Notes stand around other notes. -/
theorem under_append (serial : Nat) (cause : Fault) (inner outer : List Note) :
    cause.under serial (inner ++ outer) =
      (cause.under serial inner).under (serial + inner.length) outer := by
  induction inner generalizing serial cause with
  | nil => rfl
  | cons note rest inductionHypothesis =>
    simp [Fault.under, inductionHypothesis, Nat.add_assoc, Nat.add_comm 1]

/-- Putting notes around an internal fault leaves an internal fault. -/
theorem isInternal_under {cause : Fault} (inside : cause.isInternal = true) (serial : Nat)
    (notes : List Note) : (cause.under serial notes).isInternal = true := by
  induction notes generalizing serial cause with
  | nil => exact inside
  | cons note rest inductionHypothesis =>
    have wrapped : (Fault.wrapped (.serial serial) note cause).isInternal = true := rfl
    exact inductionHypothesis wrapped (serial + 1)

/-- Annotating makes a node for each note and consults no adapter. -/
theorem run_annotate (registry : Registry) (cause : Fault) (notes : List Note)
    (journal : Journal) :
    (Build.annotate cause notes).run registry journal =
      (cause.under journal.serial notes,
        { journal with serial := journal.serial + notes.length }) := by
  induction notes generalizing cause journal with
  | nil => rfl
  | cons note rest inductionHypothesis =>
    have made : (Build.make fun id => .wrapped id note cause).run registry journal =
        (.wrapped (.serial journal.serial) note cause,
          { journal with serial := journal.serial + 1 }) := rfl
    rw [Build.annotate, run_bind, made, inductionHypothesis]
    simp [Fault.under, Nat.add_assoc, Nat.add_comm 1]

/-- Every layer has a note. -/
theorem notes_ne_nil (layer : Layer) : layer.notes ≠ [] := by
  cases layer <;> simp [Layer.notes]

/-- A layer leaves an internal fault, whatever is inside. -/
theorem isInternal_layer (layer : Layer) (serial : Nat) (cause : Fault) :
    (cause.under serial layer.notes).isInternal = true := by
  cases notes : layer.notes with
  | nil => exact absurd notes (notes_ne_nil layer)
  | cons note rest =>
    have wrapped : (Fault.wrapped (.serial serial) note cause).isInternal = true := rfl
    exact isInternal_under wrapped (serial + 1) rest

/-- A layer is put around what the registry makes of the fault. -/
theorem run_add (registry : Registry) (fault : Fault) (layer : Layer) (journal : Journal) :
    (fault.add layer).run registry journal =
      (Build.annotate (registry.adapt fault journal).1 layer.notes).run registry
        (registry.adapt fault journal).2 := by
  rw [Fault.add, run_bind]
  rfl

/-- The notes of several layers, innermost first. -/
def notesOf (layers : List Layer) : List Note := layers.flatMap Layer.notes

/-- Layers around an internal fault make a node for each note and consult no adapter. -/
theorem run_addAll_internal (registry : Registry) {fault : Fault}
    (inside : fault.isInternal = true) (layers : List Layer) (journal : Journal) :
    (fault.addAll layers).run registry journal =
      (fault.under journal.serial (notesOf layers),
        { journal with serial := journal.serial + (notesOf layers).length }) := by
  induction layers generalizing fault journal with
  | nil => rfl
  | cons layer rest inductionHypothesis =>
    have unadapted : registry.adapt fault journal = (fault, journal) := by
      simp [Registry.adapt, inside]
    have still := isInternal_layer layer journal.serial fault
    rw [Fault.addAll, run_bind, run_add, unadapted, run_annotate, inductionHypothesis still]
    simp [notesOf, under_append, Nat.add_assoc]

/-- Layers around any fault are put around what the registry makes of it. No adapter is
consulted after the first layer. -/
theorem run_addAll (registry : Registry) (fault : Fault) (first : Layer) (rest : List Layer)
    (journal : Journal) :
    (fault.addAll (first :: rest)).run registry journal =
      (Build.annotate (registry.adapt fault journal).1 (notesOf (first :: rest))).run registry
        (registry.adapt fault journal).2 := by
  have inside := isInternal_layer first (registry.adapt fault journal).2.serial
    (registry.adapt fault journal).1
  rw [Fault.addAll, run_bind, run_add, run_annotate, run_addAll_internal registry inside,
    run_annotate]
  simp [notesOf, under_append, Nat.add_assoc]

/-- The ways of calling for a layer: on a fault, on an optional fault, on the fault of a
result, and there with a message that is built on demand. -/
inductive Call where
  | plain (layer : Layer)
  | optional (layer : Layer)
  | result (layer : Layer)
  | resultWith (message : String) (stack : StackTrace)

namespace Call

/-- The layer that is called for. -/
def layer : Call → Layer
  | plain layer => layer
  | optional layer => layer
  | result layer => layer
  | resultWith message stack => .wrap message stack

/-- The fault of a result, or another one where there is none. -/
def failure (default : Fault) : Except Fault Unit → Fault
  | .ok () => default
  | .error fault => fault

/-- Calls for a layer around a present fault and takes the fault out of the answer. -/
def apply (fault : Fault) : Call → Build Fault
  | plain layer => fault.add layer
  | optional layer => return (← Fault.addToOption layer (some fault)).getD fault
  | result layer => return failure fault (← Fault.addToResult layer (.error fault))
  | resultWith message stack => do
    let onDemand : Build String := pure message
    return failure fault (← Fault.wrapResultWith onDemand stack (.error fault))

end Call

/-- What a registry makes of several faults in turn, with the consultations for each. -/
inductive AdaptsAll (registry : Registry) :
    List Fault → Nat → List Fault → Nat → List (List Consultation) → Prop where
  | none (serial : Nat) : AdaptsAll registry [] serial [] serial []
  | next {fault adapted : Fault} {rest causes : List Fault} {serial middle last : Nat}
      {consulted : List Consultation} {others : List (List Consultation)}
      (first : Adapts registry fault serial adapted middle consulted)
      (further : AdaptsAll registry rest middle causes last others) :
      AdaptsAll registry (fault :: rest) serial (adapted :: causes) last (consulted :: others)

/-- Faults that are adapted in turn are consulted for one after another. -/
theorem adaptAfter_adapts (registry : Registry) (faults : List Fault) (adapted : Array Fault)
    (journal : Journal) :
    ∃ causes last consulted, AdaptsAll registry faults journal.serial causes last consulted ∧
      (Fault.adaptAfter adapted faults).run registry journal =
        (adapted.toList ++ causes, journal.extend last consulted.flatten) := by
  induction faults generalizing adapted journal with
  | nil =>
    refine ⟨[], journal.serial, [], .none _, ?_⟩
    simp only [Fault.adaptAfter, List.append_nil, List.flatten_nil, Journal.extend]
    rfl
  | cons fault rest inductionHypothesis =>
    obtain ⟨form, middle, first, adapts, ran⟩ := adapt_adapts registry fault journal
    obtain ⟨causes, last, others, adaptsAll, further⟩ :=
      inductionHypothesis (adapted.push form) (journal.extend middle first)
    refine ⟨form :: causes, last, first :: others, .next adapts adaptsAll, ?_⟩
    have asked : (Build.adapted fault).run registry journal = (form, journal.extend middle first) :=
      ran
    rw [Fault.adaptAfter, run_bind, asked, further]
    simp [Journal.extend]

/-- One node above adapted causes, unless there are none, and the journal with what has
been consulted for each of them. `serial` is the next free serial number. -/
def Journal.joined (journal : Journal) (causes : List Fault) (serial : Nat)
    (consulted : List (List Consultation)) : Option Fault × Journal :=
  if causes.isEmpty then (none, journal.extend serial consulted.flatten)
  else (some (.joined (.serial serial) causes), journal.extend (serial + 1) consulted.flatten)

/-- Joining makes one node above the adapted causes, unless there are none. -/
theorem join_adapts (registry : Registry) (faults : List (Option Fault)) (journal : Journal) :
    ∃ causes last consulted,
      AdaptsAll registry (Fault.present faults) journal.serial causes last consulted ∧
      (Fault.join faults).run registry journal = journal.joined causes last consulted := by
  obtain ⟨causes, last, consulted, adapts, ran⟩ :=
    adaptAfter_adapts registry (Fault.present faults) #[] journal
  refine ⟨causes, last, consulted, adapts, ?_⟩
  rw [Fault.join, run_bind, Fault.adaptAll, ran]
  cases causes with
  | nil => rfl
  | cons first later => rfl

end CauseTree
