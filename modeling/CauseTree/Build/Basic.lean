import CauseTree.Fault.Basic

/-!
# Building faults

Making a node takes an identity, and wrapping a fault first brings it into the form
that the registered adapters give it. A build describes such work step by step and
leaves open who provides identities and whether adapters are consulted. It can be run in
two ways. With a registry, each fault that asks for it is put to the adapters in order,
and the journal notes which adapter was consulted and whether it recognized the fault.
Inert, no adapter is consulted and every fault stays as it is.

An adapter is itself described by a build. The registry runs its adapters inert, so what
an adapter builds is not put to adapters again.
-/

namespace CauseTree

/-- A description of work that makes nodes and has faults adapted. -/
inductive Build (α : Type) where
  | done (value : α)
  | identify (next : NodeId → Build α)
  | adapt (fault : Fault) (next : Fault → Build α)

namespace Build

/-- Goes on with the value of a build. -/
def bind {α β : Type} (build : Build α) (next : α → Build β) : Build β :=
  match build with
  | done value => next value
  | identify rest => identify fun id => (rest id).bind next
  | adapt fault rest => adapt fault fun adapted => (rest adapted).bind next

instance : Monad Build where
  pure := done
  bind := bind

/-- Going on with nothing more to do changes nothing. -/
theorem bind_done {α : Type} (build : Build α) : build.bind done = build := by
  induction build with
  | done value => rfl
  | identify rest inductionHypothesis =>
    simp only [bind]
    exact congrArg identify (funext inductionHypothesis)
  | adapt fault rest inductionHypothesis =>
    simp only [bind]
    exact congrArg (adapt fault) (funext inductionHypothesis)

/-- Work in three parts can be grouped either way. -/
theorem bind_assoc {α β γ : Type} (build : Build α) (first : α → Build β) (second : β → Build γ) :
    (build.bind first).bind second = build.bind fun value => (first value).bind second := by
  induction build with
  | done value => rfl
  | identify rest inductionHypothesis =>
    simp only [bind]
    exact congrArg identify (funext inductionHypothesis)
  | adapt fault rest inductionHypothesis =>
    simp only [bind]
    exact congrArg (adapt fault) (funext inductionHypothesis)

instance : LawfulMonad Build :=
  LawfulMonad.mk' Build bind_done (fun _ _ => rfl) bind_assoc

/-- The value of an inert run, and the next free serial number. Faults stay as they are. -/
def runInert {α : Type} : Build α → Nat → α × Nat
  | done value, serial => (value, serial)
  | identify next, serial => (next (.serial serial)).runInert (serial + 1)
  | adapt fault next, serial => (next fault).runInert serial

end Build

/-- Recognizes a fault and gives it another form, or does not recognize it. -/
abbrev Adapter := Fault → Build (Option Fault)

/-- Adapters in the order in which they are consulted. -/
abbrev Registry := List Adapter

/-- The adapter that was consulted: a registered one by its position, or one under test. -/
inductive Consulted where
  | registered (index : Nat)
  | candidate
  deriving DecidableEq, Repr

/-- An adapter that was consulted, and whether it recognized the fault. -/
structure Consultation where
  adapter : Consulted
  recognized : Bool
  deriving DecidableEq, Repr

/-- The next free serial number and the consultations so far, in order. -/
structure Journal where
  serial : Nat
  consulted : Array Consultation
  deriving DecidableEq, Repr

namespace Journal

/-- The journal before any work. -/
def empty : Journal := ⟨0, #[]⟩

instance : Inhabited Journal := ⟨empty⟩

/-- Notes a consultation at the end. -/
def note (journal : Journal) (adapter : Consulted) (recognized : Bool) : Journal :=
  { journal with consulted := journal.consulted.push ⟨adapter, recognized⟩ }

end Journal

/-- Work that reads and extends a journal. -/
abbrev Session := StateM Journal

namespace Registry

/-- Puts a fault to adapters until one recognizes it. `index` is the position of the
first of them. A fault that none recognizes stays as it is. -/
def consult (fault : Fault) (index : Nat) : List Adapter → Session Fault
  | [] => fun journal => (fault, journal)
  | adapter :: rest => fun journal =>
    let (answer, serial) := (adapter fault).runInert journal.serial
    let journal := Journal.note { journal with serial } (.registered index) answer.isSome
    match answer with
    | some adapted => (adapted, journal)
    | none => consult fault (index + 1) rest journal

/-- The form that the registry gives to a fault. Internal nodes need no adapting. -/
def adapt (registry : Registry) (fault : Fault) : Session Fault :=
  if fault.isInternal then fun journal => (fault, journal) else consult fault 0 registry

end Registry

/-- The value of a run in which faults are put to the registry. -/
def Build.run {α : Type} (registry : Registry) : Build α → Session α
  | .done value => fun journal => (value, journal)
  | .identify next => fun journal =>
    (next (.serial journal.serial)).run registry { journal with serial := journal.serial + 1 }
  | .adapt fault next => fun journal =>
    let (adapted, journal) := registry.adapt fault journal
    (next adapted).run registry journal

end CauseTree
