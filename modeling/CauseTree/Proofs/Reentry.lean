import CauseTree.Proofs.Adaptation

/-!
# Adapters that build

An adapter may itself put layers around faults. A flag keeps these from being put to the
registry again: it is set while the registry runs its adapters and cleared afterwards, and
while it is set no adapter is consulted. The rules below follow the flag and run the
adapters of a registry like any other build. They give the same values, nodes and
consultations as running the adapters inert, and outside the adapters the flag is always
clear.
-/

namespace CauseTree

/-- A journal, and whether the registry is running its adapters. -/
structure Guarded where
  adapting : Bool
  journal : Journal

/-- The next serial number has been given away. -/
def Guarded.identified (state : Guarded) : Guarded :=
  { state with journal := { state.journal with serial := state.journal.serial + 1 } }

/-- A consultation has been noted. -/
def Guarded.note (state : Guarded) (index : Nat) (recognized : Bool) : Guarded :=
  { state with journal := state.journal.note (.registered index) recognized }

mutual

/-- Running a build with a registry, from one state to another. A fault is left as it is
when it is internal or the registry is running its adapters. Otherwise the flag is set,
the fault is put to the adapters, and the flag is cleared. -/
inductive Runs (registry : Registry) :
    {α : Type} → Build α → Guarded → α → Guarded → Prop where
  | done {α : Type} (value : α) (state : Guarded) : Runs registry (.done value) state value state
  | identify {α : Type} {next : NodeId → Build α} {state after : Guarded} {value : α}
      (further : Runs registry (next (.serial state.journal.serial)) state.identified value after) :
      Runs registry (.identify next) state value after
  | skip {α : Type} {fault : Fault} {next : Fault → Build α} {state after : Guarded} {value : α}
      (skipped : fault.isInternal = true ∨ state.adapting = true)
      (further : Runs registry (next fault) state value after) :
      Runs registry (.adapt fault next) state value after
  | scan {α : Type} {fault adapted : Fault} {next : Fault → Build α}
      {state scanned after : Guarded} {value : α}
      (outside : fault.isInternal = false) (idle : state.adapting = false)
      (asked : Asks registry fault 0 registry { state with adapting := true } adapted scanned)
      (further : Runs registry (next adapted) { scanned with adapting := false } value after) :
      Runs registry (.adapt fault next) state value after

/-- Putting a fault to adapters, the first of which has the given position. -/
inductive Asks (registry : Registry) :
    Fault → Nat → List Adapter → Guarded → Fault → Guarded → Prop where
  | nobody (fault : Fault) (index : Nat) (state : Guarded) :
      Asks registry fault index [] state fault state
  | recognized {fault adapted : Fault} {index : Nat} {adapter : Adapter} {rest : List Adapter}
      {state after : Guarded} (answered : Runs registry (adapter fault) state (some adapted) after) :
      Asks registry fault index (adapter :: rest) state adapted (after.note index true)
  | refused {fault adapted : Fault} {index : Nat} {adapter : Adapter} {rest : List Adapter}
      {state middle after : Guarded} (answered : Runs registry (adapter fault) state none middle)
      (further : Asks registry fault (index + 1) rest (middle.note index false) adapted after) :
      Asks registry fault index (adapter :: rest) state adapted after

end

/-- Two adapters: the first refuses every fault, and the second puts a layer around it. -/
def refuseThenType : Registry :=
  [fun _ => return none, fun fault => return some (← fault.add (.types ["Known"]))]

/-- A full disk, as another library reports it. -/
def diskFull : Fault := .foreign (.serial 0) ⟨"io", "full", [], none⟩

end CauseTree
