import CauseTree.Proofs.Reentry

/-!
# Adapting twice

What the registry makes of a fault may be put to the registry again. An internal form is
not put to the adapters, so it stays as it is. A foreign or custom form is put to all of
them, although an adapter may just have returned it.

An adapter is asked not to recognize a fault that it returns itself. This says nothing of
the other adapters: one of them may recognize the form and give it another form the second
time. Where none of them does, adapting again changes nothing. Nothing else can keep a form
as it is, because an adapter that recognizes it and returns it unchanged recognizes what it
returns.
-/

namespace CauseTree

/-- The adapter does not recognize a fault that it returns itself, whatever number the next
new node has. -/
def Adapter.IgnoresOwn (adapter : Adapter) : Prop :=
  ∀ fault serial adapted last, (adapter fault).runInert serial = (some adapted, last) →
    ∀ later, ((adapter adapted).runInert later).1 = none

/-- Some adapter of the registry is the first to recognize the fault. -/
def Registry.Knows (registry : Registry) (fault : Fault) (serial : Nat) : Prop :=
  ∃ position adapted last, Recognizes fault registry serial position adapted last

/-- The adapter at the position of the first one that recognizes a fault returns its form. -/
theorem Recognizes.adapter_returns {fault adapted : Fault} {adapters : List Adapter}
    {serial position last : Nat}
    (first : Recognizes fault adapters serial position adapted last) :
    ∃ adapter start, adapters[position]? = some adapter ∧
      (adapter fault).runInert start = (some adapted, last) := by
  induction first with
  | here recognized => exact ⟨_, _, rfl, recognized⟩
  | onward refused further inductionHypothesis =>
    obtain ⟨adapter, start, placed, answered⟩ := inductionHypothesis
    exact ⟨adapter, start, placed, answered⟩

/-- A registry leaves a fault as it is when the fault is internal or no adapter recognizes
it. -/
theorem adapt_unchanged {registry : Registry} {fault : Fault} {journal : Journal}
    (settled : fault.isInternal = true ∨ ¬ registry.Knows fault journal.serial) :
    (registry.adapt fault journal).1 = fault := by
  cases inside : fault.isInternal with
  | true => simp [Registry.adapt, inside]
  | false =>
    rcases recognizes_or_refuses fault registry journal.serial with known | ⟨last, refused⟩
    · rcases settled with internal | unknown
      · simp [inside] at internal
      · exact absurd known unknown
    · simp [Registry.adapt, inside, consult_refused refused 0 journal.consulted]

section Contract

variable {registry : Registry} (contract : ∀ adapter ∈ registry, adapter.IgnoresOwn)
include contract

/-- The adapter that has returned a form is not the one that recognizes it. -/
theorem recognizes_elsewhere {fault adapted form : Fault} {serial position last : Nat}
    (first : Recognizes fault registry serial position adapted last)
    {start other final : Nat}
    (again : Recognizes adapted registry start other form final) : other ≠ position := by
  rintro rfl
  obtain ⟨adapter, asked, placed, returned⟩ := first.adapter_returns
  obtain ⟨same, askedAgain, placedAgain, recognized⟩ := again.adapter_returns
  obtain rfl : adapter = same := Option.some.inj (placed.symm.trans placedAgain)
  have ignored := contract adapter (List.mem_of_getElem? placed) fault asked adapted last returned
    askedAgain
  simp [recognized] at ignored

/-- A fault that some adapter recognizes does not stay as it is. An adapter that returned it
unchanged would recognize a fault that it returns. -/
theorem adapt_changed {fault : Fault} {journal : Journal} (outside : fault.isInternal = false)
    (known : registry.Knows fault journal.serial) : (registry.adapt fault journal).1 ≠ fault := by
  obtain ⟨position, adapted, last, first⟩ := known
  have scanned : (registry.adapt fault journal).1 = adapted := by
    simp [Registry.adapt, outside, consult_recognized first 0 journal.consulted]
  rw [scanned]
  rintro rfl
  exact recognizes_elsewhere contract first first rfl

end Contract

/-- With adapters that do not recognize what they return themselves, adapting a second time
leaves the form of a fault as it is exactly when the form is internal or no adapter
recognizes it. Where some adapter has returned the form, only another one can recognize it. -/
theorem adapt_twice_iff (registry : Registry)
    (contract : ∀ adapter ∈ registry, adapter.IgnoresOwn) (fault : Fault) (journal : Journal) :
    ((registry.adapt (registry.adapt fault journal).1 (registry.adapt fault journal).2).1 =
        (registry.adapt fault journal).1 ↔
      (registry.adapt fault journal).1.isInternal = true ∨
        ¬ registry.Knows (registry.adapt fault journal).1
          (registry.adapt fault journal).2.serial) ∧
    ∀ position adapted last, Recognizes fault registry journal.serial position adapted last →
      ∀ start other form final, Recognizes adapted registry start other form final →
        other ≠ position := by
  constructor
  · constructor
    · intro unchanged
      cases inside : (registry.adapt fault journal).1.isInternal with
      | true => exact .inl rfl
      | false => exact .inr fun known => adapt_changed contract inside known unchanged
    · exact adapt_unchanged
  · intro position adapted last first start other form final again
    exact recognizes_elsewhere contract first again

/-- A node that says of a fault that it was throttled. -/
def throttled : Custom where
  typeName := "Throttled"
  concrete := "throttled"
  display := some "throttled"
  message := none
  types := []
  tags := []
  stack := none
  predicate := fun _ => none
  predicateNames := []

/-- Two adapters: the first puts type names around custom nodes, and the second puts a custom
node around foreign faults. -/
def typeThenThrottle : Registry :=
  [fun fault => match fault with
    | .custom .. => return some (← fault.add (.types ["Temporary"]))
    | _ => return none,
  fun fault => match fault with
    | .foreign .. => return some (← Fault.ofCustom throttled (some fault) none)
    | _ => return none]

/-- Neither adapter recognizes what it returns itself. -/
theorem ignoresOwn_typeThenThrottle : ∀ adapter ∈ typeThenThrottle, adapter.IgnoresOwn := by
  intro adapter member fault serial adapted last returned later
  simp only [typeThenThrottle, List.mem_cons, List.not_mem_nil, or_false] at member
  rcases member with rfl | rfl
  · cases fault with
    | custom id node cause causes =>
      cases returned
      rfl
    | _ => cases returned
  · cases fault with
    | foreign id value =>
      cases returned
      rfl
    | _ => cases returned

/-- The custom node that the second adapter returns for a full disk is recognized by the
first adapter, which has refused the full disk itself, and so adapting it again gives
another node. -/
theorem adapt_twice_typeThenThrottle :
    (∀ adapter ∈ typeThenThrottle, adapter.IgnoresOwn) ∧
      Fault.sameNode
        (Registry.adapt typeThenThrottle (Registry.adapt typeThenThrottle diskFull ⟨1, #[]⟩).1
          (Registry.adapt typeThenThrottle diskFull ⟨1, #[]⟩).2).1
        (Registry.adapt typeThenThrottle diskFull ⟨1, #[]⟩).1 = false :=
  ⟨ignoresOwn_typeThenThrottle, rfl⟩

/-- A full disk that was throttled. -/
def throttledDisk : Fault := .custom (.serial 1) throttled (some diskFull) none

/-- Adapting the full disk twice goes on past its first form, and only an adapter that has not
returned that form can do so. The second form is internal, so adapting the first form twice
leaves it as it is after the first time. -/
theorem adapt_twice_throttledDisk :
    (∀ adapter ∈ typeThenThrottle, adapter.IgnoresOwn) ∧
      Recognizes diskFull typeThenThrottle 1 1 throttledDisk 2 ∧
      (∀ start other form final, Recognizes throttledDisk typeThenThrottle start other form final →
        other ≠ 1) ∧
      Registry.Knows typeThenThrottle throttledDisk 2 ∧
      (Registry.adapt typeThenThrottle throttledDisk
        (Registry.adapt typeThenThrottle diskFull ⟨1, #[]⟩).2).1 ≠ throttledDisk ∧
      (Registry.adapt typeThenThrottle (Registry.adapt typeThenThrottle throttledDisk ⟨2, #[]⟩).1
        (Registry.adapt typeThenThrottle throttledDisk ⟨2, #[]⟩).2).1 =
        .wrapped (.serial 2) (.types ["Temporary"]) throttledDisk := by
  have first : Recognizes diskFull typeThenThrottle 1 1 throttledDisk 2 := .onward rfl (.here rfl)
  have known : Registry.Knows typeThenThrottle throttledDisk 2 := ⟨0, _, _, .here rfl⟩
  obtain ⟨twice, elsewhere⟩ :=
    adapt_twice_iff typeThenThrottle ignoresOwn_typeThenThrottle diskFull ⟨1, #[]⟩
  obtain ⟨settled, _⟩ :=
    adapt_twice_iff typeThenThrottle ignoresOwn_typeThenThrottle throttledDisk ⟨2, #[]⟩
  refine ⟨ignoresOwn_typeThenThrottle, first, elsewhere 1 _ 2 first, known, ?_,
    settled.mpr (.inl rfl)⟩
  intro unchanged
  rcases twice.mp unchanged with inside | unknown
  · cases inside
  · exact unknown known

end CauseTree
