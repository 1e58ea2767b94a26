import CauseTree.Proofs.Canonical
import CauseTree.Proofs.Walks

/-!
# Asking for a type name and listing type names

A node accepts a type name that it declares or whose predicate answers yes. It refuses a
name whose predicate answers no, unless it declares the name all the same. To ask
whether a name applies to a fault is to look for a path to a node that accepts it, past
nodes that do not refuse it. The listing looks at all nodes of the walk and knows no
refusal, so it lists every name that applies, and more names only below a refusal.

Names from predicates are listed only when their node lists them. The statements about
the listing therefore ask that each node lists the names for which its predicate
answers yes.
-/

namespace CauseTree.Fault

/-- The node declares the name, or its predicate of that name answers yes. -/
def Accepts (kind : String) (node : Fault) : Prop :=
  kind ∈ node.ownTypes ∨ node.predicate? kind = some true

/-- The node's predicate of that name answers no, and the node does not declare the name. -/
def Refuses (kind : String) (node : Fault) : Prop :=
  node.predicate? kind = some false ∧ kind ∉ node.ownTypes

/-- A path leads to a node that accepts the name, past nodes that do not refuse it. -/
def PathAccepting (kind : String) (fault : Fault) : Prop :=
  ∃ passed last, Path fault passed last ∧ last.Accepts kind ∧ ∀ node ∈ passed, ¬ node.Refuses kind

/-- Each node that a walk visits lists the names for which its predicate answers yes. -/
def ListsPredicates (fault : Fault) : Prop :=
  ∀ node ∈ fault.walk.toList, ∀ name, node.predicate? name = some true →
    name ∈ node.predicateNames

/-- A name applies to one of several faults. -/
theorem anyIsKind_iff (kind : String) (faults : List Fault) :
    anyIsKind kind faults = true ↔ ∃ fault ∈ faults, fault.isKind kind = true := by
  induction faults with
  | nil => simp [anyIsKind]
  | cons fault rest inductionHypothesis => simp [anyIsKind, inductionHypothesis]

/-- A name applies to a fault that accepts it, or that does not refuse it and has a cause
on the walk to which it applies. -/
theorem isKind_iff (kind : String) (fault : Fault) :
    fault.isKind kind = true ↔
      fault.Accepts kind ∨
        (¬ fault.Refuses kind ∧ ∃ cause ∈ fault.next, cause.isKind kind = true) := by
  rw [isKind_eq, verdict?]
  by_cases declared : kind ∈ fault.ownTypes
  · simp [Accepts, declared]
  · cases answer : fault.predicate? kind with
    | none => simp [Accepts, Refuses, declared, answer, anyIsKind_iff]
    | some yes => cases yes <;> simp [Accepts, Refuses, declared, answer]

/-- A name applies to a fault exactly when some path accepts it. -/
theorem isKind_iff_accepting (kind : String) (fault : Fault) :
    fault.isKind kind = true ↔ fault.PathAccepting kind := by
  constructor
  · intro applies
    induction fault using cause_induction with
    | step fault inductionHypothesis =>
      rcases (isKind_iff kind fault).mp applies with accepted | ⟨unrefused, cause, edge, below⟩
      · exact ⟨[], fault, .here fault, accepted, by simp⟩
      · obtain ⟨passed, last, path, accepted, later⟩ :=
          inductionHypothesis cause (next_subset fault edge) below
        have throughout : ∀ node ∈ fault :: passed, ¬ node.Refuses kind :=
          List.forall_mem_cons.mpr ⟨unrefused, later⟩
        exact ⟨fault :: passed, last, .down edge path, accepted, throughout⟩
  · rintro ⟨passed, last, path, accepted, unrefused⟩
    induction path with
    | here fault =>
      apply (isKind_iff kind fault).mpr
      exact .inl accepted
    | down edge further inductionHypothesis =>
      obtain ⟨here, later⟩ := List.forall_mem_cons.mp unrefused
      apply (isKind_iff kind _).mpr
      exact .inr ⟨here, _, edge, inductionHypothesis accepted later⟩

/-- A listed name is contributed by a node of the walk. -/
theorem mem_types_iff (kind : String) (fault : Fault) :
    kind ∈ fault.types ↔ ∃ node ∈ fault.preorder, kind ∈ node.ownKinds := by
  rw [types, mem_distinctNames, toList_walk, List.mem_flatMap]

/-- A node accepts the names that it contributes to a listing. -/
theorem accepts_of_mem_ownKinds {kind : String} {node : Fault} (listed : kind ∈ node.ownKinds) :
    node.Accepts kind := by
  rcases List.mem_append.mp listed with declared | answered
  · exact .inl declared
  · exact .inr (by simpa using (List.mem_filter.mp answered).2)

/-- A node that lists its predicates contributes the names that it accepts. -/
theorem mem_ownKinds_of_accepts {kind : String} {node : Fault}
    (lists : node.predicate? kind = some true → kind ∈ node.predicateNames)
    (accepted : node.Accepts kind) : kind ∈ node.ownKinds := by
  rcases accepted with declared | answered
  · exact List.mem_append_left _ declared
  · apply List.mem_append_right
    apply List.mem_filter.mpr
    exact ⟨lists answered, by simpa using answered⟩

/-- With listed predicates, the listing has exactly the names that some node accepts. -/
theorem mem_types_iff_accepts {kind : String} {fault : Fault} (listed : fault.ListsPredicates) :
    kind ∈ fault.types ↔ ∃ node ∈ fault.preorder, node.Accepts kind := by
  rw [mem_types_iff]
  constructor
  · rintro ⟨node, visited, contributed⟩
    exact ⟨node, visited, accepts_of_mem_ownKinds contributed⟩
  · rintro ⟨node, visited, accepted⟩
    have lists := listed node (by rwa [toList_walk]) kind
    exact ⟨node, visited, mem_ownKinds_of_accepts lists accepted⟩

/-- Asking for a name and listing names, compared on every graph: a name applies exactly
when a path accepts it before any refusal; a name that applies is listed; and where no
visited node's predicate answers no, a listed name applies. -/
theorem isKind_iff_path (fault : Fault) (kind : String) (listed : fault.ListsPredicates) :
    (fault.isKind kind = true ↔ fault.PathAccepting kind) ∧
      (fault.isKind kind = true → kind ∈ fault.types) ∧
      ((∀ node ∈ fault.walk.toList, node.predicate? kind ≠ some false) →
        (fault.isKind kind = true ↔ kind ∈ fault.types)) := by
  have applies := isKind_iff_accepting kind fault
  have included : fault.isKind kind = true → kind ∈ fault.types := by
    intro asked
    obtain ⟨passed, last, path, accepted, _⟩ := applies.mp asked
    have visited : last ∈ fault.preorder := (mem_preorder_iff fault last).mpr ⟨passed, path⟩
    exact (mem_types_iff_accepts listed).mpr ⟨last, visited, accepted⟩
  refine ⟨applies, included, ?_⟩
  intro unrefused
  constructor
  · exact included
  · intro named
    obtain ⟨last, visited, accepted⟩ := (mem_types_iff_accepts listed).mp named
    obtain ⟨passed, path⟩ := (mem_preorder_iff fault last).mp visited
    apply applies.mpr
    refine ⟨passed, last, path, accepted, ?_⟩
    intro node member refused
    have walked : node ∈ fault.walk.toList := by
      rw [toList_walk]
      exact path.passed_visited member
    exact unrefused node walked refused.1

/-- A network failure whose node says that it is no timeout, above a cause declared as one. -/
def noTimeout : Fault :=
  custom (.serial 1)
    { typeName := "NoTimeout", concrete := "noTimeout", display := none, message := none
      types := [], tags := [], stack := none
      predicate := fun name =>
        if name = "Timeout" then some false else if name = "Network" then some true else none
      predicateNames := ["Timeout", "Network"] }
    (some (wrapped (.serial 0) (.types ["Timeout"]) todo)) none

/-- Below a refusal a declared name is listed, but no path accepts it. The other name of the
same fault is never refused, and being listed it applies. -/
theorem isKind_iff_path_noTimeout :
    noTimeout.ListsPredicates ∧ ¬ noTimeout.PathAccepting "Timeout" ∧
      "Timeout" ∈ noTimeout.types ∧
      (∀ node ∈ noTimeout.walk.toList, node.predicate? "Network" ≠ some false) ∧
      noTimeout.isKind "Network" = true := by
  have lists : noTimeout.ListsPredicates := by
    rw [ListsPredicates, toList_walk]
    simp only [noTimeout, preorder, List.forall_mem_cons, predicate?, predicateNames]
    refine ⟨fun name answered => ?_, by simp, by simp, by simp⟩
    split at answered
    · simp at answered
    · split at answered <;> simp_all
  have unrefused : ∀ node ∈ noTimeout.walk.toList, node.predicate? "Network" ≠ some false := by
    decide
  refine ⟨lists, ?_, by decide, unrefused, ?_⟩
  · exact mt (isKind_iff_path noTimeout "Timeout" lists).1.mpr (by decide)
  · exact ((isKind_iff_path noTimeout "Network" lists).2.2 unrefused).mpr (by decide)

end CauseTree.Fault
