import CauseTree.Proofs.Classification
import CauseTree.Proofs.Reentry
import Mathlib.Data.List.Perm.Basic

/-!
# Type names and tags under the builders

What a graph says about type names and tags can be read off its root and off what a walk
reaches from there: the tags of a fault are its own and those of its direct causes, sorted
together, and likewise for the listing of type names. A shared cause is counted once for
each place where it stands.

A builder puts notes around a cause or joins causes, so its effect follows. Only type
names change what a fault is, and only tags change what it is tagged with; a message or a
stack trace changes neither. The cause inside is always the form that the registry gives
to the fault.
-/

namespace CauseTree

namespace Note

/-- The type names that a note adds. -/
def addedTypes : Note → List String
  | .types names => names
  | _ => []

/-- The tags that a note adds. -/
def addedTags : Note → List Tag
  | .tags list => list
  | _ => []

end Note

/-- Tags that are sorted among others are sorted with all of them. -/
theorem Tag.sort_nested (inner outer rest : List Tag) :
    Ordered.sort (outer ++ Ordered.sort (inner ++ rest)) = Ordered.sort (inner ++ outer ++ rest) := by
  apply Tag.sort_congr
  refine ((Ordered.sort_perm (inner ++ rest)).append_left outer).trans ?_
  simpa only [List.append_assoc] using List.perm_append_comm_assoc outer inner rest

namespace Fault

/-- Names that are distinct among others are distinct with all of them. -/
theorem distinctNames_nested (inner outer rest : List String) :
    distinctNames (outer ++ distinctNames (inner ++ rest)) =
      distinctNames (inner ++ outer ++ rest) := by
  apply distinctNames_congr
  intro name
  simp only [List.mem_append, mem_distinctNames, or_assoc]
  exact or_left_comm

/-- Tags that walks gather are sorted among others as the tags of the faults are, from which
the walks start. -/
theorem sort_walks (own : List Tag) (faults : List Fault) :
    Ordered.sort (own ++ (faults.flatMap preorder).flatMap ownTags) =
      Ordered.sort (own ++ faults.flatMap tags) := by
  have gathered : (faults.flatMap fun fault => fault.preorder.flatMap ownTags).Perm
      (faults.flatMap tags) := by
    apply List.Perm.flatMap_left
    intro fault _
    rw [tags, toList_walk]
    exact (Ordered.sort_perm _).symm
  rw [List.flatMap_assoc]
  exact Tag.sort_congr (gathered.append_left own)

/-- Type names that walks gather are the type names of the faults from which they start. -/
theorem distinctNames_walks (own : List String) (faults : List Fault) :
    distinctNames (own ++ (faults.flatMap preorder).flatMap ownKinds) =
      distinctNames (own ++ faults.flatMap types) := by
  rw [List.flatMap_assoc]
  apply distinctNames_congr
  intro name
  simp only [List.mem_append, List.mem_flatMap, types, mem_distinctNames, toList_walk]

/-- The tags of a fault are its own and those of what a walk reaches from it. -/
theorem tags_eq (fault : Fault) :
    fault.tags = Ordered.sort (fault.ownTags ++ fault.next.flatMap tags) := by
  rw [tags, toList_walk, preorder_eq, preorders_eq, List.flatMap_cons, sort_walks]

/-- The type names of a fault are those that it contributes and those of what a walk
reaches from it. -/
theorem types_eq (fault : Fault) :
    fault.types = distinctNames (fault.ownKinds ++ fault.next.flatMap types) := by
  rw [types, toList_walk, preorder_eq, preorders_eq, List.flatMap_cons, distinctNames_walks]

section Wrapped

variable (id : NodeId) (note : Note) (cause : Fault)

/-- A wrapper declares the tags of its note. -/
theorem ownTags_wrapped : (wrapped id note cause).ownTags = note.addedTags := by
  cases note <;> rfl

/-- A wrapper declares the type names of its note. -/
theorem ownTypes_wrapped : (wrapped id note cause).ownTypes = note.addedTypes := by
  cases note <;> rfl

/-- A wrapper contributes the type names of its note. -/
theorem ownKinds_wrapped : (wrapped id note cause).ownKinds = note.addedTypes := by
  rw [ownKinds, ownTypes_wrapped]
  exact List.append_nil _

/-- A wrapper adds the tags of its note to those of its cause. -/
theorem tags_wrapped :
    (wrapped id note cause).tags = Ordered.sort (note.addedTags ++ cause.tags) := by
  rw [tags_eq, ownTags_wrapped]
  simp [next, cause?]

/-- A wrapper adds the type names of its note to those of its cause. -/
theorem types_wrapped :
    (wrapped id note cause).types = distinctNames (note.addedTypes ++ cause.types) := by
  rw [types_eq, ownKinds_wrapped]
  simp [next, cause?]

/-- A name applies to a wrapper when its note has the name, or when it applies to the cause. -/
theorem isKind_wrapped (kind : String) :
    (wrapped id note cause).isKind kind = true ↔
      kind ∈ note.addedTypes ∨ cause.isKind kind = true := by
  rw [isKind_iff, Accepts, Refuses, ownTypes_wrapped]
  simp [predicate?, next, cause?]

/-- The tags of a wrapper's note count before those of its cause. -/
theorem lookupTag_wrapped (name : String) :
    (wrapped id note cause).lookupTag name =
      (Tag.lookup name note.addedTags).or (cause.lookupTag name) := by
  rw [lookupTag, ownTags_wrapped]

end Wrapped

section Under

variable (serial : Nat) (cause : Fault) (notes : List Note)

/-- Notes around a cause add their tags. -/
theorem tags_under :
    (cause.under serial notes).tags =
      Ordered.sort (notes.flatMap Note.addedTags ++ cause.tags) := by
  induction notes generalizing serial cause with
  | nil => exact (Tag.sort_eq_self (Tag.sort_ordered _)).symm
  | cons note rest inductionHypothesis =>
    rw [under, inductionHypothesis, tags_wrapped, List.flatMap_cons, Tag.sort_nested]

/-- Notes around a cause add their type names. -/
theorem types_under :
    (cause.under serial notes).types =
      distinctNames (notes.flatMap Note.addedTypes ++ cause.types) := by
  induction notes generalizing serial cause with
  | nil => exact (distinctNames_distinctNames _).symm
  | cons note rest inductionHypothesis =>
    rw [under, inductionHypothesis, types_wrapped, List.flatMap_cons, distinctNames_nested]

/-- A name applies under notes when one of them has the name, or when it applies to the
cause. -/
theorem isKind_under (kind : String) :
    (cause.under serial notes).isKind kind = true ↔
      kind ∈ notes.flatMap Note.addedTypes ∨ cause.isKind kind = true := by
  induction notes generalizing serial cause with
  | nil => simp [under]
  | cons note rest inductionHypothesis =>
    rw [under, inductionHypothesis, isKind_wrapped, List.flatMap_cons, List.mem_append, or_assoc]
    exact or_left_comm

end Under

end Fault

/-- There is one adapted cause for each fault that is adapted. -/
theorem AdaptsAll.length_eq {registry : Registry} {faults causes : List Fault} {serial last : Nat}
    {consulted : List (List Consultation)}
    (adapts : AdaptsAll registry faults serial causes last consulted) :
    causes.length = faults.length := by
  induction adapts with
  | none serial => rfl
  | next first further inductionHypothesis => simp [inductionHypothesis]

end CauseTree
