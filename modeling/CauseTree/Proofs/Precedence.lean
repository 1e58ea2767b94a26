import CauseTree.Proofs.Aggregates
import CauseTree.Proofs.Shadowing

/-!
# Tags of one name in one layer

A layer of tags may give several values to a name. The tags are sorted when the layer is put
on, by name and then by value, and a lookup takes the first tag of the name that it comes
to. So of the values in the layer it finds the least one, wherever that stands in the list
that was given. Where the layer does not have the name, it goes on to the fault inside.

The order of the given list is gone by then. A lookup finds the first value as given exactly
when no other value of the name in the list is below it.
-/

namespace CauseTree

namespace Tag

/-- The tag has the name, and no tag of the name among these has a value below its own. -/
def LeastOf (name : String) (tags : List Tag) (tag : Tag) : Prop :=
  tag ∈ tags ∧ tag.name = name ∧ ∀ other ∈ tags, other.name = name → tag.value ≤ other.value

/-- Once tags are sorted, a lookup finds the least value of a name that they have. -/
theorem lookup_sort_least {name first : String} {tags : List Tag}
    (given : lookup name tags = some first) :
    ∃ tag, LeastOf name tags tag ∧ lookup name (Ordered.sort tags) = some tag.value := by
  cases found : lookup name (Ordered.sort tags) with
  | none =>
    rw [(lookup_sort_eq_none_iff name tags).mp found] at given
    cases given
  | some least =>
    obtain ⟨tag, member, named, rfl⟩ := mem_of_lookup found
    refine ⟨tag, ⟨(Ordered.sort_perm tags).mem_iff.mp member, named, ?_⟩, rfl⟩
    intro other otherMember otherNamed
    exact lookup_least (sort_ordered tags) found other
      ((Ordered.sort_perm tags).mem_iff.mpr otherMember) otherNamed

end Tag

/-- A lookup on a fault under a layer of tags looks among the sorted tags first. -/
theorem lookupTag_add (registry : Registry) (journal : Journal) (fault : Fault)
    (list : List Tag) (name : String) :
    ((fault.add (.tags list)).run registry journal).1.lookupTag name =
      (Tag.lookup name (Ordered.sort list)).or
        ((registry.adapt fault journal).1.lookupTag name) := by
  rw [run_add, run_annotate, Layer.notes, Fault.under, Fault.under, Fault.lookupTag_wrapped,
    Note.addedTags]

/-- Under a layer of tags a lookup finds the least value that the layer gives to the name,
and where it gives none, what is found on the form that the registry gives to the fault.
This is what is found first in the list as given exactly when no value of the name in the
list is below the first one. -/
theorem lookupTag_tagged (registry : Registry) (journal : Journal) (fault : Fault)
    (list : List Tag) (name : String) :
    (Tag.lookup name list = none →
      ((fault.add (.tags list)).run registry journal).1.lookupTag name =
        (registry.adapt fault journal).1.lookupTag name) ∧
    (∀ first, Tag.lookup name list = some first → ∃ tag, Tag.LeastOf name list tag ∧
      ((fault.add (.tags list)).run registry journal).1.lookupTag name = some tag.value) ∧
    (((fault.add (.tags list)).run registry journal).1.lookupTag name =
        (Tag.lookup name list).or ((registry.adapt fault journal).1.lookupTag name) ↔
      ∀ first, Tag.lookup name list = some first →
        ∀ tag ∈ list, tag.name = name → first ≤ tag.value) := by
  rw [lookupTag_add]
  cases given : Tag.lookup name list with
  | none =>
    have missing := (Tag.lookup_sort_eq_none_iff name list).mpr given
    simp [missing]
  | some first =>
    obtain ⟨tag, least, found⟩ := Tag.lookup_sort_least given
    have settled := Tag.lookup_sort_iff given
    refine ⟨by simp, fun _ _ => ⟨tag, least, by rw [found, Option.some_or]⟩, ?_⟩
    -- sorting keeps the first value as given exactly when it is the least one
    rw [found] at settled ⊢
    simpa using settled

/-- Two hosts in one list, the second of which comes first in order. -/
def twoHosts : List Tag := [⟨"host", "web"⟩, ⟨"host", "db"⟩]

/-- A placeholder that is tagged with a host. -/
def hostMissing : Fault := .wrapped (.serial 1) (.tags [⟨"host", "db"⟩]) .todo

/-- Under a layer with two hosts the first one as given is not found, and given the other way
round it is. A host of the fault inside is found only where the layer has none. -/
theorem lookupTag_tagged_twoHosts :
    Tag.lookup "host" twoHosts = some "web" ∧
      ((Fault.todo.add (.tags twoHosts)).run [] ⟨0, #[]⟩).1.lookupTag "host" = some "db" ∧
      ((Fault.todo.add (.tags twoHosts)).run [] ⟨0, #[]⟩).1.lookupTag "host" ≠
        (Tag.lookup "host" twoHosts).or (Fault.todo.lookupTag "host") ∧
      ((Fault.todo.add (.tags twoHosts.reverse)).run [] ⟨0, #[]⟩).1.lookupTag "host" =
        some "db" ∧
      ((hostMissing.add (.tags [⟨"port", "80"⟩])).run [] ⟨2, #[]⟩).1.lookupTag "host" =
        some "db" := by
  have first : Tag.lookup "host" twoHosts = some "web" := by decide
  obtain ⟨_, _, decided⟩ := lookupTag_tagged [] ⟨0, #[]⟩ .todo twoHosts "host"
  obtain ⟨absent, _⟩ := lookupTag_tagged [] ⟨2, #[]⟩ hostMissing [⟨"port", "80"⟩] "host"
  refine ⟨first, by decide, ?_, by decide, (absent (by decide)).trans (by decide)⟩
  intro same
  have least := decided.mp same "web" first ⟨"host", "db"⟩ (by decide) rfl
  exact absurd least (by decide)

end CauseTree
