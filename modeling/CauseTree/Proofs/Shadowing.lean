import CauseTree.Proofs.Lookups
import CauseTree.Proofs.Recovery

/-!
# Shadowed tags

Several tags of a fault may have one name. A lookup takes the first of them on its walk, so
the outermost tag shadows those further in. A snapshot keeps one value of each name for a
line, and it takes that value from the sorted tags of the line: it keeps the least value,
wherever on the line it stands.

A lookup on a rebuilt fault therefore finds the least value on the first line that has the
name. It finds what a lookup on the fault itself finds exactly when no tag on that line has
a value below that of the outermost one.
-/

namespace CauseTree

namespace Tag

/-- A lookup goes on in the second list when the first one has no tag of the name. -/
theorem lookup_append (name : String) (before after : List Tag) :
    lookup name (before ++ after) = (lookup name before).or (lookup name after) := by
  simp only [lookup, List.find?_append, Option.map_or]

/-- A lookup that finds nothing tells that no tag has the name. -/
theorem lookup_eq_none_iff (name : String) (tags : List Tag) :
    lookup name tags = none ↔ ∀ tag ∈ tags, tag.name ≠ name := by
  simp [lookup]

/-- A value that is found belongs to a tag of the name. -/
theorem mem_of_lookup {name value : String} {tags : List Tag}
    (found : lookup name tags = some value) : ∃ tag ∈ tags, tag.name = name ∧ tag.value = value := by
  obtain ⟨tag, first, same⟩ := Option.map_eq_some_iff.mp found
  have named : tag.name = name := by simpa using List.find?_some first
  exact ⟨tag, List.mem_of_find?_eq_some first, named, same⟩

/-- Among tags in order a lookup finds the least value of the name. -/
theorem lookup_least {name value : String} {tags : List Tag} (ordered : tags.Pairwise (· ≤ ·))
    (found : lookup name tags = some value) :
    ∀ tag ∈ tags, tag.name = name → value ≤ tag.value := by
  induction tags with
  | nil => simp
  | cons first rest inductionHypothesis =>
    obtain ⟨below, tail⟩ := List.pairwise_cons.mp ordered
    by_cases hit : first.name = name
    · obtain rfl : first.value = value := by simpa [lookup, hit] using found
      refine List.forall_mem_cons.mpr ⟨fun _ => String.le_refl _, ?_⟩
      intro tag later named
      rcases below tag later with less | ⟨_, low⟩
      · exact absurd (hit.trans named.symm ▸ less) (String.lt_irrefl _)
      · exact low
    · have foundLater : lookup name rest = some value := by simpa [lookup, hit] using found
      exact List.forall_mem_cons.mpr
        ⟨fun named => absurd named hit, inductionHypothesis tail foundLater⟩

/-- Sorting tags brings in no name and drops none. -/
theorem lookup_sort_eq_none_iff (name : String) (tags : List Tag) :
    lookup name (Ordered.sort tags) = none ↔ lookup name tags = none := by
  simp only [lookup_eq_none_iff, (Ordered.sort_perm tags).mem_iff]

/-- Sorting tags changes nothing for a lookup exactly when the value that it finds is the
least one of the name. -/
theorem lookup_sort_iff {name value : String} {tags : List Tag}
    (found : lookup name tags = some value) :
    lookup name (Ordered.sort tags) = some value ↔
      ∀ tag ∈ tags, tag.name = name → value ≤ tag.value := by
  constructor
  · intro kept tag member
    exact lookup_least (sort_ordered tags) kept tag ((Ordered.sort_perm tags).mem_iff.mpr member)
  · intro least
    cases sorted : lookup name (Ordered.sort tags) with
    | none =>
      have missing := (lookup_sort_eq_none_iff name tags).mp sorted
      exact absurd (found.symm.trans missing) (Option.some_ne_none value)
    | some other =>
      obtain ⟨tag, member, named, rfl⟩ := mem_of_lookup found
      obtain ⟨otherTag, otherMember, otherNamed, rfl⟩ := mem_of_lookup sorted
      have above := least otherTag ((Ordered.sort_perm tags).mem_iff.mp otherMember) otherNamed
      have below := lookup_least (sort_ordered tags) sorted tag
        ((Ordered.sort_perm tags).mem_iff.mpr member) named
      rw [String.le_antisymm below above]

end Tag

namespace TagMap

/-- Placing a tag with its new value sets the value of its name and no other. -/
theorem lookup_place (tag : Tag) (tags : List Tag) (name : String) :
    Tag.lookup name (place (fun _ new => new) tag tags) =
      if tag.name = name then some tag.value else Tag.lookup name tags := by
  induction tags with
  | nil => by_cases named : tag.name = name <;> simp [place, Tag.lookup, named]
  | cons first rest inductionHypothesis =>
    simp only [place]
    split
    · by_cases named : tag.name = name <;> simp [Tag.lookup, named]
    · split
      · next same => by_cases named : tag.name = name <;> simp [Tag.lookup, ← same, named]
      · next different =>
        rw [← List.singleton_append, Tag.lookup_append, inductionHypothesis,
          ← List.singleton_append (l := rest), Tag.lookup_append]
        by_cases named : tag.name = name
        · have passed : first.name ≠ name := fun hit => different (named.trans hit.symm)
          simp [named, Tag.lookup, passed]
        · simp [named]

/-- The map in which the first tag of each name counts answers as a lookup in the list. -/
theorem get?_ofFirst (tags : List Tag) (name : String) :
    (ofFirst tags).get? name = Tag.lookup name tags := by
  induction tags with
  | nil => rfl
  | cons tag rest inductionHypothesis =>
    have placed : (ofFirst (tag :: rest)).get? name =
        if tag.name = name then some tag.value else (ofFirst rest).get? name :=
      lookup_place tag (ofFirst rest).entries name
    rw [placed, inductionHypothesis]
    by_cases named : tag.name = name <;> simp [Tag.lookup, named]

/-- The first of two tags of one name counts. -/
example :
    (ofFirst [⟨"k", "1"⟩, ⟨"a", "x"⟩, ⟨"k", "2"⟩]).entries = [⟨"a", "x"⟩, ⟨"k", "1"⟩] := by
  decide

end TagMap

namespace Fault

/-- The tags of a fault's line, outermost first. -/
def lineTags (fault : Fault) : List Tag := fault.line.flatMap ownTags

/-- A lookup over several faults is a lookup in the tags gathered from each of them. -/
theorem lookupTagIn_gathered {name : String} {faults : List Fault} {gather : Fault → List Tag}
    (each : ∀ fault ∈ faults, fault.lookupTag name = Tag.lookup name (gather fault)) :
    lookupTagIn name faults = Tag.lookup name (faults.flatMap gather) := by
  induction faults with
  | nil => rfl
  | cons fault rest inductionHypothesis =>
    obtain ⟨here, later⟩ := List.forall_mem_cons.mp each
    rw [lookupTagIn, here, inductionHypothesis later, List.flatMap_cons, Tag.lookup_append]

/-- A lookup finds the first tag of the name among all tags on the walk. -/
theorem lookupTag_eq_lookup (name : String) (fault : Fault) :
    fault.lookupTag name = Tag.lookup name (fault.walk.toList.flatMap ownTags) := by
  induction fault using cause_induction with
  | step fault inductionHypothesis =>
    have below := lookupTagIn_gathered fun cause edge =>
      inductionHypothesis cause (next_subset fault edge)
    rw [lookupTag_eq, below, toList_walk, preorder_eq, preorders_eq, List.flatMap_cons,
      Tag.lookup_append, List.flatMap_assoc]
    simp only [toList_walk]

/-- Without doubly linked nodes a lookup reads the lines of the outline one after another. -/
theorem lookupTag_eq_lines (name : String) (fault : Fault) (single : fault.SingleLinked) :
    fault.lookupTag name = Tag.lookup name (fault.heads.flatMap lineTags) := by
  rw [lookupTag_eq_lookup, flatMap_walk fault single]
  rfl

/-- A lookup over rebuilt causes is a lookup in the tags gathered from each of the causes,
those without content included. -/
theorem lookupTagIn_rebuildAll {name : String} {stack : StackTrace} {parent : NodeId}
    {causes : List Fault} {gather : Fault → List Tag}
    (each : ∀ cause ∈ causes, ∀ id, (cause.snapshot.rebuild stack id).bind (lookupTag name) =
      Tag.lookup name (gather cause)) (index : Nat) :
    lookupTagIn name (Snapshot.rebuildAll stack parent index (causes.map snapshot)) =
      Tag.lookup name (causes.flatMap gather) := by
  induction causes generalizing index with
  | nil => rfl
  | cons cause rest inductionHypothesis =>
    obtain ⟨here, later⟩ := List.forall_mem_cons.mp each
    rw [List.map_cons, Snapshot.rebuildAll, List.flatMap_cons, Tag.lookup_append,
      ← here (.within parent index), ← inductionHypothesis later (index + 1)]
    cases cause.snapshot.rebuild stack (.within parent index) <;> rfl

/-- A lookup on what is rebuilt from a snapshot finds the first tag of the name among those
that the outline shows. Where nothing is rebuilt the outline shows no tag. -/
theorem lookupTag_rebuild (name : String) (stack : StackTrace) (fault : Fault) (id : NodeId) :
    (fault.snapshot.rebuild stack id).bind (lookupTag name) =
      Tag.lookup name (fault.outline.entries.flatMap Entry.tags) := by
  induction fault using outline_induction generalizing id with
  | step fault inductionHypothesis =>
    have kept := TagMap.get?_ofFirst fault.entry.tags name
    rw [entries_eq, List.flatMap_cons, List.flatMap_assoc, Tag.lookup_append, ← kept]
    cases content : fault.snapshot.isNil with
    | true =>
      rw [(Snapshot.rebuild_eq_none_iff stack id fault.snapshot).mpr content]
      rw [snapshot_eq] at content
      simp only [Snapshot.isNil, Bool.and_eq_true, List.isEmpty_iff, List.map_eq_nil_iff] at content
      obtain ⟨⟨⟨_, untagged⟩, _⟩, causeless⟩ := content
      rw [TagMap.eq_empty untagged, causeless]
      rfl
    | false =>
      rw [Snapshot.rebuild_eq_some stack id fault.snapshot content, snapshot_eq]
      simp only [Option.bind_some, lookupTag, ownTags]
      rw [lookupTagIn_rebuildAll inductionHypothesis]
      rfl

/-- On the first of the lines that has the name, the outermost value of the name is the
least one. -/
def OutermostLeast (name : String) (heads : List Fault) : Prop :=
  ∀ head, (heads.find? fun head => (Tag.lookup name head.lineTags).isSome) = some head →
    ∀ outermost, Tag.lookup name head.lineTags = some outermost →
      ∀ tag ∈ head.lineTags, tag.name = name → outermost ≤ tag.value

/-- Sorting the tags of each line changes nothing for a lookup exactly when the value that
it finds is the least one of its line. The induction passes over lines without the name. -/
theorem lookup_entries_iff (name : String) (heads : List Fault) :
    Tag.lookup name ((heads.map entry).flatMap Entry.tags) =
        Tag.lookup name (heads.flatMap lineTags) ↔ OutermostLeast name heads := by
  induction heads with
  | nil => simp [OutermostLeast, Tag.lookup]
  | cons head rest inductionHypothesis =>
    have sorted : head.entry.tags = Ordered.sort head.lineTags := rfl
    rw [List.map_cons, List.flatMap_cons, List.flatMap_cons, Tag.lookup_append, Tag.lookup_append,
      sorted]
    cases found : Tag.lookup name head.lineTags with
    | none =>
      rw [(Tag.lookup_sort_eq_none_iff name head.lineTags).mpr found, Option.none_or,
        Option.none_or, inductionHypothesis]
      simp [OutermostLeast, found]
    | some outermost =>
      have settled := Tag.lookup_sort_iff found
      cases kept : Tag.lookup name (Ordered.sort head.lineTags) with
      | none =>
        have missing := (Tag.lookup_sort_eq_none_iff name head.lineTags).mp kept
        simp [missing] at found
      | some least =>
        rw [kept] at settled
        simpa [OutermostLeast, found] using settled

/-- A rebuilt fault answers a lookup with the first tag of the name that the outline shows;
the tags of each line are shown sorted. Without doubly linked nodes that is the answer of
the fault itself exactly when, on the first line that has the name, no value of the name is
below the outermost one. -/
theorem lookupTag_rebuilt (fault : Fault) (stack : StackTrace) (id : NodeId) (rebuilt : Fault)
    (made : fault.snapshot.rebuild stack id = some rebuilt) (name : String) :
    rebuilt.lookupTag name = Tag.lookup name (fault.outline.entries.flatMap Entry.tags) ∧
      (fault.SingleLinked →
        (rebuilt.lookupTag name = fault.lookupTag name ↔ OutermostLeast name fault.heads)) := by
  have answer : rebuilt.lookupTag name =
      Tag.lookup name (fault.outline.entries.flatMap Entry.tags) := by
    have rebuilding := lookupTag_rebuild name stack fault id
    rwa [made, Option.bind_some] at rebuilding
  refine ⟨answer, ?_⟩
  intro single
  rw [answer, entries_outline, lookupTag_eq_lines name fault single]
  exact lookup_entries_iff name fault.heads

/-- A fault that is tagged with a host, and with another host around it. -/
def movedHost : Fault :=
  wrapped (.serial 1) (.tags [⟨"host", "web"⟩, ⟨"port", "80"⟩])
    (wrapped (.serial 0) (.tags [⟨"host", "db"⟩, ⟨"port", "80"⟩]) todo)

/-- What a lookup finds can change: the moved host is another one after it was rebuilt. -/
theorem lookupTag_changed :
    movedHost.SingleLinked ∧ ∃ rebuilt,
      movedHost.snapshot.rebuild .empty (.serial 2) = some rebuilt ∧
      rebuilt.lookupTag "host" ≠ movedHost.lookupTag "host" := by
  have single : movedHost.SingleLinked := by
    unfold SingleLinked
    decide
  have content : movedHost.snapshot.isNil = false := by decide
  have made := Snapshot.rebuild_eq_some .empty (.serial 2) movedHost.snapshot content
  have answer := lookupTag_rebuild "host" .empty movedHost (.serial 2)
  rw [made, Option.bind_some] at answer
  refine ⟨single, _, made, ?_⟩
  rw [answer]
  decide

/-- The outermost host is lost, since the inner one comes first in order; the port, which
has one value, is kept. -/
theorem lookupTag_rebuilt_movedHost :
    movedHost.SingleLinked ∧ ∃ rebuilt,
      movedHost.snapshot.rebuild .empty (.serial 2) = some rebuilt ∧
      movedHost.lookupTag "host" = some "web" ∧ rebuilt.lookupTag "host" = some "db" ∧
      ¬ OutermostLeast "host" movedHost.heads ∧
      rebuilt.lookupTag "port" = movedHost.lookupTag "port" := by
  have single : movedHost.SingleLinked := by
    unfold SingleLinked
    decide
  have content : movedHost.snapshot.isNil = false := by decide
  have made := Snapshot.rebuild_eq_some .empty (.serial 2) movedHost.snapshot content
  obtain ⟨host, agrees⟩ := lookupTag_rebuilt movedHost .empty (.serial 2) _ made "host"
  obtain ⟨port, _⟩ := lookupTag_rebuilt movedHost .empty (.serial 2) _ made "port"
  have lost := host.trans (by decide : _ = some "db")
  refine ⟨single, _, made, by decide, lost, ?_, port.trans (by decide)⟩
  intro least
  have kept := (agrees single).mpr least
  rw [lost] at kept
  exact absurd kept (by decide)

end Fault

end CauseTree
