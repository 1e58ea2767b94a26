import CauseTree.Fault.Classification
import CauseTree.Tag.Map

/-!
# Canonical lists and maps

A list in order is determined by its values and by how often each of them occurs, and a
list in strictly increasing order by its values alone. Sorted tags are thus the same for
any arrangement of the same tags, and distinct names depend on which names there are and
on nothing else. Sorting again, or removing repeats again, changes nothing.

The tags of a map are in order, so a map comes back from its own sorted tags. A list of
tags in order without a repeated name is the list of tags of its map.
-/

namespace CauseTree

namespace Ordered

section Order

universe u
variable {α : Type u} [LE α] [DecidableLE α]
variable (transitive : ∀ a b c : α, a ≤ b → b ≤ c → a ≤ c) (total : ∀ a b : α, a ≤ b ∨ b ≤ a)
variable (antisymmetric : ∀ a b : α, a ≤ b → b ≤ a → a = b)
include transitive total antisymmetric

/-- Sorting a list in order changes nothing. -/
theorem sort_eq_self {values : List α} (ordered : values.Pairwise (· ≤ ·)) :
    sort values = values :=
  (sort_perm values).eq_of_pairwise (fun a b _ _ => antisymmetric a b)
    (sort_ordered transitive total values) ordered

/-- The same values in any arrangement give the same sorted list. -/
theorem sort_congr {values others : List α} (same : values.Perm others) :
    sort values = sort others :=
  ((sort_perm values).trans (same.trans (sort_perm others).symm)).eq_of_pairwise
    (fun a b _ _ => antisymmetric a b) (sort_ordered transitive total values)
    (sort_ordered transitive total others)

end Order

/-- Only a list without values is sorted to one without values. -/
theorem sort_eq_nil_iff {α : Type} [LE α] [DecidableLE α] {values : List α} :
    sort values = [] ↔ values = [] := by
  constructor
  · intro none
    exact List.nil_perm.mp (none ▸ sort_perm values)
  · rintro rfl
    rfl

/-- Names in order without their repeats are in strictly increasing order. -/
theorem distinct_increasing {names : List String} (ordered : names.Pairwise (· ≤ ·)) :
    (distinct names).Pairwise (· < ·) := by
  fun_induction distinct names with
  | case1 => exact List.Pairwise.nil
  | case2 name => exact List.pairwise_singleton _ name
  | case3 name rest inductionHypothesis =>
    exact inductionHypothesis (List.pairwise_cons.mp ordered).2
  | case4 name next rest different inductionHypothesis =>
    obtain ⟨below, tail⟩ := List.pairwise_cons.mp ordered
    refine List.pairwise_cons.mpr ⟨?_, inductionHypothesis tail⟩
    intro later member
    have listed : later ∈ next :: rest := (mem_distinct later (next :: rest)).mp member
    have nextBelow : next ≤ later := by
      rcases List.mem_cons.mp listed with rfl | further
      · exact String.le_refl _
      · exact (List.pairwise_cons.mp tail).1 later further
    rcases text_trichotomy name later with less | same | more
    · exact less
    · have above : next ≤ name := same ▸ nextBelow
      exact absurd (String.le_antisymm (below next List.mem_cons_self) above) different
    · exact absurd more (String.not_lt.mpr (below later listed))

/-- Two lists of names in strictly increasing order with the same members are equal. -/
theorem eq_of_increasing {names others : List String} (increasing : names.Pairwise (· < ·))
    (othersIncreasing : others.Pairwise (· < ·)) (same : ∀ name, name ∈ names ↔ name ∈ others) :
    names = others := by
  have unrepeated {list : List String} (strict : list.Pairwise (· < ·)) : list.Nodup := by
    apply strict.imp
    rintro a b less rfl
    exact String.lt_irrefl a less
  have arranged : names.Perm others :=
    (List.perm_ext_iff_of_nodup (unrepeated increasing) (unrepeated othersIncreasing)).mpr same
  exact arranged.eq_of_pairwise (fun a b _ _ less more => absurd more (String.lt_asymm less))
    increasing othersIncreasing

end Ordered

namespace Fault

/-- Distinct names are in strictly increasing order. -/
theorem distinctNames_increasing (names : List String) :
    (distinctNames names).Pairwise (· < ·) :=
  Ordered.distinct_increasing
    (Ordered.sort_ordered (fun _ _ _ => String.le_trans) String.le_total names)

/-- Sorting names and removing repeats changes no membership. -/
theorem mem_distinctNames (name : String) (names : List String) :
    name ∈ distinctNames names ↔ name ∈ names := by
  rw [distinctNames, Ordered.mem_distinct, (Ordered.sort_perm names).mem_iff]

/-- Distinct names depend only on which names there are. -/
theorem distinctNames_congr {names others : List String}
    (same : ∀ name, name ∈ names ↔ name ∈ others) : distinctNames names = distinctNames others :=
  Ordered.eq_of_increasing (distinctNames_increasing names) (distinctNames_increasing others)
    fun name => by rw [mem_distinctNames, mem_distinctNames, same]

/-- Distinct names stay as they are. -/
theorem distinctNames_distinctNames (names : List String) :
    distinctNames (distinctNames names) = distinctNames names :=
  distinctNames_congr fun name => mem_distinctNames name names

/-- Only from no names there are no distinct names. -/
theorem distinctNames_eq_nil_iff {names : List String} : distinctNames names = [] ↔ names = [] := by
  simp only [List.eq_nil_iff_forall_not_mem, mem_distinctNames]

end Fault

namespace Tag

/-- The order of tags is transitive. -/
theorem le_trans {a b c : Tag} (first : a ≤ b) (second : b ≤ c) : a ≤ c := by
  rcases first with less | ⟨same, low⟩
  · rcases second with further | ⟨equal, _⟩
    · exact .inl (String.lt_trans less further)
    · exact .inl (equal ▸ less)
  · rcases second with further | ⟨equal, high⟩
    · exact .inl (same ▸ further)
    · exact .inr ⟨same.trans equal, String.le_trans low high⟩

/-- Sorted tags are in order. -/
theorem sort_ordered (tags : List Tag) : (Ordered.sort tags).Pairwise (· ≤ ·) :=
  Ordered.sort_ordered (fun _ _ _ => le_trans) le_total tags

/-- Tags in order stay as they are. -/
theorem sort_eq_self {tags : List Tag} (ordered : tags.Pairwise (· ≤ ·)) :
    Ordered.sort tags = tags :=
  Ordered.sort_eq_self (fun _ _ _ => le_trans) le_total (fun _ _ => le_antisymm) ordered

/-- The same tags in any arrangement give the same sorted list. -/
theorem sort_congr {tags others : List Tag} (same : tags.Perm others) :
    Ordered.sort tags = Ordered.sort others :=
  Ordered.sort_congr (fun _ _ _ => le_trans) le_total (fun _ _ => le_antisymm) same

/-- Tags in order without a repeated name are in strictly increasing order of their names. -/
theorem increasing_of_nodup {tags : List Tag} (ordered : tags.Pairwise (· ≤ ·))
    (unrepeated : (tags.map name).Nodup) : tags.Pairwise fun a b => a.name < b.name := by
  have different : tags.Pairwise fun a b => a.name ≠ b.name := List.pairwise_map.mp unrepeated
  apply (ordered.and different).imp
  rintro a b ⟨below, differ⟩
  rcases below with less | ⟨same, _⟩
  · exact less
  · exact absurd same differ

end Tag

namespace TagMap

/-- Maps with the same tags are the same map. -/
theorem eq_of_entries {map other : TagMap} (same : map.entries = other.entries) : map = other := by
  obtain ⟨entries, ordered⟩ := map
  cases same
  rfl

/-- The tags of a map are in order. -/
theorem sort_entries (map : TagMap) : Ordered.sort map.entries = map.entries :=
  Tag.sort_eq_self (map.ordered.imp fun less => .inl less)

/-- A tag whose name precedes all others is placed in front of them. -/
theorem place_front (choose : String → String → String) {tag : Tag} {tags : List Tag}
    (first : ∀ t ∈ tags, tag.name < t.name) : place choose tag tags = tag :: tags := by
  cases tags with
  | nil => rfl
  | cons next rest => simp [place, first next List.mem_cons_self]

/-- Tags in strictly increasing order of their names are the tags of the map that they are
added to from the last to the first, whatever happens to tags of one name. -/
theorem entries_foldr {add : TagMap → Tag → TagMap} {choose : String → String → String}
    (placed : ∀ map tag, (add map tag).entries = place choose tag map.entries) {tags : List Tag}
    (increasing : tags.Pairwise fun a b => a.name < b.name) :
    (tags.foldr (fun tag map => add map tag) empty).entries = tags := by
  induction tags with
  | nil => rfl
  | cons tag rest inductionHypothesis =>
    obtain ⟨above, tail⟩ := List.pairwise_cons.mp increasing
    rw [List.foldr_cons, placed, inductionHypothesis tail]
    exact place_front choose above

/-- Tags in strictly increasing order of their names are the tags of their map. -/
theorem entries_ofFirst {tags : List Tag}
    (increasing : tags.Pairwise fun a b => a.name < b.name) : (ofFirst tags).entries = tags :=
  entries_foldr (fun _ _ => rfl) increasing

/-- A map comes back from its own tags. -/
theorem ofFirst_entries (map : TagMap) : ofFirst map.entries = map :=
  eq_of_entries (entries_ofFirst map.ordered)

/-- A map comes back from its own tags when they are read from the end too. -/
theorem ofLast_entries (map : TagMap) : ofLast map.entries = map :=
  eq_of_entries (entries_foldr (fun _ _ => rfl) map.ordered)

/-- Only from no tags there is a map without tags. -/
theorem isEmpty_ofFirst (tags : List Tag) : (ofFirst tags).isEmpty = tags.isEmpty := by
  cases tags with
  | nil => rfl
  | cons tag rest =>
    have placed (choose : String → String → String) (others : List Tag) :
        place choose tag others ≠ [] := by
      fun_cases place choose tag others <;> simp
    exact List.isEmpty_eq_false_iff.mpr (placed _ (ofFirst rest).entries)

/-- A map without tags is the empty map. -/
theorem eq_empty {map : TagMap} (empty : map.isEmpty = true) : map = .empty :=
  eq_of_entries (List.isEmpty_iff.mp empty)

end TagMap

end CauseTree
