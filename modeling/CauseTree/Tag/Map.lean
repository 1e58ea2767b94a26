import CauseTree.Tag

/-!
# Tag maps

A tag map gives each name at most one value. Its tags stand in increasing order of
their names, and this order is part of the type, so two maps that give the same
values to the same names are equal. A map is built from a list in two ways: a
snapshot lets the first tag of a name win, and a written object lets the last.
-/

namespace CauseTree

/-- Tags with distinct names, in increasing order of the names. -/
structure TagMap where
  entries : List Tag
  ordered : entries.Pairwise fun a b => a.name < b.name
  deriving DecidableEq

namespace TagMap

/-- Puts a tag at the place of its name. Where the name has a value already,
`choose` is given that value and the new one. -/
def place (choose : String → String → String) (tag : Tag) : List Tag → List Tag
  | [] => [tag]
  | t :: rest =>
    if tag.name < t.name then tag :: t :: rest
    else if tag.name = t.name then ⟨t.name, choose t.value tag.value⟩ :: rest
    else t :: place choose tag rest

/-- Placing brings in no name but the tag's own. -/
theorem name_of_mem_place (choose : String → String → String) (tag placed : Tag)
    (tags : List Tag) (member : placed ∈ place choose tag tags) :
    placed.name = tag.name ∨ ∃ t ∈ tags, placed.name = t.name := by
  induction tags with
  | nil =>
    simp only [place, List.mem_singleton] at member
    exact .inl (congrArg Tag.name member)
  | cons t rest inductionHypothesis =>
    simp only [place] at member
    split at member
    · rcases List.mem_cons.mp member with rfl | later
      · exact .inl rfl
      · exact .inr ⟨placed, later, rfl⟩
    · split at member
      · rcases List.mem_cons.mp member with rfl | later
        · exact .inr ⟨t, List.mem_cons_self, rfl⟩
        · exact .inr ⟨placed, List.mem_cons_of_mem _ later, rfl⟩
      · rcases List.mem_cons.mp member with rfl | later
        · exact .inr ⟨placed, List.mem_cons_self, rfl⟩
        · rcases inductionHypothesis later with same | ⟨u, inside, same⟩
          · exact .inl same
          · exact .inr ⟨u, List.mem_cons_of_mem _ inside, same⟩

/-- Placing keeps the names in increasing order. -/
theorem place_ordered (choose : String → String → String) (tag : Tag) (tags : List Tag)
    (ordered : tags.Pairwise fun a b => a.name < b.name) :
    (place choose tag tags).Pairwise fun a b => a.name < b.name := by
  induction tags with
  | nil => simp [place]
  | cons t rest inductionHypothesis =>
    obtain ⟨above, tail⟩ := List.pairwise_cons.mp ordered
    simp only [place]
    split
    · next less =>
      refine List.pairwise_cons.mpr ⟨?_, ordered⟩
      intro u member
      rcases List.mem_cons.mp member with rfl | later
      · exact less
      · exact String.lt_trans less (above u later)
    · next notLess =>
      split
      · exact List.pairwise_cons.mpr ⟨above, tail⟩
      · next different =>
        refine List.pairwise_cons.mpr ⟨?_, inductionHypothesis tail⟩
        intro u member
        rcases name_of_mem_place choose tag u rest member with same | ⟨v, inside, same⟩
        · rcases Ordered.text_trichotomy tag.name t.name with less | equal | more
          · exact absurd less notLess
          · exact absurd equal different
          · exact same ▸ more
        · exact same ▸ above v inside

/-- The map without tags. -/
def empty : TagMap := ⟨[], List.Pairwise.nil⟩

instance : Inhabited TagMap := ⟨empty⟩

/-- Adds a tag unless its name has a value. -/
def keep (map : TagMap) (tag : Tag) : TagMap :=
  ⟨place (fun old _ => old) tag map.entries, place_ordered _ tag map.entries map.ordered⟩

/-- Sets the value of the tag's name. -/
def put (map : TagMap) (tag : Tag) : TagMap :=
  ⟨place (fun _ new => new) tag map.entries, place_ordered _ tag map.entries map.ordered⟩

/-- The map in which the first tag of each name counts. The tags go in from the last to
the first, so that tags in order each go to the front. -/
def ofFirst (tags : List Tag) : TagMap := tags.foldr (fun tag map => map.put tag) empty

/-- The map in which the last tag of each name counts. The tags go in from the last to
the first here too. -/
def ofLast (tags : List Tag) : TagMap := tags.foldr (fun tag map => map.keep tag) empty

/-- Whether the map gives no name a value. -/
def isEmpty (map : TagMap) : Bool := map.entries.isEmpty

/-- The value of a name. -/
def get? (map : TagMap) (name : String) : Option String := Tag.lookup name map.entries

end TagMap

end CauseTree
