import CauseTree.Ordered
import CauseTree.Text.Quoted

/-!
# Tags

A tag is a name with a value. Tags are ordered by name and then by value, in the
order of code points, and a list of tags may repeat a name or a whole tag.
-/

namespace CauseTree

/-- A named piece of context, such as the host that a request went to. -/
structure Tag where
  name : String
  value : String
  deriving DecidableEq, Repr, Inhabited

namespace Tag

/-- By name first; tags of one name by value. -/
instance : LE Tag := ⟨fun a b => a.name < b.name ∨ (a.name = b.name ∧ a.value ≤ b.value)⟩

instance : DecidableLE Tag := fun a b =>
  inferInstanceAs (Decidable (a.name < b.name ∨ (a.name = b.name ∧ a.value ≤ b.value)))

/-- The name, a colon and the quoted value. -/
def text (tag : Tag) : String := tag.name ++ ":" ++ Text.quoted tag.value

/-- The tag in the notation of a record. -/
def dump (tag : Tag) : String :=
  "Tag \x7b name: " ++ Text.quoted tag.name ++ ", value: " ++ Text.quoted tag.value ++ " \x7d"

/-- A list of tags in the notation of records, between brackets. -/
def dumpList (tags : List Tag) : String := "[" ++ ", ".intercalate (tags.map dump) ++ "]"

/-- The value of the first tag of that name. -/
def lookup (name : String) (tags : List Tag) : Option String :=
  (tags.find? fun tag => tag.name = name).map Tag.value

/-- Any two tags are comparable. -/
theorem le_total (a b : Tag) : a ≤ b ∨ b ≤ a := by
  show (a.name < b.name ∨ a.name = b.name ∧ a.value ≤ b.value) ∨
    (b.name < a.name ∨ b.name = a.name ∧ b.value ≤ a.value)
  rcases Ordered.text_trichotomy a.name b.name with less | same | more
  · exact .inl (.inl less)
  · rcases String.le_total a.value b.value with low | high
    · exact .inl (.inr ⟨same, low⟩)
    · exact .inr (.inr ⟨same.symm, high⟩)
  · exact .inr (.inl more)

/-- Tags that precede each other are the same tag. -/
theorem le_antisymm {a b : Tag} (below : a ≤ b) (above : b ≤ a) : a = b := by
  rcases below with less | ⟨same, low⟩
  · rcases above with more | ⟨equal, _⟩
    · exact absurd more (String.lt_asymm less)
    · exact absurd (equal ▸ less) (String.lt_irrefl _)
  · rcases above with more | ⟨_, high⟩
    · exact absurd (same ▸ more) (String.lt_irrefl _)
    · cases a
      cases b
      cases same
      cases String.le_antisymm low high
      rfl

end Tag

end CauseTree
