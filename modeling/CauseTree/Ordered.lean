/-!
# Ordered lists

Sorting merges runs that are in order already. A row of runs is kept as a binary
counter is: a place holds a run or is empty, each new value is a run of its own, and
where a place is taken its run is merged with the new one and carried to the next
place. Sorting keeps every value, repeats included, and leaves the values in order
whenever the order is transitive and any two values are comparable.

Removing adjacent repeats from a sorted list leaves each value once. Both are used for
what a line of a cause tree shows: its tags are sorted, and its type names are sorted
and distinct.
-/

namespace CauseTree.Ordered

universe u
variable {α : Type u} [LE α] [DecidableLE α]

/-- Puts a value in front of the first one that it does not exceed. From there on,
`later` merges the values that follow it. -/
def mergeCons (a : α) (later : List α → List α) : List α → List α
  | [] => a :: later []
  | b :: rest => if a ≤ b then a :: later (b :: rest) else b :: mergeCons a later rest

/-- The values of two runs in order; of two equal values the left one comes first. -/
def merge : List α → List α → List α
  | [] => fun right => right
  | a :: rest => mergeCons a (merge rest)

/-- Puts a run into the first place, or carries it on together with the run there. -/
def carry (run : List α) : List (List α) → List (List α)
  | [] => [run]
  | [] :: places => run :: places
  | (a :: taken) :: places => [] :: carry (merge (a :: taken) run) places

/-- The runs of some values, in places that take twice as many values each. -/
def runs (values : List α) : List (List α) :=
  values.foldl (fun places value => carry [value] places) []

/-- The values in increasing order, repeats kept. -/
def sort (values : List α) : List α :=
  (runs values).foldl (fun sorted run => merge run sorted) []

/-- Keeps one of each run of equal neighbours. -/
def distinct {α : Type u} [DecidableEq α] : List α → List α
  | [] => []
  | [a] => [a]
  | a :: b :: rest => if a = b then distinct (b :: rest) else a :: distinct (b :: rest)

/-- Putting a value among others adds it and drops none. -/
theorem mergeCons_perm {a : α} {rest : List α} {later : List α → List α}
    (kept : ∀ right, (later right).Perm (rest ++ right)) (right : List α) :
    (mergeCons a later right).Perm (a :: rest ++ right) := by
  induction right with
  | nil => exact (kept []).cons a
  | cons b right inductionHypothesis =>
    simp only [mergeCons]
    split
    · exact (kept (b :: right)).cons a
    · exact (inductionHypothesis.cons b).trans List.perm_middle.symm

/-- Merging keeps the values of both runs. -/
theorem merge_perm (left right : List α) : (merge left right).Perm (left ++ right) := by
  induction left generalizing right with
  | nil => exact List.Perm.refl _
  | cons a rest inductionHypothesis => exact mergeCons_perm inductionHypothesis right

/-- Carrying a run keeps all values. -/
theorem carry_perm (run : List α) (places : List (List α)) :
    (carry run places).flatten.Perm (run ++ places.flatten) := by
  fun_induction carry run places with
  | case1 run => exact List.Perm.refl _
  | case2 run places => exact List.Perm.refl _
  | case3 run a taken places inductionHypothesis =>
    refine inductionHypothesis.trans ?_
    have swapped : (merge (a :: taken) run).Perm (run ++ a :: taken) :=
      (merge_perm (a :: taken) run).trans List.perm_append_comm
    simpa using swapped.append_right places.flatten

/-- Adding values to places keeps all values. -/
theorem foldl_carry_perm (values : List α) (places : List (List α)) :
    (values.foldl (fun places value => carry [value] places) places).flatten.Perm
      (values ++ places.flatten) := by
  induction values generalizing places with
  | nil => exact List.Perm.refl _
  | cons a rest inductionHypothesis =>
    refine (inductionHypothesis (carry [a] places)).trans ?_
    exact ((carry_perm [a] places).append_left rest).trans List.perm_middle

/-- Merging runs one after another keeps all values. -/
theorem foldl_merge_perm (places : List (List α)) (sorted : List α) :
    (places.foldl (fun sorted run => merge run sorted) sorted).Perm
      (places.flatten ++ sorted) := by
  induction places generalizing sorted with
  | nil => exact List.Perm.refl _
  | cons run places inductionHypothesis =>
    refine (inductionHypothesis (merge run sorted)).trans ?_
    refine ((merge_perm run sorted).append_left places.flatten).trans ?_
    have swapped : (places.flatten ++ run).Perm (run ++ places.flatten) := List.perm_append_comm
    simpa using swapped.append_right sorted

/-- A sorted list holds the same values the same number of times. -/
theorem sort_perm (values : List α) : (sort values).Perm values := by
  have merged := foldl_merge_perm (runs values) []
  have counted := foldl_carry_perm values []
  simp only [List.append_nil] at merged
  simp only [List.flatten_nil, List.append_nil] at counted
  exact merged.trans counted

section Order

variable (transitive : ∀ a b c : α, a ≤ b → b ≤ c → a ≤ c) (total : ∀ a b : α, a ≤ b ∨ b ≤ a)
include transitive total

/-- Merging two runs in order gives a run in order. -/
theorem merge_ordered (left right : List α) (leftOrdered : left.Pairwise (· ≤ ·))
    (rightOrdered : right.Pairwise (· ≤ ·)) : (merge left right).Pairwise (· ≤ ·) := by
  induction left generalizing right with
  | nil => exact rightOrdered
  | cons a rest inductionHypothesis =>
    obtain ⟨aboveA, restOrdered⟩ := List.pairwise_cons.mp leftOrdered
    simp only [merge]
    induction right with
    | nil =>
      refine List.pairwise_cons.mpr ⟨?_, inductionHypothesis [] restOrdered rightOrdered⟩
      intro c member
      exact aboveA c (by simpa using (merge_perm rest []).mem_iff.mp member)
    | cons b right rightHypothesis =>
      obtain ⟨aboveB, tailOrdered⟩ := List.pairwise_cons.mp rightOrdered
      simp only [mergeCons]
      split
      · next below =>
        refine List.pairwise_cons.mpr
          ⟨?_, inductionHypothesis (b :: right) restOrdered rightOrdered⟩
        intro c member
        rcases List.mem_append.mp ((merge_perm rest (b :: right)).mem_iff.mp member) with
          inRest | inRight
        · exact aboveA c inRest
        · rcases List.mem_cons.mp inRight with rfl | later
          · exact below
          · exact transitive a b c below (aboveB c later)
      · next notBelow =>
        have above : b ≤ a := (total a b).resolve_left notBelow
        refine List.pairwise_cons.mpr ⟨?_, rightHypothesis tailOrdered⟩
        intro c member
        rcases List.mem_append.mp ((merge_perm (a :: rest) right).mem_iff.mp member) with
          inLeft | inRight
        · rcases List.mem_cons.mp inLeft with rfl | later
          · exact above
          · exact transitive b a c above (aboveA c later)
        · exact aboveB c inRight

/-- Carrying a run in order keeps the places in order. -/
theorem carry_ordered (run : List α) (places : List (List α)) (runOrdered : run.Pairwise (· ≤ ·))
    (placesOrdered : ∀ place ∈ places, place.Pairwise (· ≤ ·)) :
    ∀ place ∈ carry run places, place.Pairwise (· ≤ ·) := by
  fun_induction carry run places with
  | case1 run => simpa using runOrdered
  | case2 run places =>
    simp only [List.forall_mem_cons] at placesOrdered ⊢
    exact ⟨runOrdered, placesOrdered.2⟩
  | case3 run a taken places inductionHypothesis =>
    simp only [List.forall_mem_cons] at placesOrdered ⊢
    refine ⟨List.Pairwise.nil, inductionHypothesis ?_ placesOrdered.2⟩
    exact merge_ordered transitive total (a :: taken) run placesOrdered.1 runOrdered

/-- A sorted list is in increasing order. -/
theorem sort_ordered (values : List α) : (sort values).Pairwise (· ≤ ·) := by
  have counted : ∀ place ∈ runs values, place.Pairwise (· ≤ ·) :=
    List.foldlRecOn values _ (by simp) fun places ordered value _ =>
      carry_ordered transitive total [value] places (by simp) ordered
  exact List.foldlRecOn (runs values) _ List.Pairwise.nil fun sorted ordered run member =>
    merge_ordered transitive total run sorted (counted run member) ordered

end Order

/-- Removing repeats changes no membership. -/
theorem mem_distinct {α : Type u} [DecidableEq α] (value : α) (values : List α) :
    value ∈ distinct values ↔ value ∈ values := by
  fun_induction distinct values with
  | case1 => simp
  | case2 => simp
  | case3 a rest inductionHypothesis => simp_all
  | case4 a b rest different inductionHypothesis => simp_all

/-- Of two texts one precedes the other, unless they are the same. -/
theorem text_trichotomy (a b : String) : a < b ∨ a = b ∨ b < a := by
  by_cases less : a < b
  · exact .inl less
  · by_cases more : b < a
    · exact .inr (.inr more)
    · exact .inr (.inl (String.le_antisymm (String.not_lt.mp more) (String.not_lt.mp less)))

end CauseTree.Ordered
