import CauseTree.Proofs.Walks

/-!
# Routes of a walk

A walk is read by asking it for the next fault until there is none. Whatever is pending, this
comes to an end, and what has been visited by then are the recursive orders of the pending
faults, the one on top first.

A node can stand at several places of a graph, so the places are told apart by the routes
that lead to them. A route gives, at each node, the position of the fault that is taken next
among those directly below. A walk comes by every route exactly once. It takes them in
lexicographic order, in which a route stands before those that go on from where it ends, and
those through one cause stand before those through the causes after it.
-/

namespace CauseTree

namespace Walk

/-- The walk with one more fault pending, on top of the others. -/
def push (walk : Walk) (fault : Fault) : Walk := ⟨fault :: walk.pending⟩

/-- A step takes the fault on top and pushes what is directly below it from the last to the
first, which is then on top. -/
theorem next?_cons (fault : Fault) (pending : List Fault) :
    next? ⟨fault :: pending⟩ = some (fault, fault.next.reverse.foldl push ⟨pending⟩) := by
  have pushed (faults : List Fault) :
      faults.reverse.foldl push ⟨pending⟩ = ⟨faults ++ pending⟩ := by
    induction faults with
    | nil => rfl
    | cons first rest inductionHypothesis =>
      rw [List.reverse_cons, List.foldl_append, inductionHypothesis]
      rfl
  rw [pushed]
  rfl

/-- Asking the walk for the next fault until there is none gives these faults. -/
inductive Visits : Walk → List Fault → Prop where
  | finished {walk : Walk} (ending : walk.next? = none) : Visits walk []
  | onward {walk later : Walk} {fault : Fault} {visited : List Fault}
      (step : walk.next? = some (fault, later)) (further : Visits later visited) :
      Visits walk (fault :: visited)

/-- A walk that has come to its end has visited its pending faults in their recursive orders. -/
theorem Visits.eq_preorders {walk : Walk} {visited : List Fault} (visits : Visits walk visited) :
    visited = Fault.preorders walk.pending := by
  induction visits with
  | finished ending => rw [pending_of_finished ending, Fault.preorders]
  | onward step further inductionHypothesis => rw [preorders_of_step step, inductionHypothesis]

/-- A walk comes to its end, because each step leaves one fault fewer to visit. -/
theorem visits_preorders (walk : Walk) : Visits walk (Fault.preorders walk.pending) := by
  cases step : walk.next? with
  | none =>
    rw [pending_of_finished step]
    exact .finished step
  | some taken =>
    rw [preorders_of_step step]
    exact .onward step (visits_preorders taken.2)
termination_by walk.size
decreasing_by
  rw [size_of_step step]
  exact Nat.lt_succ_self _

/-- A walk visits its pending faults in their recursive orders and nothing else. -/
theorem visits_iff (walk : Walk) (visited : List Fault) :
    Visits walk visited ↔ visited = walk.pending.flatMap Fault.preorder := by
  rw [← Fault.preorders_eq]
  constructor
  · exact Visits.eq_preorders
  · rintro rfl
    exact visits_preorders walk

end Walk

namespace Fault

/-- The fault to which a route leads, if there is one at the position given for each node. -/
def along (fault : Fault) : List Nat → Option Fault
  | [] => some fault
  | position :: rest => fault.next[position]?.bind fun cause => cause.along rest

/-- The fault to which a route leads that starts with a position among several faults. -/
def alongOneOf (faults : List Fault) : List Nat → Option Fault
  | [] => none
  | position :: rest => faults[position]?.bind fun fault => fault.along rest

/-- The routes are in lexicographic order, they are all those that lead anywhere, and the
nodes are those to which they lead. -/
structure Enumerates (lead : List Nat → Option Fault) (routes : List (List Nat))
    (nodes : List Fault) : Prop where
  ordered : routes.Pairwise (· < ·)
  complete : ∀ route, route ∈ routes ↔ (lead route).isSome = true
  reached : routes.map lead = nodes.map some

/-- Without faults to choose from no route leads anywhere. -/
theorem enumerates_nil : Enumerates (alongOneOf []) [] [] where
  ordered := .nil
  complete route := by cases route <;> simp [alongOneOf]
  reached := rfl

section Compose

variable {fault : Fault} {rest : List Fault} {routes others : List (List Nat)}
variable {nodes otherNodes : List Fault}

/-- Routes among several faults start with a position. -/
theorem Enumerates.started (below : Enumerates (alongOneOf rest) others otherNodes) :
    ∀ route ∈ others, ∃ position later, route = position :: later := by
  intro route member
  cases route with
  | nil => simpa [alongOneOf] using (below.complete []).mp member
  | cons position later => exact ⟨position, later, rfl⟩

/-- The routes from a node are the one that ends there and those through what is directly
below it. -/
theorem Enumerates.node (below : Enumerates (alongOneOf fault.next) routes nodes) :
    Enumerates fault.along ([] :: routes) (fault :: nodes) where
  ordered := by
    refine List.pairwise_cons.mpr ⟨?_, below.ordered⟩
    intro route member
    obtain ⟨position, later, rfl⟩ := below.started route member
    exact List.nil_lt_cons position later
  complete route := by
    cases route with
    | nil => simp [along]
    | cons position later =>
      rw [List.mem_cons, or_iff_right (List.cons_ne_nil position later)]
      exact below.complete (position :: later)
  reached := by
    rw [List.map_cons, List.map_cons, ← below.reached, along]
    refine congrArg (some fault :: ·) (List.map_congr_left ?_)
    intro route member
    obtain ⟨position, later, rfl⟩ := below.started route member
    rfl

/-- Routes whose positions have moved up by one. -/
theorem Enumerates.mem_moved (below : Enumerates (alongOneOf rest) others otherNodes)
    (route : List Nat) :
    route ∈ others.map (List.modifyHead (· + 1)) ↔
      ∃ position later, route = (position + 1) :: later ∧ position :: later ∈ others := by
  rw [List.mem_map]
  constructor
  · rintro ⟨inner, member, rfl⟩
    obtain ⟨position, later, rfl⟩ := below.started inner member
    exact ⟨position, later, rfl, member⟩
  · rintro ⟨position, later, rfl, member⟩
    exact ⟨position :: later, member, rfl⟩

/-- The routes among several faults are those from the first one and, after them, those among
the others, whose positions move up by one. -/
theorem Enumerates.cons (first : Enumerates fault.along routes nodes)
    (below : Enumerates (alongOneOf rest) others otherNodes) :
    Enumerates (alongOneOf (fault :: rest))
      (routes.map (0 :: ·) ++ others.map (List.modifyHead (· + 1))) (nodes ++ otherNodes) where
  ordered := by
    refine List.pairwise_append.mpr ⟨?_, ?_, ?_⟩
    · refine List.pairwise_map.mpr (first.ordered.imp ?_)
      intro route other less
      exact List.cons_lt_cons_iff.mpr (.inr ⟨rfl, less⟩)
    · refine List.pairwise_map.mpr (below.ordered.imp_of_mem ?_)
      intro route other member otherMember less
      obtain ⟨position, later, rfl⟩ := below.started route member
      obtain ⟨otherPosition, otherLater, rfl⟩ := below.started other otherMember
      rw [List.modifyHead_cons, List.modifyHead_cons]
      rw [List.cons_lt_cons_iff] at less ⊢
      exact less.imp Nat.succ_lt_succ (And.imp_left (congrArg Nat.succ))
    · intro route member other otherMember
      obtain ⟨inner, _, rfl⟩ := List.mem_map.mp member
      obtain ⟨position, later, rfl, _⟩ := (below.mem_moved other).mp otherMember
      exact List.cons_lt_cons_iff.mpr (.inl (Nat.succ_pos position))
  complete route := by
    rw [List.mem_append, List.mem_map, below.mem_moved]
    match route with
    | [] => simp [alongOneOf]
    | 0 :: later => simpa [alongOneOf] using first.complete later
    | (position + 1) :: later =>
      simpa [alongOneOf, and_assoc] using below.complete (position :: later)
  reached := by
    rw [List.map_append, List.map_append, List.map_map, List.map_map, ← first.reached,
      ← below.reached]
    refine congrArg (routes.map fault.along ++ ·) (List.map_congr_left ?_)
    intro route member
    obtain ⟨position, later, rfl⟩ := below.started route member
    rfl

end Compose

/-- The recursive orders of several faults list the nodes of all routes among them. -/
theorem enumerates_preorders {faults : List Fault}
    (each : ∀ fault ∈ faults, ∃ routes, Enumerates fault.along routes fault.preorder) :
    ∃ routes, Enumerates (alongOneOf faults) routes (preorders faults) := by
  induction faults with
  | nil => exact ⟨[], enumerates_nil⟩
  | cons fault rest inductionHypothesis =>
    obtain ⟨here, others⟩ := List.forall_mem_cons.mp each
    obtain ⟨routes, first⟩ := here
    obtain ⟨later, below⟩ := inductionHypothesis others
    exact ⟨_, first.cons below⟩

/-- The recursive order of a fault lists the nodes of all routes from it. -/
theorem enumerates_preorder (fault : Fault) :
    ∃ routes, Enumerates fault.along routes fault.preorder := by
  induction fault using cause_induction with
  | step fault inductionHypothesis =>
    obtain ⟨routes, below⟩ := enumerates_preorders fun cause (edge : cause ∈ fault.next) =>
      inductionHypothesis cause (next_subset fault edge)
    rw [preorder_eq]
    exact ⟨_, below.node⟩

/-- Asking a walk for the next fault comes to an end, and the faults visited by then are the
recursive orders of the pending faults, from the top one down. From a fault alone these are
its own recursive order: the fault, and then the order of its single cause, or those of its
causes where it has no single one. They are the nodes of all routes from the fault, each
route once and in lexicographic order. -/
theorem walk_follows_routes (fault : Fault) (pending : List Fault) :
    (∀ visited, Walk.Visits fault.walk visited ↔ visited = fault.preorder) ∧
      fault.walk.toList = fault.preorder ∧
      fault.preorder = fault :: (match fault.cause? with
        | some cause => cause.preorder
        | none => (fault.causes?.getD []).flatMap preorder) ∧
      (∃ routes, Enumerates fault.along routes fault.preorder) ∧
      (Walk.mk (fault :: pending)).next? =
        some (fault, fault.next.reverse.foldl Walk.push ⟨pending⟩) ∧
      ∀ visited, Walk.Visits ⟨pending⟩ visited ↔ visited = pending.flatMap preorder := by
  refine ⟨?_, toList_walk fault, ?_, enumerates_preorder fault, Walk.next?_cons fault pending,
    Walk.visits_iff ⟨pending⟩⟩
  · intro visited
    rw [Walk.visits_iff, walk, List.flatMap_singleton]
  · rw [preorder_eq, preorders_eq, next]
    cases fault.cause? <;> simp

/-- A node that is joined with itself is visited once for each of its places. -/
example :
    (joined (.serial 1) [todo, base (.serial 0) "full" .empty, todo]).walk.toList.map identity =
      [.serial 1, .placeholder, .serial 0, .placeholder] := by
  decide

end Fault

end CauseTree
