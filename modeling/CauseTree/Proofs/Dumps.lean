import CauseTree.Outline.Render
import CauseTree.Proofs.Lines
import CauseTree.Proofs.Quotations

/-!
# Dumps are read in one way

A dump is opened by the kind of its node and the message in quotes. A kind has no space in
it, and a quoted message is known with what follows it, so two dumps that start alike have
the same kind and show the same message. The kind of an internal node says which parts the
node has: whether it has a message at all, so that an absent message is told from an empty
one, and whether a single cause, a list of causes or nothing follows.

The dumps of causes then follow one by one. A list ends at a bracket, where a dump would
start with a letter or a further one would stand behind a comma. Hence a dump is known with
what follows it, and of a graph of internal nodes it shows the whole tree of kinds, messages
and causes, and nothing else.
-/

namespace CauseTree

/-- The nodes of a graph as a tree. Of each node it keeps the kind, the node's own message,
its single cause and its list of causes. A shared node stands in every place where it is
a cause. -/
inductive Unfolding where
  | node (kind : String) (message : Option String) (cause : Option Unfolding)
      (causes : Option (List Unfolding))

namespace Fault

mutual

/-- The tree of a fault and everything below it. -/
def unfolding : Fault → Unfolding
  | wrapped id note cause =>
    .node (wrapped id note cause).typeName (wrapped id note cause).message? (some cause.unfolding)
      none
  | joined id causes =>
    .node (joined id causes).typeName (joined id causes).message? none (some (unfoldings causes))
  | rebuilt id message types tags stack causes =>
    .node (rebuilt id message types tags stack causes).typeName
      (rebuilt id message types tags stack causes).message? none (some (unfoldings causes))
  | custom _ node (some cause) (some causes) =>
    .node node.typeName node.message (some cause.unfolding) (some (unfoldings causes))
  | custom _ node (some cause) none => .node node.typeName node.message (some cause.unfolding) none
  | custom _ node none (some causes) =>
    .node node.typeName node.message none (some (unfoldings causes))
  | fault => .node fault.typeName fault.message? none none

/-- The trees of several faults, in order. -/
def unfoldings : List Fault → List Unfolding
  | [] => []
  | fault :: rest => fault.unfolding :: unfoldings rest

end

/-- The trees of several faults, as one list. -/
theorem unfoldings_eq (faults : List Fault) : unfoldings faults = faults.map unfolding := by
  induction faults with
  | nil => rfl
  | cons fault rest inductionHypothesis => simp [unfoldings, inductionHypothesis]

/-- The tree of a fault has the trees of its causes below it. -/
theorem unfolding_eq (fault : Fault) :
    fault.unfolding =
      .node fault.typeName fault.message? (fault.cause?.map unfolding)
        (fault.causes?.map (List.map unfolding)) := by
  cases fault with
  | custom id node cause causes =>
    cases cause <;> cases causes <;>
      simp [unfolding, unfoldings_eq, typeName, message?, cause?, causes?]
  | _ => simp [unfolding, unfoldings_eq, cause?, causes?]

/-- Every node that can be reached is internal. -/
def InternalThroughout (fault : Fault) : Prop := ∀ node ∈ fault.reach, node.isInternal = true

instance (fault : Fault) : Decidable fault.InternalThroughout :=
  inferInstanceAs (Decidable (∀ node ∈ fault.reach, node.isInternal = true))

/-- The fault itself is one of the nodes that can be reached. -/
theorem InternalThroughout.isInternal {fault : Fault} (inside : fault.InternalThroughout) :
    fault.isInternal = true :=
  inside fault (mem_reach_self fault)

/-- What can be reached from a cause can be reached from the fault. -/
theorem InternalThroughout.below {fault cause : Fault} (inside : fault.InternalThroughout)
    (direct : cause ∈ fault.directCauses) : cause.InternalThroughout :=
  fun node member => inside node (reach_subset direct member)

/-- What a dump shows after its opening. -/
def dumpTail (fault : Fault) : String :=
  match fault.causes?, fault.cause? with
  | some causes, _ => ", causes: [" ++ dumps causes ++ "]" ++ " \x7d"
  | none, some cause => ", cause: " ++ cause.dump ++ " \x7d"
  | none, none => " \x7d"

/-- A dump is its opening and what it shows after it. -/
theorem dump_eq_tail (fault : Fault) : fault.dump = fault.dumpHead ++ fault.dumpTail := by
  have close : "] \x7d" = "]" ++ " \x7d" := rfl
  rw [dump_eq, close]
  cases listed : fault.causes? <;> cases single : fault.cause? <;>
    simp only [dumpTail, listed, single, String.append_assoc]

/-- The kinds of internal nodes. -/
def internalKinds : List String :=
  ["Base", "Todo", "WithMessage", "WithStack", "WithTypes", "WithTags", "Multi", "Value"]

section Kinds

variable {fault other : Fault}

/-- Where a node is internal, its kind says which parts it has. -/
theorem parts_eq (inside : fault.isInternal = true) :
    fault.message?.isSome = ["Base", "WithMessage", "Value"].contains fault.typeName ∧
      fault.cause?.isSome =
        ["WithMessage", "WithStack", "WithTypes", "WithTags"].contains fault.typeName ∧
      fault.causes?.isSome = ["Multi", "Value"].contains fault.typeName := by
  cases fault with
  | wrapped id note cause => cases note <;> simp [message?, cause?, causes?, typeName]
  | foreign => simp [isInternal] at inside
  | custom => simp [isInternal] at inside
  | _ => simp [message?, cause?, causes?, typeName]

/-- An internal node has no cause beside a list of causes. -/
theorem cause_eq_none (inside : fault.isInternal = true) {causes : List Fault}
    (listed : fault.causes? = some causes) : fault.cause? = none := by
  cases fault with
  | wrapped => cases listed
  | custom => simp [isInternal] at inside
  | _ => rfl

/-- Internal nodes of one kind both have a list of causes, or both a single cause, or
nothing below them. -/
theorem parts_agree (inside : fault.isInternal = true) (otherInside : other.isInternal = true)
    (kind : fault.typeName = other.typeName) :
    (∃ causes others, fault.causes? = some causes ∧ other.causes? = some others ∧
        fault.cause? = none ∧ other.cause? = none) ∨
      (∃ cause otherCause, fault.causes? = none ∧ other.causes? = none ∧
        fault.cause? = some cause ∧ other.cause? = some otherCause) ∨
      (fault.causes? = none ∧ other.causes? = none ∧
        fault.cause? = none ∧ other.cause? = none) := by
  obtain ⟨_, singles, lists⟩ := parts_eq inside
  obtain ⟨_, otherSingles, otherLists⟩ := parts_eq otherInside
  rw [kind, ← otherSingles] at singles
  rw [kind, ← otherLists] at lists
  cases list : fault.causes? with
  | some causes =>
    obtain ⟨others, otherList⟩ : ∃ others, other.causes? = some others := by
      simpa [list, Option.isSome_iff_exists] using lists.symm
    exact .inl ⟨causes, others, rfl, otherList, cause_eq_none inside list,
      cause_eq_none otherInside otherList⟩
  | none =>
    have otherList : other.causes? = none := by simpa [list] using lists.symm
    cases single : fault.cause? with
    | some cause =>
      obtain ⟨otherCause, otherSingle⟩ : ∃ otherCause, other.cause? = some otherCause := by
        simpa [single, Option.isSome_iff_exists] using singles.symm
      exact .inr (.inl ⟨cause, otherCause, rfl, otherList, rfl, otherSingle⟩)
    | none =>
      have otherSingle : other.cause? = none := by simpa [single] using singles.symm
      exact .inr (.inr ⟨rfl, otherList, rfl, otherSingle⟩)

/-- Internal nodes of one kind that show the same message have the same message. An absent
message is shown as an empty one, and only nodes of other kinds have none. -/
theorem message_eq (inside : fault.isInternal = true) (otherInside : other.isInternal = true)
    (kind : fault.typeName = other.typeName)
    (shown : fault.message?.getD "" = other.message?.getD "") :
    fault.message? = other.message? := by
  have present : fault.message?.isSome = other.message?.isSome := by
    rw [(parts_eq inside).1, (parts_eq otherInside).1, kind]
  cases own : fault.message? <;> cases foreign : other.message? <;> simp_all

/-- A dump names an internal node by its kind. -/
theorem dumpName_eq (inside : fault.isInternal = true) : fault.dumpName = fault.typeName := by
  cases fault with
  | foreign => simp [isInternal] at inside
  | _ => rfl

/-- The kind of an internal node is one of eight. -/
theorem typeName_mem (inside : fault.isInternal = true) : fault.typeName ∈ internalKinds := by
  cases fault with
  | wrapped id note cause => cases note <;> simp [typeName, internalKinds]
  | foreign => simp [isInternal] at inside
  | custom => simp [isInternal] at inside
  | _ => simp [typeName, internalKinds]

/-- The kind of an internal node has no space in it. -/
theorem space_not_mem_typeName (inside : fault.isInternal = true) :
    ' ' ∉ fault.typeName.toList := by
  have words : ∀ kind ∈ internalKinds, ' ' ∉ kind.toList := by decide
  exact words fault.typeName (typeName_mem inside)

/-- The dump of an internal node does not start with a bracket. -/
theorem dump_append_ne (inside : fault.isInternal = true) (rest later : String) :
    fault.dump ++ rest ≠ "]" ++ later := by
  have letters : ∀ kind ∈ internalKinds, kind.toList.head?.any (· ≠ ']') = true := by decide
  have own := letters fault.typeName (typeName_mem inside)
  obtain ⟨first, leads, letter⟩ := (Option.any_eq_true _ _).mp own
  obtain ⟨further, chars⟩ := List.head?_eq_some_iff.mp leads
  intro same
  have lists := congrArg String.toList same
  rw [dump_eq_tail, dumpHead, dumpName_eq inside] at lists
  simp only [String.toList_append, chars, List.cons_append] at lists
  exact of_decide_eq_true letter (List.cons.inj lists).1

/-- The opening of a dump is known with what follows it. -/
theorem dumpHead_append_inj (inside : fault.isInternal = true)
    (otherInside : other.isInternal = true) {rest later : String}
    (same : fault.dumpHead ++ rest = other.dumpHead ++ later) :
    fault.typeName = other.typeName ∧ fault.message? = other.message? ∧ rest = later := by
  have lists := congrArg String.toList same
  simp only [dumpHead, dumpName_eq inside, dumpName_eq otherInside, String.append_assoc,
    String.toList_append] at lists
  obtain ⟨kinds, tails⟩ := Text.append_cons_inj (space_not_mem_typeName inside)
    (space_not_mem_typeName otherInside) lists
  have kind := String.toList_injective kinds
  have quotes : Text.quoted (fault.message?.getD "") ++ rest =
      Text.quoted (other.message?.getD "") ++ later := by
    apply String.toList_injective
    simpa using tails
  obtain ⟨shown, after⟩ := Text.quoted_append_inj quotes
  exact ⟨kind, message_eq inside otherInside kind shown, after⟩

end Kinds

/-- The dumps of faults after a first one, each behind a comma. -/
def laterDumps : List Fault → String
  | [] => ""
  | fault :: rest => ", " ++ fault.dump ++ laterDumps rest

/-- The dumps of several faults start with that of the first one. -/
theorem dumps_cons (fault : Fault) (rest : List Fault) :
    dumps (fault :: rest) = fault.dump ++ laterDumps rest := by
  induction rest generalizing fault with
  | nil => simp [dumps_eq, laterDumps]
  | cons next rest inductionHypothesis =>
    have further := inductionHypothesis next
    rw [dumps_eq, List.map_cons] at further
    rw [dumps_eq, List.map_cons, List.map_cons, String.intercalate_cons_cons, further, laterDumps]
    simp only [String.append_assoc]

/-- The dump of the fault is known with what follows it, among graphs of internal nodes. -/
def Legible (fault : Fault) : Prop :=
  ∀ (other : Fault) (rest later : String), other.InternalThroughout →
    fault.dump ++ rest = other.dump ++ later → fault.unfolding = other.unfolding ∧ rest = later

section Lists

variable {faults others : List Fault} (legible : ∀ fault ∈ faults, fault.Legible)
  (inside : ∀ other ∈ others, other.InternalThroughout)
include legible inside

/-- Further dumps in brackets are known with what follows the bracket. -/
theorem laterDumps_append_inj {rest later : String}
    (same : laterDumps faults ++ ("]" ++ rest) = laterDumps others ++ ("]" ++ later)) :
    faults.map unfolding = others.map unfolding ∧ rest = later := by
  induction faults generalizing others with
  | nil =>
    cases others with
    | nil => simpa [laterDumps, String.append_right_inj] using same
    | cons other further =>
      -- one text closes the list where the other goes on with a comma
      have lists := congrArg String.toList same
      simp [laterDumps] at lists
  | cons fault after inductionHypothesis =>
    cases others with
    | nil =>
      have lists := congrArg String.toList same
      simp [laterDumps] at lists
    | cons other further =>
      obtain ⟨first, afterwards⟩ := List.forall_mem_cons.mp legible
      obtain ⟨otherFirst, furtherInside⟩ := List.forall_mem_cons.mp inside
      simp only [laterDumps, String.append_assoc, String.append_right_inj] at same
      obtain ⟨trees, go⟩ := first other _ _ otherFirst same
      obtain ⟨forests, ends⟩ := inductionHypothesis afterwards furtherInside go
      exact ⟨by rw [List.map_cons, List.map_cons, trees, forests], ends⟩

/-- Dumps in brackets are known with what follows the bracket. -/
theorem dumps_append_inj (internal : ∀ fault ∈ faults, fault.InternalThroughout)
    {rest later : String}
    (same : dumps faults ++ ("]" ++ rest) = dumps others ++ ("]" ++ later)) :
    faults.map unfolding = others.map unfolding ∧ rest = later := by
  cases faults with
  | nil =>
    cases others with
    | nil => simpa [dumps_eq, String.append_right_inj] using same
    | cons other further =>
      -- one text closes the list where the other starts with a letter
      rw [dumps_cons, String.append_assoc] at same
      have node := (inside other List.mem_cons_self).isInternal
      exact absurd same.symm (dump_append_ne node _ _)
  | cons fault after =>
    cases others with
    | nil =>
      rw [dumps_cons, String.append_assoc] at same
      have node := (internal fault List.mem_cons_self).isInternal
      exact absurd same (dump_append_ne node _ _)
    | cons other further =>
      obtain ⟨first, afterwards⟩ := List.forall_mem_cons.mp legible
      obtain ⟨otherFirst, furtherInside⟩ := List.forall_mem_cons.mp inside
      rw [dumps_cons, dumps_cons, String.append_assoc, String.append_assoc] at same
      obtain ⟨trees, go⟩ := first other _ _ otherFirst same
      obtain ⟨forests, ends⟩ := laterDumps_append_inj afterwards furtherInside go
      exact ⟨by rw [List.map_cons, List.map_cons, trees, forests], ends⟩

end Lists

/-- What dumps of one kind of node show after their openings is known with what follows it.
The kind says which of the three forms it has. -/
theorem dumpTail_append_inj {fault other : Fault} (inside : fault.InternalThroughout)
    (otherInside : other.InternalThroughout) (kind : fault.typeName = other.typeName)
    (legible : ∀ cause ∈ fault.directCauses, cause.Legible) {rest later : String}
    (same : fault.dumpTail ++ rest = other.dumpTail ++ later) :
    fault.cause?.map unfolding = other.cause?.map unfolding ∧
      fault.causes?.map (List.map unfolding) = other.causes?.map (List.map unfolding) ∧
      rest = later := by
  obtain ⟨causes, others, list, otherList, single, otherSingle⟩ |
      ⟨cause, otherCause, list, otherList, single, otherSingle⟩ |
      ⟨list, otherList, single, otherSingle⟩ :=
    parts_agree inside.isInternal otherInside.isInternal kind
  all_goals
    simp only [dumpTail, list, otherList, single, otherSingle, String.append_assoc,
      String.append_right_inj] at same
    simp only [list, otherList, single, otherSingle, Option.map_some, Option.map_none,
      Option.some.injEq, true_and]
  · have member : causes ⊆ fault.directCauses := by simp [directCauses, list]
    have otherMember : others ⊆ other.directCauses := by simp [directCauses, otherList]
    obtain ⟨trees, ends⟩ := dumps_append_inj (fun cause direct => legible cause (member direct))
      (fun cause direct => otherInside.below (otherMember direct))
      (fun cause direct => inside.below (member direct)) same
    exact ⟨trees, (String.append_right_inj _).mp ends⟩
  · have direct : cause ∈ fault.directCauses := by simp [directCauses, list, single]
    have otherDirect : otherCause ∈ other.directCauses := by
      simp [directCauses, otherList, otherSingle]
    obtain ⟨tree, ends⟩ := legible cause direct otherCause _ _ (otherInside.below otherDirect) same
    exact ⟨tree, (String.append_right_inj _).mp ends⟩
  · exact same

/-- The dump of a graph of internal nodes is known with what follows it. -/
theorem legible_of_internal (fault : Fault) (inside : fault.InternalThroughout) :
    fault.Legible := by
  induction fault using cause_induction with
  | step fault inductionHypothesis =>
    intro other rest later otherInside same
    rw [dump_eq_tail, dump_eq_tail, String.append_assoc, String.append_assoc] at same
    obtain ⟨kind, message, tails⟩ :=
      dumpHead_append_inj inside.isInternal otherInside.isInternal same
    have below : ∀ cause ∈ fault.directCauses, cause.Legible := fun cause direct =>
      inductionHypothesis cause direct (inside.below direct)
    obtain ⟨single, listed, ends⟩ := dumpTail_append_inj inside otherInside kind below tails
    rw [unfolding_eq fault, unfolding_eq other, kind, message, single, listed]
    exact ⟨rfl, ends⟩

/-- Where equal trees mean equal dumps, lists of equal trees mean lists of equal dumps. -/
theorem map_dump_congr {faults others : List Fault}
    (agree : ∀ fault ∈ faults, ∀ other ∈ others, fault.unfolding = other.unfolding →
      fault.dump = other.dump)
    (same : faults.map unfolding = others.map unfolding) : faults.map dump = others.map dump := by
  induction faults generalizing others with
  | nil =>
    cases others with
    | nil => rfl
    | cons other further => simp at same
  | cons fault after inductionHypothesis =>
    cases others with
    | nil => simp at same
    | cons other further =>
      obtain ⟨tree, trees⟩ := List.cons.inj same
      have dumps := inductionHypothesis (fun fault member other direct =>
        agree fault (List.mem_cons_of_mem _ member) other (List.mem_cons_of_mem _ direct)) trees
      rw [List.map_cons, List.map_cons, dumps,
        agree fault List.mem_cons_self other List.mem_cons_self tree]

/-- Nodes whose causes have the same trees show the same after their openings, where equal
trees mean equal dumps. -/
theorem dumpTail_congr {fault other : Fault}
    (single : fault.cause?.map unfolding = other.cause?.map unfolding)
    (listed : fault.causes?.map (List.map unfolding) = other.causes?.map (List.map unfolding))
    (agree : ∀ cause ∈ fault.directCauses, ∀ otherCause ∈ other.directCauses,
      cause.unfolding = otherCause.unfolding → cause.dump = otherCause.dump) :
    fault.dumpTail = other.dumpTail := by
  cases list : fault.causes? with
  | some causes =>
    obtain ⟨others, otherList, trees⟩ : ∃ others, other.causes? = some others ∧
        others.map unfolding = causes.map unfolding := by
      simpa [list] using listed.symm
    have texts : causes.map dump = others.map dump := by
      apply map_dump_congr _ trees.symm
      intro cause member otherCause otherMember
      apply agree
      · simp [directCauses, list, member]
      · simp [directCauses, otherList, otherMember]
    simp only [dumpTail, list, otherList, dumps_eq, texts]
  | none =>
    have otherList : other.causes? = none := by simpa [list] using listed.symm
    cases found : fault.cause? with
    | some cause =>
      obtain ⟨otherCause, otherFound, tree⟩ : ∃ otherCause, other.cause? = some otherCause ∧
          otherCause.unfolding = cause.unfolding := by
        simpa [found] using single.symm
      have text : cause.dump = otherCause.dump := by
        apply agree cause _ otherCause _ tree.symm
        · simp [directCauses, found]
        · simp [directCauses, otherFound]
      simp only [dumpTail, list, otherList, found, otherFound, text]
    | none =>
      have otherFound : other.cause? = none := by simpa [found] using single.symm
      simp only [dumpTail, list, otherList, found, otherFound]

/-- Graphs of internal nodes with the same tree have the same dump. -/
theorem dump_congr {fault other : Fault} (inside : fault.InternalThroughout)
    (otherInside : other.InternalThroughout) (same : fault.unfolding = other.unfolding) :
    fault.dump = other.dump := by
  induction fault using cause_induction generalizing other with
  | step fault inductionHypothesis =>
    rw [unfolding_eq fault, unfolding_eq other, Unfolding.node.injEq] at same
    obtain ⟨kind, message, single, listed⟩ := same
    have head : fault.dumpHead = other.dumpHead := by
      rw [dumpHead, dumpHead, dumpName_eq inside.isInternal, dumpName_eq otherInside.isInternal,
        kind, message]
    have tail : fault.dumpTail = other.dumpTail := by
      apply dumpTail_congr single listed
      intro cause direct otherCause otherDirect
      exact inductionHypothesis cause direct (inside.below direct) (otherInside.below otherDirect)
    rw [dump_eq_tail, dump_eq_tail, head, tail]

/-- Dumps are read in one way. In every style the dumps of two graphs of internal nodes are
the same text exactly when the graphs unfold to the same tree of kinds, messages and causes,
whatever the messages are. -/
theorem dump_determines (fault other : Fault) (inside : fault.InternalThroughout)
    (otherInside : other.InternalThroughout) (style : Style) :
    fault.render (style.showing .dump) = other.render (style.showing .dump) ↔
      fault.unfolding = other.unfolding := by
  show fault.dump = other.dump ↔ _
  constructor
  · intro same
    have closed : fault.dump ++ "" = other.dump ++ "" := by rw [same]
    exact (legible_of_internal fault inside other "" "" otherInside closed).1
  · exact dump_congr inside otherInside

/-- Two joined faults, the first one a note without a message of its own. -/
def twoDisks : Fault :=
  joined (.serial 3)
    [wrapped (.serial 1) (.stack .empty) (base (.serial 0) "disk" .empty),
      base (.serial 2) "full" .empty]

/-- One joined fault with a message that looks like the rest of a dump. -/
def imitatedDump : Fault :=
  joined (.serial 3)
    [wrapped (.serial 1) (.message "")
      (base (.serial 0) "disk\" \x7d \x7d, Base \x7b msg: \"full" .empty)]

/-- A message that looks like the rest of a dump does not read as one, an empty message is
told from an absent one, and a shared node looks like two nodes with one message. -/
theorem dump_determines_imitation :
    twoDisks.InternalThroughout ∧ imitatedDump.InternalThroughout ∧
      twoDisks.render (Style.tree.showing .dump) ≠ imitatedDump.render (Style.tree.showing .dump) ∧
      (wrapped (.serial 0) (.message "") todo).render (Style.tree.showing .dump) ≠
        (wrapped (.serial 0) (.types []) todo).render (Style.tree.showing .dump) ∧
      (joined (.serial 1) [base (.serial 0) "disk" .empty, base (.serial 0) "disk" .empty]).render
          (Style.tree.showing .dump) =
        (joined (.serial 2) [base (.serial 0) "disk" .empty, base (.serial 1) "disk" .empty]).render
          (Style.tree.showing .dump) := by
  have disks : twoDisks.InternalThroughout := by decide
  have imitated : imitatedDump.InternalThroughout := by decide
  refine ⟨disks, imitated, fun same => ?_, fun same => ?_, ?_⟩
  · have trees := (dump_determines _ _ disks imitated _).mp same
    simp [twoDisks, imitatedDump, unfolding, unfoldings] at trees
  · have trees := (dump_determines _ _ (by decide) (by decide) _).mp same
    simp [unfolding, message?] at trees
  · exact (dump_determines _ _ (by decide) (by decide) _).mpr rfl

end Fault

end CauseTree
