import CauseTree.Stack.Frame
import Mathlib.Data.List.Infix

/-!
# Short names of functions

The short name of a function is found by a search from the end of its path. The search takes
the last separator in what it has still to look through. If the segment after it stands for no
closure, the short name starts there; otherwise the search goes on before the separator.
Where no separator is left, the whole path is the short name.

The search is given here step by step, on any path at all, with empty segments and runs of
colons. It always comes to an end and gives the name that the scan of the path computes. What
it gives is the whole path or stands behind a separator. For a path of segments without colons
it gives the segments from the last one on that stands for no closure.
-/

namespace CauseTree.Frame

/-- What separates the segments of a path. -/
def separator : List Char := [':', ':']

/-- The part of a path after its last separator, and the part before it. No separator starts
later, not even one that overlaps the last. -/
structure LastSegment (path before segment : List Char) : Prop where
  split : path = before ++ separator ++ segment
  last : ¬ separator <:+: ':' :: segment

/-- The search through `head`, which is followed by `tail` in the path, gives the short name. -/
inductive Shortens (path : List Char) : (head tail short : List Char) → Prop where
  | whole {head tail : List Char} (unseparated : ¬ separator <:+: head) :
      Shortens path head tail path
  | owner {head before segment tail : List Char} (found : LastSegment head before segment)
      (plain : isClosure segment = false) : Shortens path head tail (segment ++ tail)
  | closure {head before segment tail short : List Char}
      (found : LastSegment head before segment) (closed : isClosure segment = true)
      (further : Shortens path before (separator ++ segment ++ tail) short) :
      Shortens path head tail short

section Search

variable {path head before segment tail short : List Char}

/-- A path with a separator has a last one. -/
theorem exists_lastSegment (separated : separator <:+: path) :
    ∃ before segment, LastSegment path before segment := by
  induction path with
  | nil => simp [separator] at separated
  | cons c rest inductionHypothesis =>
    by_cases later : separator <:+: rest
    · obtain ⟨before, segment, split, last⟩ := inductionHypothesis later
      exact ⟨c :: before, segment, by rw [split]; rfl, last⟩
    · obtain ⟨segment, split⟩ := (List.infix_cons_iff.mp separated).resolve_right later
      obtain ⟨_, rfl⟩ := List.cons.inj split
      exact ⟨[], segment, split.symm, later⟩

/-- What is before the last separator is shorter than the path. -/
theorem LastSegment.length_lt (found : LastSegment path before segment) :
    before.length < path.length := by
  rw [found.split]
  simp [separator]

/-- The search ends, because each step leaves less to look through. -/
theorem exists_shortens (path head tail : List Char) : ∃ short, Shortens path head tail short := by
  by_cases separated : separator <:+: head
  · obtain ⟨before, segment, found⟩ := exists_lastSegment separated
    cases closed : isClosure segment with
    | false => exact ⟨_, .owner found closed⟩
    | true =>
      have shorter := found.length_lt
      obtain ⟨short, further⟩ := exists_shortens path before (separator ++ segment ++ tail)
      exact ⟨short, .closure found closed further⟩
  · exact ⟨path, .whole separated⟩
termination_by head.length

/-- Two characters that start a path without separators are not both colons. -/
theorem not_colons {c d : Char} {rest : List Char} (plain : ¬ separator <:+: c :: d :: rest) :
    ¬ (c = ':' ∧ d = ':') := by
  rintro ⟨rfl, rfl⟩
  exact plain ⟨[], rest, rfl⟩

/-- What stands behind the first of some characters has no separator if they have none. -/
theorem unseparated_tail {c : Char} {rest : List Char} (plain : ¬ separator <:+: c :: rest) :
    ¬ separator <:+: rest :=
  fun inside => plain (inside.trans (List.suffix_cons c rest).isInfix)

/-- A scan that meets no separator finds no short name. -/
theorem shortFrom_unseparated {scanned : List Char} (plain : ¬ separator <:+: scanned)
    (segment after : List Char) : shortFrom scanned segment after = none := by
  induction scanned generalizing segment with
  | nil => rfl
  | cons c rest inductionHypothesis =>
    cases rest with
    | nil => rfl
    | cons d earlier =>
      rw [shortFrom, if_neg (not_colons plain)]
      exact inductionHypothesis (unseparated_tail plain) (c :: segment)

/-- The scan puts all characters in front of the segment that come before a separator and do
not end with a colon themselves. -/
theorem shortFrom_segment {scanned : List Char} (plain : ¬ separator <:+: scanned ++ [':'])
    (earlier segment after : List Char) :
    shortFrom (scanned ++ separator ++ earlier) segment after =
      shortFrom (separator ++ earlier) (scanned.reverse ++ segment) after := by
  induction scanned generalizing segment with
  | nil => rfl
  | cons c rest inductionHypothesis =>
    have further := inductionHypothesis (unseparated_tail plain) (c :: segment)
    rw [List.reverse_cons, List.append_assoc _ [c], List.singleton_append, ← further]
    -- the next character is one of the others or the first colon of the separator
    cases rest with
    | nil => exact if_neg (not_colons plain)
    | cons d rest => exact if_neg (not_colons plain)

/-- The scan of a path from its end meets the last separator with the segment read. -/
theorem shortFrom_found (found : LastSegment path before segment) (after : List Char) :
    shortFrom path.reverse [] after = shortFrom (separator ++ before.reverse) segment after := by
  have plain : ¬ separator <:+: segment.reverse ++ [':'] := by
    have reversed : segment.reverse ++ [':'] = (':' :: segment).reverse := by simp
    rw [reversed, show separator = separator.reverse from rfl, List.reverse_infix]
    exact found.last
  have scanned := shortFrom_segment plain before.reverse [] after
  have reversed : path.reverse = segment.reverse ++ separator ++ before.reverse := by
    rw [found.split]
    simp [separator]
  rw [reversed, scanned]
  simp

/-- The scan finds the short name that the search gives. -/
theorem Shortens.scan {head tail : List Char} (shortens : Shortens path head tail short) :
    (shortFrom head.reverse [] tail).getD path = short := by
  induction shortens with
  | @whole head tail unseparated =>
    have plain : ¬ separator <:+: head.reverse := by
      rwa [show separator = separator.reverse from rfl, List.reverse_infix]
    rw [shortFrom_unseparated plain]
    rfl
  | owner found plain =>
    rw [shortFrom_found found]
    simp [separator, shortFrom, plain]
  | closure found closed further inductionHypothesis =>
    rw [shortFrom_found found, ← inductionHypothesis]
    simp [separator, shortFrom, closed]

/-- The search through a path gives its short name and nothing else. -/
theorem shortens_iff (path short : List Char) :
    Shortens path path [] short ↔ short = shortPath path := by
  constructor
  · intro shortens
    exact shortens.scan.symm
  · rintro rfl
    obtain ⟨short, shortens⟩ := exists_shortens path path []
    have scanned : shortPath path = short := shortens.scan
    rwa [scanned]

/-- A short name is the whole path or stands behind a separator. -/
theorem Shortens.placed {head tail : List Char} (shortens : Shortens path head tail short)
    (inside : path = head ++ tail) :
    short = path ∨ ∃ before, path = before ++ separator ++ short := by
  induction shortens with
  | whole unseparated => exact .inl rfl
  | owner found plain => exact .inr ⟨_, by rw [inside, found.split, List.append_assoc]⟩
  | closure found closed further inductionHypothesis =>
    apply inductionHypothesis
    rw [inside, found.split]
    simp only [List.append_assoc]

end Search

section Segments

variable {segment : List Char} {segments closures : List (List Char)}

/-- A segment without colons is not separated. -/
theorem unseparated_of_not_mem (plain : ':' ∉ segment) : ¬ separator <:+: segment :=
  fun inside => plain (inside.subset List.mem_cons_self)

/-- A segment without colons is the last one of a path that ends with it. -/
theorem lastSegment_of_not_mem (before : List Char) (plain : ':' ∉ segment) :
    LastSegment (before ++ separator ++ segment) before segment where
  split := rfl
  last inside := by
    rcases List.infix_cons_iff.mp inside with ⟨rest, front⟩ | later
    · have second : ':' :: rest = segment := (List.cons.inj front).2
      exact plain (second ▸ List.mem_cons_self)
    · exact unseparated_of_not_mem plain later

/-- A path of several segments ends with the last of them behind a separator. -/
theorem intercalate_concat (filled : segments ≠ []) (segment : List Char) :
    separator.intercalate (segments ++ [segment]) =
      separator.intercalate segments ++ separator ++ segment := by
  induction segments with
  | nil => exact absurd rfl filled
  | cons first rest inductionHypothesis =>
    cases rest with
    | nil => simp
    | cons next later =>
      have below := inductionHypothesis (List.cons_ne_nil next later)
      rw [List.cons_append, List.cons_append, List.intercalate_cons_cons, ← List.cons_append, below,
        List.intercalate_cons_cons]
      simp only [List.append_assoc]

/-- A path of segments that all stand for closures is searched through in vain. -/
theorem shortens_closures (path tail : List Char) (plain : ∀ segment ∈ segments, ':' ∉ segment)
    (closed : ∀ segment ∈ segments, isClosure segment = true) :
    Shortens path (separator.intercalate segments) tail path := by
  induction segments using List.reverseRecOn generalizing tail with
  | nil => exact .whole (unseparated_of_not_mem List.not_mem_nil)
  | append_singleton rest segment inductionHypothesis =>
    simp only [List.forall_mem_append, List.forall_mem_singleton] at plain closed
    cases rest with
    | nil =>
      rw [List.nil_append, List.intercalate_singleton]
      exact .whole (unseparated_of_not_mem plain.2)
    | cons first later =>
      rw [intercalate_concat (List.cons_ne_nil first later)]
      exact .closure (lastSegment_of_not_mem _ plain.2) closed.2
        (inductionHypothesis _ plain.1 closed.1)

/-- The search stops at the last segment that stands for no closure. The induction goes
through the closures behind it, the last one first, as the search does. -/
theorem shortens_owner {before : List (List Char)} {owner : List Char} (tail : List Char)
    (plain : ∀ segment ∈ before ++ owner :: closures, ':' ∉ segment)
    (stops : isClosure owner = false) (closed : ∀ segment ∈ closures, isClosure segment = true) :
    Shortens (separator.intercalate (before ++ owner :: closures) ++ tail)
      (separator.intercalate (before ++ owner :: closures)) tail
      (separator.intercalate (owner :: closures) ++ tail) := by
  induction closures using List.reverseRecOn generalizing tail with
  | nil =>
    have unbroken : ':' ∉ owner := plain owner (by simp)
    cases before with
    | nil =>
      rw [List.nil_append, List.intercalate_singleton]
      exact .whole (unseparated_of_not_mem unbroken)
    | cons first later =>
      rw [intercalate_concat (List.cons_ne_nil first later), List.intercalate_singleton]
      exact .owner (lastSegment_of_not_mem _ unbroken) stops
  | append_singleton rest segment inductionHypothesis =>
    have regrouped : before ++ owner :: (rest ++ [segment]) =
        (before ++ owner :: rest) ++ [segment] := by
      simp
    rw [regrouped] at plain ⊢
    simp only [List.forall_mem_append, List.forall_mem_singleton] at plain closed
    have further := inductionHypothesis (separator ++ segment ++ tail)
      (List.forall_mem_append.mpr plain.1) closed.1
    rw [intercalate_concat (by simp), ← List.cons_append,
      intercalate_concat (List.cons_ne_nil owner rest)]
    refine .closure (lastSegment_of_not_mem _ plain.2) closed.2 ?_
    simpa only [List.append_assoc] using further

end Segments

/-- The short name of a function, as its search finds it. For a path of segments without colons
it is the path from the last segment on that stands for no closure, and the whole path where
all segments stand for closures. On every path the search comes to an end and gives the short
name alone, which is the whole path or stands behind a separator in it. -/
theorem short_names (frame : Frame) :
    (∀ segments : List String, frame.function = "::".intercalate segments →
      (∀ segment ∈ segments, ':' ∉ segment.toList) →
      (∀ before owner closures, segments = before ++ owner :: closures →
        isClosure owner.toList = false →
        (∀ closure ∈ closures, isClosure closure.toList = true) →
        frame.shortFunction = "::".intercalate (owner :: closures)) ∧
      ((∀ segment ∈ segments, isClosure segment.toList = true) →
        frame.shortFunction = frame.function)) ∧
    (∀ short, Shortens frame.function.toList frame.function.toList [] short ↔
      short = frame.shortFunction.toList) ∧
    (frame.shortFunction = frame.function ∨
      ∃ before, frame.function = before ++ "::" ++ frame.shortFunction) := by
  have searched : ∀ short, Shortens frame.function.toList frame.function.toList [] short ↔
      short = frame.shortFunction.toList := by
    intro short
    rw [shortens_iff, shortFunction, String.toList_ofList]
  refine ⟨?_, searched, ?_⟩
  · intro segments joined plain
    have path : frame.function.toList = separator.intercalate (segments.map String.toList) := by
      rw [joined, String.toList_intercalate]
      rfl
    constructor
    · rintro before owner closures rfl stops closed
      have unbroken : ∀ segment ∈ (before ++ owner :: closures).map String.toList,
          ':' ∉ segment := List.forall_mem_map.mpr plain
      rw [List.map_append, List.map_cons] at path unbroken
      have found := shortens_owner [] unbroken stops (List.forall_mem_map.mpr closed)
      rw [List.append_nil, List.append_nil, ← path] at found
      apply String.toList_inj.mp
      rw [← (searched _).mp found, String.toList_intercalate]
      rfl
    · intro closed
      have found := shortens_closures frame.function.toList [] (List.forall_mem_map.mpr plain)
        (List.forall_mem_map.mpr closed)
      rw [← path] at found
      exact String.toList_inj.mp ((searched _).mp found).symm
  · have placed := ((searched _).mpr rfl).placed (List.append_nil _).symm
    rcases placed with whole | ⟨before, behind⟩
    · exact .inl (String.toList_inj.mp whole)
    · refine .inr ⟨String.ofList before, String.toList_inj.mp ?_⟩
      rw [behind, String.toList_append, String.toList_append, String.toList_ofList]
      rfl

/-- A closure within a closure keeps the function around both. -/
theorem short_names_nestedClosure :
    (Frame.mk "app::dial::\x7b\x7bclosure\x7d\x7d::\x7b\x7bclosure\x7d\x7d" none
      none).shortFunction = "dial::\x7b\x7bclosure\x7d\x7d::\x7b\x7bclosure\x7d\x7d" :=
  ((short_names _).1
    ["app", "dial", "\x7b\x7bclosure\x7d\x7d", "\x7b\x7bclosure\x7d\x7d"]
    (by decide) (by decide)).1
    ["app"] "dial" ["\x7b\x7bclosure\x7d\x7d", "\x7b\x7bclosure\x7d\x7d"]
    rfl (by decide) (by decide)

/-- The last two colons of a run are the separator. -/
example : (Frame.mk "app:::dial" none none).shortFunction = "dial" := by decide

end CauseTree.Frame
