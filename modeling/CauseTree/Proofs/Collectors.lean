import CauseTree.Proofs.Reentry

/-!
# Collecting

A collector that has not answered holds the causes received so far and the rest of its
feed. One poll takes what has arrived. While the feed still keeps the reader waiting, the
poll is pending and there is one wait fewer; otherwise everything has arrived and the poll
answers. Put together, the polls adapt the items of the feed in their order, each present
one once, and the answer is that of joining all items at once, however they were delayed.
A closed channel is a feed without delays, and draining it is joining what it holds.
-/

namespace CauseTree

namespace Feed

/-- The items still to come. -/
def items (feed : Feed) : List (Option Fault) := feed.arrivals.map Arrival.item

/-- How many polls have to wait for the items and for the end of the feed. -/
def waits (feed : Feed) : Nat :=
  feed.arrivals.foldr (fun arrival later => arrival.delay + later) feed.closing

end Feed

namespace Fault

/-- Presence is a matter of each item. -/
theorem present_append (before after : List (Option Fault)) :
    present (before ++ after) = present before ++ present after :=
  List.filterMap_append

/-- Faults are adapted one list after the other. -/
theorem adaptAfter_append (adapted : Array Fault) (before after : List Fault) :
    adaptAfter adapted (before ++ after) =
      adaptAfter adapted before >>= fun causes => adaptAfter causes.toArray after := by
  induction before generalizing adapted with
  | nil => simp [adaptAfter]
  | cons fault rest inductionHypothesis =>
    simp [adaptAfter, inductionHypothesis]

/-- Draining a channel adapts what is present and gathers it. -/
theorem drainAfter_eq (received : Array Fault) (channel : List (Option Fault)) :
    drainAfter received channel = adaptAfter received (present channel) >>= gather := by
  induction channel generalizing received with
  | nil => simp [drainAfter, present, adaptAfter]
  | cons item rest inductionHypothesis =>
    cases item with
    | none => simpa [drainAfter, present] using inductionHypothesis received
    | some fault => simp [drainAfter, present, adaptAfter, inductionHypothesis]

/-- Draining a channel is joining what it holds. -/
theorem drain_eq_join (channel : List (Option Fault)) : drain channel = join channel :=
  drainAfter_eq #[] channel

end Fault

namespace Collector

/-- A poll that finds the end of the feed answers with all causes, and the collector has
answered for good. -/
theorem poll_ready (feed : Feed) (received : Array Fault) (due : feed.waits = 0) :
    poll ⟨feed, received, false⟩ = do
      let joined ← Fault.adaptAfter received (Fault.present feed.items) >>= Fault.gather
      return (.ready joined, ⟨⟨[], 0⟩, #[], true⟩) := by
  obtain ⟨arrivals, closing⟩ := feed
  induction arrivals generalizing received with
  | nil =>
    have atEnd : closing = 0 := by simpa [Feed.waits] using due
    simp [poll, advance, atEnd, Feed.items, Fault.present, Fault.adaptAfter]
  | cons arrival rest inductionHypothesis =>
    obtain ⟨delay, item⟩ := arrival
    obtain ⟨rfl, later⟩ : delay = 0 ∧ Feed.waits ⟨rest, closing⟩ = 0 := by
      simp only [Feed.waits, List.foldr_cons] at due ⊢
      omega
    cases item with
    | none => simpa [poll, advance, Feed.items, Fault.present] using inductionHypothesis received later
    | some fault =>
      have further := fun cause => inductionHypothesis (received.push cause) later
      simp only [poll, Bool.false_eq_true, if_false] at further
      simp [poll, advance, further, Feed.items, Fault.present, Fault.adaptAfter]

/-- A poll that has to wait takes what has arrived: one wait fewer is left, and the items
that have not arrived stay in the feed. What arrives does not depend on what has been
received before. -/
theorem poll_pending (feed : Feed) {waits : Nat} (waiting : feed.waits = waits + 1) :
    ∃ arrived rest, feed.items = arrived ++ Feed.items rest ∧ Feed.waits rest = waits ∧
      ∀ received, poll ⟨feed, received, false⟩ = do
        let causes ← Fault.adaptAfter received (Fault.present arrived)
        return (.pending, ⟨rest, causes.toArray, false⟩) := by
  obtain ⟨arrivals, closing⟩ := feed
  induction arrivals with
  | nil =>
    have left : closing = waits + 1 := by simpa [Feed.waits] using waiting
    refine ⟨[], ⟨[], waits⟩, by simp [Feed.items], by simp [Feed.waits], ?_⟩
    intro received
    simp [poll, advance, left, Fault.present, Fault.adaptAfter]
  | cons arrival later inductionHypothesis =>
    obtain ⟨delay, item⟩ := arrival
    cases delay with
    | succ delay =>
      refine ⟨[], ⟨⟨delay, item⟩ :: later, closing⟩, by simp [Feed.items], ?_, ?_⟩
      · simp only [Feed.waits, List.foldr_cons] at waiting ⊢
        omega
      · intro received
        simp [poll, advance, Fault.present, Fault.adaptAfter]
    | zero =>
      have stillWaiting : Feed.waits ⟨later, closing⟩ = waits + 1 := by
        simpa [Feed.waits] using waiting
      obtain ⟨arrived, rest, split, left, polled⟩ := inductionHypothesis stillWaiting
      refine ⟨item :: arrived, rest, by simpa [Feed.items] using split, left, ?_⟩
      intro received
      simp only [poll, Bool.false_eq_true, if_false] at polled
      cases item with
      | none => simp [poll, advance, polled, Fault.present]
      | some fault => simp [poll, advance, polled, Fault.present, Fault.adaptAfter]

/-- A collector that has answered for good answers that there is no fault. -/
theorem observe_finished (times : Nat) (collector : Collector)
    (finished : collector.finished = true) :
    observe times collector = pure (List.replicate times ⟨true, .ready none, true⟩) := by
  induction times with
  | zero => rfl
  | succ times inductionHypothesis =>
    simp [observe, poll, finished, inductionHypothesis, List.replicate_succ]

/-- While the feed keeps the reader waiting, every poll is pending. What has arrived until
then is adapted in order, and further polls go on from the causes and the rest of the feed.
The induction is on the polls; each of them leaves a feed with one wait fewer. -/
theorem observe_pending (times : Nat) (feed : Feed) (early : times ≤ feed.waits) :
    ∃ arrived rest, feed.items = arrived ++ Feed.items rest ∧ feed.waits = times + Feed.waits rest ∧
      ∀ received further, observe (times + further) ⟨feed, received, false⟩ = do
        let causes ← Fault.adaptAfter received (Fault.present arrived)
        let later ← observe further ⟨rest, causes.toArray, false⟩
        return List.replicate times ⟨false, .pending, false⟩ ++ later := by
  induction times generalizing feed with
  | zero =>
    refine ⟨[], feed, rfl, by simp, ?_⟩
    intro received further
    simp [Fault.present, Fault.adaptAfter]
  | succ times inductionHypothesis =>
    obtain ⟨waits, waiting⟩ : ∃ waits, feed.waits = waits + 1 := ⟨feed.waits - 1, by omega⟩
    obtain ⟨first, middle, split, left, polled⟩ := poll_pending feed waiting
    obtain ⟨arrived, rest, splitRest, leftRest, observed⟩ := inductionHypothesis middle (by omega)
    refine ⟨first ++ arrived, rest, by rw [split, splitRest, List.append_assoc], by omega, ?_⟩
    intro received further
    have shift : times + 1 + further = times + further + 1 := by omega
    rw [shift, observe, polled, Fault.present_append, Fault.adaptAfter_append]
    simp [observed, List.replicate_succ]

/-- The poll after the last wait answers with the joined items, and later polls answer that
there is no fault. -/
theorem observe_ready (feed : Feed) (later : Nat) :
    observe (feed.waits + (1 + later)) (new feed) = do
      let joined ← Fault.join feed.items
      return List.replicate feed.waits ⟨false, .pending, false⟩ ++
        ⟨false, .ready joined, true⟩ :: List.replicate later ⟨true, .ready none, true⟩ := by
  obtain ⟨arrived, rest, split, left, observed⟩ := observe_pending feed.waits feed (Nat.le_refl _)
  have due : rest.waits = 0 := by omega
  have answered (received : Array Fault) : observe (1 + later) ⟨rest, received, false⟩ = do
      let joined ← Fault.adaptAfter received (Fault.present rest.items) >>= Fault.gather
      return ⟨false, .ready joined, true⟩ :: List.replicate later ⟨true, .ready none, true⟩ := by
    rw [Nat.add_comm, observe, poll_ready rest received due]
    simp [observe_finished]
  rw [new, observed, Fault.join, Fault.adaptAll, split, Fault.present_append,
    Fault.adaptAfter_append]
  simp [answered]

/-- Collecting is joining, whatever the delays. As long as the feed keeps the reader
waiting, each poll is pending, and what has arrived so far has been adapted in order. The
poll after the last wait answers with the joined items, each present one adapted once and
in order, and every later poll answers at once that there is no fault. The collector counts
as finished from its answer on. Draining a closed channel of the same items does the same as
joining them. -/
theorem observe_joins (registry : Registry) (journal : Journal) (feed : Feed) :
    (∀ polls ≤ feed.waits, ∃ arrived rest causes last consulted,
      feed.items = arrived ++ rest ∧
      AdaptsAll registry (Fault.present arrived) journal.serial causes last consulted ∧
      (observe polls (new feed)).run registry journal =
        (List.replicate polls ⟨false, .pending, false⟩,
          journal.extend last consulted.flatten)) ∧
    (∃ causes last consulted,
      AdaptsAll registry (Fault.present feed.items) journal.serial causes last consulted ∧
      (Fault.join feed.items).run registry journal = journal.joined causes last consulted ∧
      (Fault.drain feed.items).run registry journal = journal.joined causes last consulted ∧
      ∀ later, (observe (feed.waits + (1 + later)) (new feed)).run registry journal =
        (List.replicate feed.waits ⟨false, .pending, false⟩ ++
          ⟨false, .ready (journal.joined causes last consulted).1, true⟩ ::
            List.replicate later ⟨true, .ready none, true⟩,
          (journal.joined causes last consulted).2)) := by
  constructor
  · intro polls early
    obtain ⟨arrived, rest, split, _, observed⟩ := observe_pending polls feed early
    obtain ⟨causes, last, consulted, adapts, ran⟩ :=
      adaptAfter_adapts registry (Fault.present arrived) #[] journal
    refine ⟨arrived, rest.items, causes, last, consulted, split, adapts, ?_⟩
    have stopped := observed #[] 0
    rw [Nat.add_zero] at stopped
    rw [new, stopped, run_bind, ran]
    simp only [observe, pure_bind, List.append_nil]
    rfl
  · obtain ⟨causes, last, consulted, adapts, joined⟩ := join_adapts registry feed.items journal
    refine ⟨causes, last, consulted, adapts, joined, ?_, ?_⟩
    · rw [Fault.drain_eq_join, joined]
    · intro later
      rw [observe_ready, run_bind, joined]
      rfl

/-- A feed with a foreign fault after two waits, an absent item with it, and a placeholder
one wait before the end. -/
def slowFeed : Feed := ⟨[⟨2, some diskFull⟩, ⟨0, none⟩, ⟨0, some .todo⟩], 1⟩

/-- Three polls of the slow feed are pending. The fourth one answers with both present items,
the first of them adapted, and the fifth one answers that there is no fault. -/
theorem observe_joins_slowFeed :
    2 ≤ slowFeed.waits ∧
      ((observe 2 (new slowFeed)).run refuseThenType ⟨1, #[]⟩).1 =
        [⟨false, .pending, false⟩, ⟨false, .pending, false⟩] ∧
      ((observe 5 (new slowFeed)).run refuseThenType ⟨1, #[]⟩).1 =
        [⟨false, .pending, false⟩, ⟨false, .pending, false⟩, ⟨false, .pending, false⟩,
          ⟨false, .ready (some (.joined (.serial 2)
            [.wrapped (.serial 1) (.types ["Known"]) diskFull, .todo])), true⟩,
          ⟨true, .ready none, true⟩] := by
  obtain ⟨waiting, causes, last, consulted, _, joined, _, ready⟩ :=
    observe_joins refuseThenType ⟨1, #[]⟩ slowFeed
  have early : 2 ≤ slowFeed.waits := by decide
  obtain ⟨_, _, _, _, _, _, _, pending⟩ := waiting 2 early
  refine ⟨early, congrArg Prod.fst pending, ?_⟩
  have answered := congrArg Prod.fst (ready 1)
  rw [← joined] at answered
  exact answered

end Collector

end CauseTree
