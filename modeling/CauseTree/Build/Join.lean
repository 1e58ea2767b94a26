import CauseTree.Build.Layer

/-!
# Joining faults

Joining brings several optional faults together under one node. Absent ones are
dropped, each present one is adapted, and the order is kept. Without a present fault
there is nothing to join, and a single one is still put under a node of its own.

The faults may also arrive through a closed channel, which is drained item by item, or
through a feed that keeps a reader waiting. A collector reads such a feed: each poll
takes all items that have arrived and either waits for more or, at the end of the feed,
answers with the joined faults. Once it has answered, further polls answer at once that
there is no fault.
-/

namespace CauseTree

namespace Fault

/-- Puts causes under one node as they are, if there are any. -/
def gather : List Fault → Build (Option Fault)
  | [] => pure none
  | first :: later => do return some (← Build.make fun id => .joined id (first :: later))

/-- Adapts several faults in order, after those that have been adapted. -/
def adaptAfter (adapted : Array Fault) : List Fault → Build (List Fault)
  | [] => pure adapted.toList
  | fault :: rest => do
    let next ← Build.adapted fault
    adaptAfter (adapted.push next) rest

/-- Adapts several faults in order. -/
def adaptAll (faults : List Fault) : Build (List Fault) := adaptAfter #[] faults

/-- The faults that are present, in order. -/
def present (faults : List (Option Fault)) : List Fault := faults.filterMap fun fault => fault

/-- Joins the faults that are present. -/
def join (faults : List (Option Fault)) : Build (Option Fault) := do
  gather (← adaptAll (present faults))

/-- Drains a closed channel after the causes received so far. -/
def drainAfter (received : Array Fault) : List (Option Fault) → Build (Option Fault)
  | [] => gather received.toList
  | none :: rest => drainAfter received rest
  | some fault :: rest => do
    let cause ← Build.adapted fault
    drainAfter (received.push cause) rest

/-- Drains a closed channel and joins what it held. -/
def drain (channel : List (Option Fault)) : Build (Option Fault) := drainAfter #[] channel

end Fault

/-- An item on its way, and how many polls have to wait for it. -/
structure Arrival where
  delay : Nat
  item : Option Fault

/-- The items still to come, and how many polls have to wait for the end after them. -/
structure Feed where
  arrivals : List Arrival
  closing : Nat

/-- A feed of items with the delays before them and before the end. Missing delays are zero. -/
def Feed.ofDelays (delays : List Nat) : List (Option Fault) → Feed
  | [] => ⟨[], delays.headD 0⟩
  | item :: rest =>
    let feed := ofDelays delays.tail rest
    { feed with arrivals := ⟨delays.headD 0, item⟩ :: feed.arrivals }

/-- The answer of a poll. -/
inductive Poll where
  | pending
  | ready (fault : Option Fault)

/-- One poll as it is seen from outside: its answer, and whether the collector had
answered for good before it and has after it. -/
structure Observation where
  finishedBefore : Bool
  answer : Poll
  finishedAfter : Bool

/-- A reader of a feed: the causes received so far, and whether it has answered. -/
structure Collector where
  feed : Feed
  received : Array Fault
  finished : Bool

namespace Collector

/-- A collector that has not been polled. -/
def new (feed : Feed) : Collector := ⟨feed, #[], false⟩

/-- Takes the items that have arrived and waits for the next one, or answers at the end. -/
def advance (closing : Nat) (received : Array Fault) : List Arrival → Build (Poll × Collector)
  | [] =>
    match closing with
    | 0 => do return (.ready (← Fault.gather received.toList), ⟨⟨[], 0⟩, #[], true⟩)
    | closing + 1 => pure (.pending, ⟨⟨[], closing⟩, received, false⟩)
  | ⟨0, none⟩ :: rest => advance closing received rest
  | ⟨0, some fault⟩ :: rest => do
    let cause ← Build.adapted fault
    advance closing (received.push cause) rest
  | ⟨delay + 1, item⟩ :: rest =>
    pure (.pending, ⟨⟨⟨delay, item⟩ :: rest, closing⟩, received, false⟩)

/-- Polls the collector once. -/
def poll (collector : Collector) : Build (Poll × Collector) :=
  if collector.finished then pure (.ready none, collector)
  else advance collector.feed.closing collector.received collector.feed.arrivals

/-- Polls the collector so many times. -/
def observe : Nat → Collector → Build (List Observation)
  | 0, _ => pure []
  | times + 1, collector => do
    let (answer, polled) ← collector.poll
    let later ← observe times polled
    return ⟨collector.finished, answer, polled.finished⟩ :: later

end Collector

end CauseTree
