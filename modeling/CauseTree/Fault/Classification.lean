import CauseTree.Fault.Walk

/-!
# Types, tags and predicates of a graph

A type name applies to a fault when a node on the way down declares it or a predicate
of that name answers yes. The answer of a predicate is final for what is below its
node; a declaration on the same node comes before it. The listing of all type names
knows no such finality: it gathers the declared names and the predicates that answer
yes over the whole walk.

Tags are gathered over the whole walk too, and sorted. Looking up a name finds the
tag closest to the outside.
-/

namespace CauseTree.Fault

/-- What a node itself says about a type name: yes when it declares the name, and the
answer of its predicate otherwise, if it has one. -/
def verdict? (fault : Fault) (kind : String) : Option Bool :=
  if fault.ownTypes.contains kind then some true else fault.predicate? kind

mutual

/-- Whether the type name applies to the fault. The first verdict on the way down
counts; where the way branches, one branch is enough. -/
def isKind (kind : String) : Fault → Bool
  | wrapped id note cause => ((wrapped id note cause).verdict? kind).getD (cause.isKind kind)
  | joined id causes => ((joined id causes).verdict? kind).getD (anyIsKind kind causes)
  | rebuilt id message types tags stack causes =>
    ((rebuilt id message types tags stack causes).verdict? kind).getD (anyIsKind kind causes)
  | custom id node (some cause) causes =>
    ((custom id node (some cause) causes).verdict? kind).getD (cause.isKind kind)
  | custom id node none (some causes) =>
    ((custom id node none (some causes)).verdict? kind).getD (anyIsKind kind causes)
  | fault => (fault.verdict? kind).getD false

/-- Whether the type name applies to one of the faults. -/
def anyIsKind (kind : String) : List Fault → Bool
  | [] => false
  | fault :: rest => fault.isKind kind || anyIsKind kind rest

end

/-- A verdict of the node itself settles the question; without one it passes to what a
walk reaches from the node. -/
theorem isKind_eq (kind : String) (fault : Fault) :
    fault.isKind kind = (fault.verdict? kind).getD (anyIsKind kind fault.next) := by
  cases fault with
  | custom id node cause causes =>
    cases cause <;> cases causes <;> simp [isKind, anyIsKind, next, cause?, causes?]
  | _ => simp [isKind, anyIsKind, next, cause?, causes?]

/-- The type names that a node contributes: those it declares, then the listed
predicates that answer yes. -/
def ownKinds (fault : Fault) : List String :=
  fault.ownTypes ++ fault.predicateNames.filter fun name => fault.predicate? name = some true

/-- Type names in increasing order, each once. -/
def distinctNames (names : List String) : List String := Ordered.distinct (Ordered.sort names)

/-- All type names of a fault and of what it was built from, in increasing order, each once. -/
def types (fault : Fault) : List String := distinctNames (fault.walk.toList.flatMap ownKinds)

/-- All tags of a fault and of what it was built from, in increasing order, repeats kept. -/
def tags (fault : Fault) : List Tag := Ordered.sort (fault.walk.toList.flatMap ownTags)

mutual

/-- The value of the first tag of that name on the walk. What comes after it is not visited. -/
def lookupTag (name : String) : Fault → Option String
  | wrapped id note cause =>
    (Tag.lookup name (wrapped id note cause).ownTags).or (cause.lookupTag name)
  | joined id causes => (Tag.lookup name (joined id causes).ownTags).or (lookupTagIn name causes)
  | rebuilt id message types tags stack causes =>
    (Tag.lookup name (rebuilt id message types tags stack causes).ownTags).or
      (lookupTagIn name causes)
  | custom id node (some cause) causes =>
    (Tag.lookup name (custom id node (some cause) causes).ownTags).or (cause.lookupTag name)
  | custom id node none (some causes) =>
    (Tag.lookup name (custom id node none (some causes)).ownTags).or (lookupTagIn name causes)
  | fault => Tag.lookup name fault.ownTags

/-- The value of the first tag of that name on the walks from several faults in order. -/
def lookupTagIn (name : String) : List Fault → Option String
  | [] => none
  | fault :: rest => (fault.lookupTag name).or (lookupTagIn name rest)

end

/-- A tag of the node itself counts before those that a walk reaches from the node. -/
theorem lookupTag_eq (name : String) (fault : Fault) :
    fault.lookupTag name = (Tag.lookup name fault.ownTags).or (lookupTagIn name fault.next) := by
  cases fault with
  | custom id node cause causes =>
    cases cause <;> cases causes <;> simp [lookupTag, lookupTagIn, next, cause?, causes?]
  | _ => simp [lookupTag, lookupTagIn, next, cause?, causes?]

end CauseTree.Fault
