import CauseTree.Fault.Basic

/-!
# Dumps

A dump shows the nodes of a graph as nested records: the kind of node, its own message
in quotes, and its causes. Where a node brings causes together they are shown in
brackets, and its single cause is not. The type behind a foreign fault stands in angle
brackets after the word for its kind.

A dump is written in one pass, each piece right after those before it. What has been
written before a fault never changes what is written for it.
-/

namespace CauseTree.Fault

/-- How a dump names the kind of node. -/
def dumpName : Fault → String
  | foreign _ value => "Foreign<" ++ value.typeName ++ ">"
  | fault => fault.typeName

/-- The opening of a node's dump, up to its own message. An absent message is empty. -/
def dumpHead (fault : Fault) : String :=
  fault.dumpName ++ " \x7b msg: " ++ Text.quoted (fault.message?.getD "")

mutual

/-- Writes the node, its own message and its causes as nested records after a text. -/
def dumpAfter (written : String) : Fault → String
  | wrapped id note cause =>
    cause.dumpAfter (written ++ (wrapped id note cause).dumpHead ++ ", cause: ") ++ " \x7d"
  | joined id causes =>
    dumpsAfter (written ++ (joined id causes).dumpHead ++ ", causes: [") causes ++ "] \x7d"
  | rebuilt id message types tags stack causes =>
    dumpsAfter
      (written ++ (rebuilt id message types tags stack causes).dumpHead ++ ", causes: [")
      causes ++ "] \x7d"
  | custom id node cause (some causes) =>
    dumpsAfter (written ++ (custom id node cause (some causes)).dumpHead ++ ", causes: [")
      causes ++ "] \x7d"
  | custom id node (some cause) none =>
    cause.dumpAfter (written ++ (custom id node (some cause) none).dumpHead ++ ", cause: ") ++
      " \x7d"
  | fault => written ++ fault.dumpHead ++ " \x7d"

/-- Writes the dumps of several faults, with commas between them. -/
def dumpsAfter (written : String) : List Fault → String
  | [] => written
  | [fault] => fault.dumpAfter written
  | fault :: next :: rest => dumpsAfter (fault.dumpAfter written ++ ", ") (next :: rest)

end

/-- The node, its own message and its causes as nested records. -/
def dump (fault : Fault) : String := fault.dumpAfter ""

/-- The dumps of several faults, with commas between them. -/
def dumps (faults : List Fault) : String := dumpsAfter "" faults

mutual

/-- What is written for a fault does not depend on what was written before. -/
theorem dumpAfter_eq (written : String) : (fault : Fault) →
    fault.dumpAfter written = written ++ fault.dump
  | base .. => by simp [dumpAfter, dump, String.append_assoc]
  | todo => by simp [dumpAfter, dump, String.append_assoc]
  | foreign .. => by simp [dumpAfter, dump, String.append_assoc]
  | wrapped id note cause => by
    simp only [dumpAfter, dump]
    rw [dumpAfter_eq (written ++ _ ++ _) cause, dumpAfter_eq ("" ++ _ ++ _) cause]
    simp [String.append_assoc]
  | joined id causes => by
    simp only [dumpAfter, dump]
    rw [dumpsAfter_eq (written ++ _ ++ _) causes, dumpsAfter_eq ("" ++ _ ++ _) causes]
    simp [String.append_assoc]
  | rebuilt id message types tags stack causes => by
    simp only [dumpAfter, dump]
    rw [dumpsAfter_eq (written ++ _ ++ _) causes, dumpsAfter_eq ("" ++ _ ++ _) causes]
    simp [String.append_assoc]
  | custom id node cause (some causes) => by
    simp only [dumpAfter, dump]
    rw [dumpsAfter_eq (written ++ _ ++ _) causes, dumpsAfter_eq ("" ++ _ ++ _) causes]
    simp [String.append_assoc]
  | custom id node (some cause) none => by
    simp only [dumpAfter, dump]
    rw [dumpAfter_eq (written ++ _ ++ _) cause, dumpAfter_eq ("" ++ _ ++ _) cause]
    simp [String.append_assoc]
  | custom id node none none => by simp [dumpAfter, dump, String.append_assoc]

/-- What is written for several faults does not depend on what was written before. -/
theorem dumpsAfter_eq (written : String) : (faults : List Fault) →
    dumpsAfter written faults = written ++ dumps faults
  | [] => by simp [dumpsAfter, dumps]
  | [fault] => by
    simp only [dumpsAfter, dumps]
    exact dumpAfter_eq written fault
  | fault :: next :: rest => by
    simp only [dumpsAfter, dumps]
    rw [dumpsAfter_eq (fault.dumpAfter written ++ ", ") (next :: rest),
      dumpsAfter_eq (fault.dumpAfter "" ++ ", ") (next :: rest),
      dumpAfter_eq written fault, dumpAfter_eq "" fault]
    simp [String.append_assoc]

end

/-- The dumps of several faults are those of each, with commas between them. -/
theorem dumps_eq (faults : List Fault) : dumps faults = ", ".intercalate (faults.map dump) := by
  fun_induction List.map dump faults with
  | case1 => rfl
  | case2 fault rest inductionHypothesis =>
    cases rest with
    | nil => simp [dumps, dumpsAfter, dump]
    | cons next rest =>
      rw [List.map_cons, String.intercalate_cons_cons, ← List.map_cons, ← inductionHypothesis]
      simp only [dumps, dumpsAfter]
      rw [dumpsAfter_eq]
      simp [dump, dumps]

/-- What a dump shows of the causes: those that the node brings together, or else its
single cause. -/
theorem dump_eq (fault : Fault) :
    fault.dump =
      match fault.causes?, fault.cause? with
      | some causes, _ => fault.dumpHead ++ ", causes: [" ++ dumps causes ++ "] \x7d"
      | none, some cause => fault.dumpHead ++ ", cause: " ++ cause.dump ++ " \x7d"
      | none, none => fault.dumpHead ++ " \x7d" := by
  show fault.dumpAfter "" = _
  cases fault with
  | custom id node cause causes =>
    cases cause <;> cases causes <;> simp only [dumpAfter] <;>
      simp [cause?, causes?, dumpAfter_eq, dumpsAfter_eq]
  | _ => simp only [dumpAfter]; simp [cause?, causes?, dumpAfter_eq, dumpsAfter_eq]

end CauseTree.Fault
