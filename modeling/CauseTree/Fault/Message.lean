import CauseTree.Fault.Basic

/-!
# The full message

A node's own message stands in front of the message of its cause, with a colon
between them; joined causes are separated by semicolons. Notes other than messages
show nothing here. A foreign fault and a rebuilt fault have a text of their own, and
their causes do not add to it. A custom node may have one too; a custom node without it
shows the text of its single cause, or nothing when it has none. That text is written
when it is asked for and is no part of the node.

The message is written in one pass, each piece right after those before it, so that a
long chain of causes costs no more than its text. What has been written before a fault
never changes what is written for it.
-/

namespace CauseTree.Fault

mutual

/-- Writes the full message of a fault after a text. -/
def textAfter (written : String) : Fault → String
  | base _ message _ => written ++ message
  | todo => written ++ "TODO"
  | foreign _ value => written ++ value.text
  | wrapped _ (.message text) cause => cause.textAfter (written ++ text ++ ": ")
  | wrapped _ _ cause => cause.textAfter written
  | joined _ causes => textsAfter written causes
  | rebuilt _ message .. => written ++ message
  | custom _ node none _ => written ++ node.display.getD ""
  | custom _ node (some cause) _ =>
    match node.display with
    | some display => written ++ display
    | none => cause.textAfter written

/-- Writes the full messages of several faults, with semicolons between them. -/
def textsAfter (written : String) : List Fault → String
  | [] => written
  | [fault] => fault.textAfter written
  | fault :: next :: rest => textsAfter (fault.textAfter written ++ "; ") (next :: rest)

end

/-- The full message of a fault. -/
def text (fault : Fault) : String := fault.textAfter ""

/-- The full messages of several faults, with semicolons between them. -/
def joinedText (faults : List Fault) : String := textsAfter "" faults

mutual

/-- What is written for a fault does not depend on what was written before. -/
theorem textAfter_eq (written : String) : (fault : Fault) →
    fault.textAfter written = written ++ fault.text
  | base .. => by simp [textAfter, text]
  | todo => by simp [textAfter, text]
  | foreign .. => by simp [textAfter, text]
  | wrapped _ (.message text) cause => by
    simp only [textAfter, Fault.text]
    rw [textAfter_eq (written ++ text ++ ": ") cause, textAfter_eq ("" ++ text ++ ": ") cause]
    simp [String.append_assoc]
  | wrapped _ (.stack _) cause => by
    simpa only [textAfter, Fault.text] using textAfter_eq written cause
  | wrapped _ (.types _) cause => by
    simpa only [textAfter, Fault.text] using textAfter_eq written cause
  | wrapped _ (.tags _) cause => by
    simpa only [textAfter, Fault.text] using textAfter_eq written cause
  | joined _ causes => by
    simpa only [textAfter, Fault.text, joinedText] using textsAfter_eq written causes
  | rebuilt .. => by simp [textAfter, text]
  | custom _ _ none _ => by simp [textAfter, text]
  | custom _ node (some cause) _ => by
    cases shown : node.display with
    | some display => simp [textAfter, text, shown]
    | none => simpa only [textAfter, Fault.text, shown] using textAfter_eq written cause

/-- What is written for several faults does not depend on what was written before. -/
theorem textsAfter_eq (written : String) : (faults : List Fault) →
    textsAfter written faults = written ++ joinedText faults
  | [] => by simp [textsAfter, joinedText]
  | [fault] => by
    simp only [textsAfter, joinedText]
    exact textAfter_eq written fault
  | fault :: next :: rest => by
    simp only [textsAfter, joinedText]
    rw [textsAfter_eq (fault.textAfter written ++ "; ") (next :: rest),
      textsAfter_eq (fault.textAfter "" ++ "; ") (next :: rest),
      textAfter_eq written fault, textAfter_eq "" fault]
    simp [String.append_assoc]

end

/-- A message note stands in front of the message of its cause. -/
theorem text_message (id : NodeId) (message : String) (cause : Fault) :
    (wrapped id (.message message) cause).text = message ++ ": " ++ cause.text := by
  simp only [text, textAfter]
  rw [textAfter_eq]
  simp [text]

/-- Joined faults are separated by semicolons. -/
theorem joinedText_eq (faults : List Fault) :
    joinedText faults = "; ".intercalate (faults.map text) := by
  fun_induction List.map text faults with
  | case1 => rfl
  | case2 fault rest inductionHypothesis =>
    cases rest with
    | nil => simp [joinedText, textsAfter, text]
    | cons next rest =>
      rw [List.map_cons, String.intercalate_cons_cons, ← List.map_cons, ← inductionHypothesis]
      simp only [joinedText, textsAfter]
      rw [textsAfter_eq]
      simp [text, joinedText]

end CauseTree.Fault
