/-!
# JSON values

A value as it is written: numbers keep their text, and members of an object keep their
order and may repeat a name. A written string may name half of a surrogate pair, which
is no character; such a half is kept, and a string that holds one has no text. Whoever
needs the text of a string asks for it and may be refused, while a string that nobody
reads may hold what it likes.
-/

namespace CauseTree

namespace Json

/-- A character of a string, or half of a surrogate pair standing alone. -/
inductive Symbol where
  | char (c : Char)
  | surrogate (unit : Nat)
  deriving DecidableEq, Repr, Inhabited

/-- The characters of a string without surrogates. -/
def chars? : List Symbol → Option (List Char)
  | [] => some []
  | .char c :: rest => (chars? rest).map (c :: ·)
  | .surrogate _ :: _ => none

/-- The text of a string without surrogates. -/
def text? (symbols : List Symbol) : Option String := (chars? symbols).map String.ofList

/-- The symbols of a text. -/
def symbols (text : String) : List Symbol := text.toList.map Symbol.char

/-- Every text is the text of its symbols. -/
theorem text?_symbols (text : String) : text? (symbols text) = some text := by
  have chars : ∀ cs : List Char, chars? (cs.map Symbol.char) = some cs := by
    intro cs
    induction cs with
    | nil => rfl
    | cons c rest inductionHypothesis => simp [chars?, inductionHypothesis]
  simp [text?, symbols, chars]

end Json

/-- A JSON value. -/
inductive Json where
  | null
  | boolean (value : Bool)
  | number (lexeme : List Char)
  | string (symbols : List Json.Symbol)
  | array (items : List Json)
  | object (members : List (List Json.Symbol × Json))

end CauseTree
