import CauseTree.Json.Lexer

/-!
# Parsing JSON

The parser reads token by token and keeps the containers that are open, innermost
first. Completing a value puts it into the innermost open container; when none is open
it is the value of the whole text, and no token may follow. A comma must be followed by
another item or member.
-/

namespace CauseTree.Json

/-- An open container: the items read so far, or the members read so far and the name
that waits for its value. Both are kept last first. -/
inductive Container where
  | array (items : List Json)
  | object (members : List (List Symbol × Json)) (name : List Symbol)

/-- What the parser expects, with the open containers. -/
inductive Parsing where
  | value (outer : List Container)
  | firstItem (outer : List Container)
  | firstName (outer : List Container)
  | name (members : List (List Symbol × Json)) (outer : List Container)
  | colon (members : List (List Symbol × Json)) (name : List Symbol) (outer : List Container)
  | after (value : Json) (outer : List Container)

/-- Reads a token where a value is expected. -/
def beginValue? (outer : List Container) : Token → Option Parsing
  | .scalar value => some (.after value outer)
  | .string symbols => some (.after (.string symbols) outer)
  | .openArray => some (.firstItem outer)
  | .openObject => some (.firstName outer)
  | _ => none

/-- Reads the token after a completed value. -/
def afterValue? (value : Json) : List Container → Token → Option Parsing
  | .array items :: outer, .comma => some (.value (.array (value :: items) :: outer))
  | .array items :: outer, .closeArray => some (.after (.array (value :: items).reverse) outer)
  | .object members name :: outer, .comma => some (.name ((name, value) :: members) outer)
  | .object members name :: outer, .closeObject =>
    some (.after (.object ((name, value) :: members).reverse) outer)
  | _, _ => none

/-- Reads one token. -/
def accept? : Parsing → Token → Option Parsing
  | .value outer, token => beginValue? outer token
  | .firstItem outer, .closeArray => some (.after (.array []) outer)
  | .firstItem outer, token => beginValue? (.array [] :: outer) token
  | .firstName outer, .closeObject => some (.after (.object []) outer)
  | .firstName outer, .string name => some (.colon [] name outer)
  | .name members outer, .string name => some (.colon members name outer)
  | .colon members name outer, .colon => some (.value (.object members name :: outer))
  | .after value outer, token => afterValue? value outer token
  | _, _ => none

/-- The parser after some tokens. -/
def acceptAll? (parsing : Parsing) : List Token → Option Parsing
  | [] => some parsing
  | token :: rest => (accept? parsing token).bind fun parsing => acceptAll? parsing rest

/-- The value of a complete sequence of tokens. -/
def ofTokens? (tokens : List Token) : Option Json :=
  match acceptAll? (.value []) tokens with
  | some (.after value []) => some value
  | _ => none

/-- The value that a text stands for, if it is JSON. -/
def parse? (text : String) : Option Json := (lex? text.toList).bind ofTokens?

end CauseTree.Json
