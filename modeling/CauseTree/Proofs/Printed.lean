import CauseTree.Json.Parser
import CauseTree.Json.Printer

/-!
# Reading printed JSON

A value that is built of texts, arrays and objects is read back from its compact text.
Lexing and parsing are taken apart by the tokens of a value. A piece of text that ends
outside all tokens adds its tokens to whatever follows it, so pieces can be put one after
another; likewise the tokens of a value leave the parser after that value, whatever
containers are open and whatever follows.

Between its quotes every character of a text is written so that the lexer reads exactly
that character: as it is, by a short escape, or as a control with four digits, which
can not pair up with a surrogate before it.
-/

namespace CauseTree.Json

/-- Texts, and arrays and objects of such values with texts as names. -/
inductive Textual : Json → Prop where
  | text (text : String) : Textual (.string (symbols text))
  | array (items : List Json) (each : ∀ item ∈ items, Textual item) : Textual (.array items)
  | object (members : List (List Symbol × Json))
      (named : ∀ member ∈ members, ∃ name, member.1 = symbols name)
      (each : ∀ member ∈ members, Textual member.2) : Textual (.object members)

mutual

/-- The tokens of a value. -/
def tokens : Json → List Token
  | .string symbols => [.string symbols]
  | .array items => .openArray :: (itemTokens items ++ [.closeArray])
  | .object members => .openObject :: (memberTokens members ++ [.closeObject])
  | scalar => [.scalar scalar]

/-- The tokens of items with commas between them. -/
def itemTokens : List Json → List Token
  | [] => []
  | [item] => tokens item
  | item :: next :: rest => tokens item ++ .comma :: itemTokens (next :: rest)

/-- The tokens of members with commas between them. -/
def memberTokens : List (List Symbol × Json) → List Token
  | [] => []
  | [(name, value)] => .string name :: .colon :: tokens value
  | (name, value) :: next :: rest =>
    .string name :: .colon :: (tokens value ++ .comma :: memberTokens (next :: rest))

end

/-- The text has these tokens, and the lexer stands between two tokens after it. -/
def Lexes (text : List Char) (tokens : List Token) : Prop :=
  ∀ rest, lexFrom? .between (text ++ rest) = (lexFrom? .between rest).map (tokens ++ ·)

/-- The tokens of a text stand before those of the text after it. -/
theorem Lexes.append {text later : List Char} {tokens laterTokens : List Token}
    (first : Lexes text tokens) (second : Lexes later laterTokens) :
    Lexes (text ++ later) (tokens ++ laterTokens) := by
  intro rest
  rw [List.append_assoc, first, second, Option.map_map]
  congr 1
  funext read
  simp

/-- The tokens that a character completes stand before those of what follows it. -/
theorem lexFrom?_step {reading after : Reading} {c : Char} {tokens : List Token}
    (step : read? reading c = some (tokens, after)) (rest : List Char) :
    lexFrom? reading (c :: rest) = (lexFrom? after rest).map (tokens ++ ·) := by
  rw [lexFrom?, step]
  cases later : lexFrom? after rest <;> simp [later]

/-- A character that completes no token is read on its own. -/
theorem lexFrom?_cons {reading after : Reading} {c : Char}
    (step : read? reading c = some ([], after)) (rest : List Char) :
    lexFrom? reading (c :: rest) = lexFrom? after rest := by
  simp [lexFrom?_step step]

/-- A character that is a token of its own. -/
theorem lexes_mark {c : Char} {token : Token} (mark : start? c = some ([token], .between)) :
    Lexes [c] [token] := by
  intro rest
  have step : read? .between c = some ([token], .between) := mark
  exact lexFrom?_step step rest

/-- A hexadecimal digit has its value. -/
theorem hexValue?_digitChar (digit : Nat) (small : digit < 16) :
    hexValue? (Nat.digitChar digit) = some digit := by
  revert digit
  decide

/-- An escaped control is no half of a pair. -/
theorem addUnit_control (read : List Symbol) (c : Char) (control : c.toNat < 0x20) :
    addUnit read c.toNat = .char c :: read := by
  have high : isHigh c.toNat = false := by
    simp [isHigh]
    omega
  have low : isLow c.toNat = false := by
    simp [isLow]
    omega
  unfold addUnit
  split <;> simp [high, low, Char.ofNat_toNat]

/-- Inside a string, four digits of a control are read as that control. -/
theorem lexFrom?_unitEscape (read : List Symbol) (c : Char) (control : c.toNat < 0x20)
    (rest : List Char) :
    lexFrom? (.string read) (unitEscape c.toNat ++ rest) =
      lexFrom? (.string (.char c :: read)) rest := by
  have digit (value : Nat) : hexValue? (Nat.digitChar (value % 16)) = some (value % 16) :=
    hexValue?_digitChar _ (Nat.mod_lt _ (by decide))
  have value : (((0 * 16 + c.toNat / 4096 % 16) * 16 + c.toNat / 256 % 16) * 16 +
      c.toNat / 16 % 16) * 16 + c.toNat % 16 = c.toNat := by
    omega
  have last := addUnit_control read c control
  rw [← value] at last
  have escaped : read? (.string read) '\\' = some ([], .escaped read) := rfl
  have coded : read? (.escaped read) 'u' = some ([], .code read 0 0) := rfl
  have further (value digits : Nat) (few : digits < 3) (unit : Nat) :
      read? (.code read value digits) (Nat.digitChar (unit % 16)) =
        some ([], .code read (value * 16 + unit % 16) (digits + 1)) := by
    simp [read?, digit, few]
  have completed (value unit : Nat) :
      read? (.code read value 3) (Nat.digitChar (unit % 16)) =
        some ([], .string (addUnit read (value * 16 + unit % 16))) := by
    simp [read?, digit]
  simp only [unitEscape, List.cons_append, List.nil_append]
  rw [lexFrom?_cons escaped, lexFrom?_cons coded, lexFrom?_cons (further 0 0 (by decide) _),
    lexFrom?_cons (further _ 1 (by decide) _), lexFrom?_cons (further _ 2 (by decide) _),
    lexFrom?_cons (completed _ _), last]

/-- Inside a string a written character is read as that character. -/
theorem lexFrom?_printSymbol (read : List Symbol) (c : Char) (rest : List Char) :
    lexFrom? (.string read) (printSymbol (.char c) ++ rest) =
      lexFrom? (.string (.char c :: read)) rest := by
  -- A short escape is read in two steps: the backslash, and the letter that stands for `c`.
  have short (letter : Char) (plain : letter ≠ 'u') (meant : escapedChar? letter = some c) :
      lexFrom? (.string read) (['\\', letter] ++ rest) =
        lexFrom? (.string (.char c :: read)) rest := by
    have escaped : read? (.escaped read) letter = some ([], .string (.char c :: read)) := by
      simp [read?, plain, meant]
    have started : read? (.string read) '\\' = some ([], .escaped read) := rfl
    exact (lexFrom?_cons started _).trans (lexFrom?_cons escaped rest)
  simp only [printSymbol]
  split
  · next same => exact short '"' (by decide) (by simp [escapedChar?, same])
  split
  · next same => exact short '\\' (by decide) (by simp [escapedChar?, same])
  split
  · next same => exact short 'b' (by decide) (by simp [escapedChar?, same])
  split
  · next same => exact short 'f' (by decide) (by simp [escapedChar?, same])
  split
  · next same => exact short 'n' (by decide) (by simp [escapedChar?, same])
  split
  · next same => exact short 'r' (by decide) (by simp [escapedChar?, same])
  split
  · next same => exact short 't' (by decide) (by simp [escapedChar?, same])
  split
  · next control => exact lexFrom?_unitEscape read c control rest
  · next notQuote notBackslash _ _ _ _ _ notControl =>
    apply lexFrom?_cons
    simp [read?, notQuote, notBackslash, notControl]

/-- Between its quotes a text is read character by character. -/
theorem lexFrom?_chars (read : List Symbol) (chars : List Char) (rest : List Char) :
    lexFrom? (.string read) ((chars.map Symbol.char).flatMap printSymbol ++ '"' :: rest) =
      (lexFrom? .between rest).map
        (Token.string (read.reverse ++ chars.map Symbol.char) :: ·) := by
  induction chars generalizing read with
  | nil =>
    have closed : read? (.string read) '"' = some ([.string read.reverse], .between) := rfl
    simpa using lexFrom?_step closed rest
  | cons c later inductionHypothesis =>
    rw [List.map_cons, List.flatMap_cons, List.append_assoc, lexFrom?_printSymbol,
      inductionHypothesis]
    simp

/-- A printed text is one token. -/
theorem lexes_text (text : String) : Lexes (printString (symbols text)) [.string (symbols text)] := by
  intro rest
  have opened : read? .between '"' = some ([], .string []) := rfl
  have shape : printString (symbols text) ++ rest =
      '"' :: ((text.toList.map Symbol.char).flatMap printSymbol ++ '"' :: rest) := by
    simp [printString, symbols]
  rw [shape, lexFrom?_cons opened, lexFrom?_chars]
  rfl

/-- Printed items have the tokens of the items. -/
theorem lexes_items (items : List Json) (each : ∀ item ∈ items, Lexes (print item) (tokens item)) :
    Lexes (printItems items) (itemTokens items) := by
  induction items with
  | nil =>
    intro rest
    simp [printItems, itemTokens]
  | cons item rest inductionHypothesis =>
    obtain ⟨first, others⟩ := List.forall_mem_cons.mp each
    cases rest with
    | nil => exact first
    | cons next rest =>
      have comma : Lexes [','] [.comma] := lexes_mark rfl
      exact first.append (comma.append (inductionHypothesis others))

/-- Printed members have the tokens of the members. -/
theorem lexes_members (members : List (List Symbol × Json))
    (named : ∀ member ∈ members, ∃ name, member.1 = symbols name)
    (each : ∀ member ∈ members, Lexes (print member.2) (tokens member.2)) :
    Lexes (printMembers members) (memberTokens members) := by
  induction members with
  | nil =>
    intro rest
    simp [printMembers, memberTokens]
  | cons member rest inductionHypothesis =>
    obtain ⟨name, value⟩ := member
    obtain ⟨⟨text, rfl⟩, otherNames⟩ := List.forall_mem_cons.mp named
    obtain ⟨first, others⟩ := List.forall_mem_cons.mp each
    have colon : Lexes [':'] [.colon] := lexes_mark rfl
    have one := (lexes_text text).append (colon.append first)
    cases rest with
    | nil => exact one
    | cons next rest =>
      have comma : Lexes [','] [.comma] := lexes_mark rfl
      have all := one.append (comma.append (inductionHypothesis otherNames others))
      simpa [printMembers, memberTokens] using all

/-- A printed value has the tokens of the value. -/
theorem lexes_print {json : Json} (textual : Textual json) : Lexes (print json) (tokens json) := by
  induction textual with
  | text text => exact lexes_text text
  | array items each inductionHypothesis =>
    have opened : Lexes ['['] [.openArray] := lexes_mark rfl
    have closed : Lexes [']'] [.closeArray] := lexes_mark rfl
    exact opened.append ((lexes_items items inductionHypothesis).append closed)
  | object members named each inductionHypothesis =>
    have opened : Lexes ['\x7b'] [.openObject] := lexes_mark rfl
    have closed : Lexes ['\x7d'] [.closeObject] := lexes_mark rfl
    exact opened.append ((lexes_members members named inductionHypothesis).append closed)

/-- The tokens take the parser from where a value is expected to after that value,
whatever containers are open and whatever follows. -/
def Completes (tokens : List Token) (value : Json) : Prop :=
  ∀ outer rest, acceptAll? (.value outer) (tokens ++ rest) = acceptAll? (.after value outer) rest

/-- The first of several items is read as any later one. -/
theorem firstItem_eq (item : Json) (later : List Json) (outer : List Container)
    (rest : List Token) :
    acceptAll? (.firstItem outer) (itemTokens (item :: later) ++ rest) =
      acceptAll? (.value (.array [] :: outer)) (itemTokens (item :: later) ++ rest) := by
  cases later <;> cases item <;> rfl

/-- The first of several members is read as any later one. -/
theorem firstName_eq (member : List Symbol × Json) (later : List (List Symbol × Json))
    (outer : List Container) (rest : List Token) :
    acceptAll? (.firstName outer) (memberTokens (member :: later) ++ rest) =
      acceptAll? (.name [] outer) (memberTokens (member :: later) ++ rest) := by
  cases later <;> rfl

/-- The tokens of items complete the array whose earlier items have been read. -/
theorem completes_items (items : List Json) (some : items ≠ [])
    (each : ∀ item ∈ items, Completes (tokens item) item) (earlier : List Json)
    (outer : List Container) (rest : List Token) :
    acceptAll? (.value (.array earlier :: outer)) (itemTokens items ++ .closeArray :: rest) =
      acceptAll? (.after (.array (earlier.reverse ++ items)) outer) rest := by
  induction items generalizing earlier with
  | nil => exact absurd rfl some
  | cons item later inductionHypothesis =>
    obtain ⟨first, others⟩ := List.forall_mem_cons.mp each
    cases later with
    | nil =>
      rw [itemTokens, first]
      simp [acceptAll?, accept?, afterValue?]
    | cons next later =>
      have further := inductionHypothesis (List.cons_ne_nil _ _) others (item :: earlier)
      rw [itemTokens, List.append_assoc, first]
      simpa [acceptAll?, accept?, afterValue?] using further

/-- The tokens of members complete the object whose earlier members have been read. -/
theorem completes_members (members : List (List Symbol × Json)) (some : members ≠ [])
    (each : ∀ member ∈ members, Completes (tokens member.2) member.2)
    (earlier : List (List Symbol × Json)) (outer : List Container) (rest : List Token) :
    acceptAll? (.name earlier outer) (memberTokens members ++ .closeObject :: rest) =
      acceptAll? (.after (.object (earlier.reverse ++ members)) outer) rest := by
  induction members generalizing earlier with
  | nil => exact absurd rfl some
  | cons member later inductionHypothesis =>
    obtain ⟨name, value⟩ := member
    obtain ⟨first, others⟩ := List.forall_mem_cons.mp each
    -- After the name and the colon the parser expects the value of this member.
    have entered (more : List Token) :
        acceptAll? (.name earlier outer) (.string name :: .colon :: (tokens value ++ more)) =
          acceptAll? (.after value (.object earlier name :: outer)) more :=
      first (.object earlier name :: outer) more
    cases later with
    | nil =>
      rw [memberTokens]
      exact (entered _).trans (by simp [acceptAll?, accept?, afterValue?])
    | cons next later =>
      have further := inductionHypothesis (List.cons_ne_nil _ _) others ((name, value) :: earlier)
      rw [memberTokens]
      simpa [entered, acceptAll?, accept?, afterValue?] using further

/-- The tokens of a value are parsed as that value. -/
theorem completes_tokens {json : Json} (textual : Textual json) :
    Completes (tokens json) json := by
  induction textual with
  | text text =>
    intro outer rest
    rfl
  | array items each inductionHypothesis =>
    intro outer rest
    cases items with
    | nil => rfl
    | cons item later =>
      have opened : acceptAll? (.value outer) (tokens (.array (item :: later)) ++ rest) =
          acceptAll? (.firstItem outer) (itemTokens (item :: later) ++ .closeArray :: rest) := by
        simp [tokens, acceptAll?, accept?, beginValue?]
      rw [opened, firstItem_eq]
      exact completes_items _ (List.cons_ne_nil _ _) inductionHypothesis [] outer rest
  | object members named each inductionHypothesis =>
    intro outer rest
    cases members with
    | nil => rfl
    | cons member later =>
      have opened : acceptAll? (.value outer) (tokens (.object (member :: later)) ++ rest) =
          acceptAll? (.firstName outer) (memberTokens (member :: later) ++ .closeObject :: rest) := by
        simp [tokens, acceptAll?, accept?, beginValue?]
      rw [opened, firstName_eq]
      exact completes_members _ (List.cons_ne_nil _ _) inductionHypothesis [] outer rest

/-- A textual value is read back from its compact text. -/
theorem parse?_compact {json : Json} (textual : Textual json) : parse? (compact json) = some json := by
  have lexed : lex? (print json) = some (tokens json) := by
    simpa [lex?, lexFrom?, finish?] using lexes_print textual []
  have parsed : acceptAll? (.value []) (tokens json) = some (.after json []) := by
    simpa [acceptAll?] using completes_tokens textual [] []
  simp [parse?, compact, lexed, ofTokens?, parsed]

end CauseTree.Json
