import CauseTree.Json.Basic

/-!
# Tokens of JSON

The lexer reads a text character by character and keeps what it has read of the current
token. A string ends at its closing quote. A number or a word ends at the first
character that cannot belong to it, and that character begins the next token or stands
between two; the end of the text ends it as well. A leading zero, a bare point or a plus
sign in front of a number is refused. Inside a string no control character below U+0020
may stand unescaped.
-/

namespace CauseTree.Json

/-- A piece of JSON text: punctuation, a string, or another value without parts. -/
inductive Token where
  | openArray
  | closeArray
  | openObject
  | closeObject
  | comma
  | colon
  | string (symbols : List Symbol)
  | scalar (value : Json)

/-- Where the lexer stands. What has been read of a token is kept last character first;
`code` also has the value and the number of the hexadecimal digits read so far. -/
inductive Reading where
  | between
  | string (read : List Symbol)
  | escaped (read : List Symbol)
  | code (read : List Symbol) (value digits : Nat)
  | number (read : List Char)
  | word (read : List Char)

/-- Whether the code unit is the first half of a surrogate pair. -/
def isHigh (unit : Nat) : Bool := 0xD800 ≤ unit && unit < 0xDC00

/-- Whether the code unit is the second half of a surrogate pair. -/
def isLow (unit : Nat) : Bool := 0xDC00 ≤ unit && unit < 0xE000

/-- Adds an escaped code unit to what has been read. The second half of a pair completes
a first half right before it; a half without a partner stays a half. -/
def addUnit (read : List Symbol) (unit : Nat) : List Symbol :=
  match read with
  | .surrogate high :: earlier =>
    if isHigh high && isLow unit then
      .char (Char.ofNat (0x10000 + (high - 0xD800) * 0x400 + (unit - 0xDC00))) :: earlier
    else if isHigh unit || isLow unit then .surrogate unit :: read
    else .char (Char.ofNat unit) :: read
  | _ =>
    if isHigh unit || isLow unit then .surrogate unit :: read
    else .char (Char.ofNat unit) :: read

/-- The value of a hexadecimal digit. -/
def hexValue? (c : Char) : Option Nat :=
  if '0' ≤ c ∧ c ≤ '9' then some (c.toNat - '0'.toNat)
  else if 'a' ≤ c ∧ c ≤ 'f' then some (c.toNat - 'a'.toNat + 10)
  else if 'A' ≤ c ∧ c ≤ 'F' then some (c.toNat - 'A'.toNat + 10)
  else none

/-- The character that a letter or sign after a backslash stands for. -/
def escapedChar? : Char → Option Char
  | '"' => some '"'
  | '\\' => some '\\'
  | '/' => some '/'
  | 'b' => some '\x08'
  | 'f' => some '\x0c'
  | 'n' => some '\n'
  | 'r' => some '\r'
  | 't' => some '\t'
  | _ => none

/-- Whether the text is nothing, or an exponent with at least one digit. -/
def isExponent : List Char → Bool
  | [] => true
  | mark :: rest =>
    let digits := match rest with
      | '+' :: later => later
      | '-' :: later => later
      | _ => rest
    (mark = 'e' || mark = 'E') && !digits.isEmpty && digits.all Char.isDigit

/-- Whether the text is an optional fraction and an optional exponent. -/
def isFraction : List Char → Bool
  | '.' :: rest =>
    !(rest.takeWhile Char.isDigit).isEmpty && isExponent (rest.dropWhile Char.isDigit)
  | rest => isExponent rest

/-- Whether the text is a number without a sign. -/
def isUnsigned : List Char → Bool
  | [] => false
  | '0' :: rest => isFraction rest
  | digit :: rest => digit.isDigit && isFraction (rest.dropWhile Char.isDigit)

/-- Whether the text is a number. -/
def isNumber : List Char → Bool
  | '-' :: rest => isUnsigned rest
  | text => isUnsigned text

/-- Whether the character can belong to a number. -/
def isNumberChar (c : Char) : Bool :=
  c.isDigit || c = '-' || c = '+' || c = '.' || c = 'e' || c = 'E'

/-- The number that was read, if it is one. -/
def numberToken? (read : List Char) : Option Token :=
  if isNumber read.reverse then some (.scalar (.number read.reverse)) else none

/-- The word that was read, if it is one of the three. -/
def wordToken? (read : List Char) : Option Token :=
  if read.reverse = ['n', 'u', 'l', 'l'] then some (.scalar .null)
  else if read.reverse = ['t', 'r', 'u', 'e'] then some (.scalar (.boolean true))
  else if read.reverse = ['f', 'a', 'l', 's', 'e'] then some (.scalar (.boolean false))
  else none

/-- Reads a character that belongs to no token yet. -/
def start? (c : Char) : Option (List Token × Reading) :=
  if c = ' ' ∨ c = '\t' ∨ c = '\n' ∨ c = '\r' then some ([], .between)
  else if c = '[' then some ([.openArray], .between)
  else if c = ']' then some ([.closeArray], .between)
  else if c = '\x7b' then some ([.openObject], .between)
  else if c = '\x7d' then some ([.closeObject], .between)
  else if c = ',' then some ([.comma], .between)
  else if c = ':' then some ([.colon], .between)
  else if c = '"' then some ([], .string [])
  else if c.isDigit ∨ c = '-' then some ([], .number [c])
  else if c.isLower then some ([], .word [c])
  else none

/-- Reads one character: the tokens that it completes, and where the lexer stands after it. -/
def read? (reading : Reading) (c : Char) : Option (List Token × Reading) :=
  match reading with
  | .between => start? c
  | .string read =>
    if c = '"' then some ([.string read.reverse], .between)
    else if c = '\\' then some ([], .escaped read)
    else if c.toNat < 0x20 then none
    else some ([], .string (.char c :: read))
  | .escaped read =>
    if c = 'u' then some ([], .code read 0 0)
    else (escapedChar? c).map fun char => ([], .string (.char char :: read))
  | .code read value digits =>
    (hexValue? c).map fun digit =>
      if digits < 3 then ([], .code read (value * 16 + digit) (digits + 1))
      else ([], .string (addUnit read (value * 16 + digit)))
  | .number read =>
    if isNumberChar c then some ([], .number (c :: read))
    else do
      let token ← numberToken? read
      let (tokens, reading) ← start? c
      some (token :: tokens, reading)
  | .word read =>
    if c.isLower then some ([], .word (c :: read))
    else do
      let token ← wordToken? read
      let (tokens, reading) ← start? c
      some (token :: tokens, reading)

/-- The token that the end of the text completes. -/
def finish? : Reading → Option (List Token)
  | .between => some []
  | .number read => (numberToken? read).map ([·])
  | .word read => (wordToken? read).map ([·])
  | _ => none

/-- The tokens of a text that is read on from where the lexer stands. -/
def lexFrom? (reading : Reading) : List Char → Option (List Token)
  | [] => finish? reading
  | c :: rest => do
    let (tokens, reading) ← read? reading c
    let later ← lexFrom? reading rest
    some (tokens ++ later)

/-- The tokens of a text. -/
def lex? (text : List Char) : Option (List Token) := lexFrom? .between text

end CauseTree.Json
