import CauseTree.Json.Basic

/-!
# Compact JSON

Values are written without white space. In a string the quote and the backslash take a
backslash, five controls have short escapes, and the other controls below U+0020 are
written with four hexadecimal digits in lower case. All other characters are written as
they are.
-/

namespace CauseTree.Json

/-- Four hexadecimal digits of a code unit, after `\u`. -/
def unitEscape (unit : Nat) : List Char :=
  ['\\', 'u', Nat.digitChar (unit / 4096 % 16), Nat.digitChar (unit / 256 % 16),
    Nat.digitChar (unit / 16 % 16), Nat.digitChar (unit % 16)]

/-- How one symbol is written in a string. -/
def printSymbol : Symbol → List Char
  | .char c =>
    if c = '"' then ['\\', '"']
    else if c = '\\' then ['\\', '\\']
    else if c = '\x08' then ['\\', 'b']
    else if c = '\x0c' then ['\\', 'f']
    else if c = '\n' then ['\\', 'n']
    else if c = '\r' then ['\\', 'r']
    else if c = '\t' then ['\\', 't']
    else if c.toNat < 0x20 then unitEscape c.toNat
    else [c]
  | .surrogate unit => unitEscape unit

/-- A string between quotes. -/
def printString (symbols : List Symbol) : List Char := '"' :: symbols.flatMap printSymbol ++ ['"']

mutual

/-- The characters of a value. -/
def print : Json → List Char
  | .null => ['n', 'u', 'l', 'l']
  | .boolean true => ['t', 'r', 'u', 'e']
  | .boolean false => ['f', 'a', 'l', 's', 'e']
  | .number lexeme => lexeme
  | .string symbols => printString symbols
  | .array items => '[' :: printItems items ++ [']']
  | .object members => '\x7b' :: printMembers members ++ ['\x7d']

/-- The items of an array with commas between them. -/
def printItems : List Json → List Char
  | [] => []
  | [item] => print item
  | item :: next :: rest => print item ++ ',' :: printItems (next :: rest)

/-- The members of an object with commas between them. -/
def printMembers : List (List Symbol × Json) → List Char
  | [] => []
  | [(name, value)] => printString name ++ ':' :: print value
  | (name, value) :: next :: rest =>
    printString name ++ ':' :: print value ++ ',' :: printMembers (next :: rest)

end

/-- The compact text of a value. -/
def compact (json : Json) : String := String.ofList (print json)

end CauseTree.Json
