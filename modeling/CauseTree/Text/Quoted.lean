import CauseTree.Text.Printable

/-!
# Quoted texts

A quoted text stands between double quotes. The quote and the backslash take a
backslash before them, the tab, line feed, carriage return and null have short
escapes, and every other character that does not show is written as its code point
in lower-case hexadecimal, between braces after `\u`. All else, the apostrophe
included, is written as it is. A quote inside a quoted text thus always follows a
backslash, which is why the closing quote can be found.
-/

namespace CauseTree.Text

/-- The code point of a character between braces, in lower case and without padding. -/
def codePointEscape (c : Char) : List Char :=
  ['\\', 'u', '\x7b'] ++ Nat.toDigits 16 c.toNat ++ ['\x7d']

/-- How one character is written between quotes. -/
def escapeChar (c : Char) : List Char :=
  if c = '"' then ['\\', '"']
  else if c = '\\' then ['\\', '\\']
  else if c = '\t' then ['\\', 't']
  else if c = '\n' then ['\\', 'n']
  else if c = '\r' then ['\\', 'r']
  else if c = '\x00' then ['\\', '0']
  else if isShown c then [c]
  else codePointEscape c

/-- A text with every character escaped as needed, without the quotes around it. -/
def escape (text : List Char) : List Char := text.flatMap escapeChar

/-- A text between double quotes. -/
def quoted (text : String) : String := String.ofList ('"' :: escape text.toList ++ ['"'])

/-- A list of quoted texts between brackets. -/
def quotedList (texts : List String) : String :=
  "[" ++ ", ".intercalate (texts.map quoted) ++ "]"

/-- An optional text in the notation of a constructor. -/
def quotedOption : Option String → String
  | none => "None"
  | some text => "Some(" ++ quoted text ++ ")"

end CauseTree.Text
