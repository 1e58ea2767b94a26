/-!
# White space

A character is blank when Unicode gives it the property `White_Space`: the
controls U+0009 to U+000D, the space, and the wider set of spaces and separators
that the standard lists. Trimming removes blanks at both ends of a text and
leaves those inside alone.
-/

namespace CauseTree.Text

/-- Whether Unicode gives the character the property `White_Space`. -/
def isBlank (c : Char) : Bool :=
  let n := c.toNat
  (0x9 ≤ n && n ≤ 0xD) || n == 0x20 || n == 0x85 || n == 0xA0 || n == 0x1680 ||
    (0x2000 ≤ n && n ≤ 0x200A) || n == 0x2028 || n == 0x2029 || n == 0x202F || n == 0x205F ||
    n == 0x3000

/-- The text without the blanks at its end. -/
def trimRight (text : List Char) : List Char := (text.reverse.dropWhile isBlank).reverse

/-- The text without the blanks at either end. -/
def trim (text : List Char) : List Char := trimRight (text.dropWhile isBlank)

end CauseTree.Text
