/-!
# Blank text

A piece of source is blank when every character of it is white space in the sense of the
Unicode character database. The set is larger than the white space of ASCII, and it decides
which pieces the lexer skips and which files count as empty.
-/

namespace LexisFront.Text

/-- Whether a character is white space. -/
def isBlankChar (c : Char) : Bool :=
  let point := c.toNat
  (0x9 ≤ point && point ≤ 0xD) || point == 0x20 || point == 0x85 || point == 0xA0 ||
    point == 0x1680 || (0x2000 ≤ point && point ≤ 0x200A) || point == 0x2028 ||
    point == 0x2029 || point == 0x202F || point == 0x205F || point == 0x3000

/-- Whether every character of a text is white space; the empty text is blank. -/
def isBlank (text : List Char) : Bool :=
  text.all isBlankChar

/-- A text without the white space at its two ends. -/
def trim (text : List Char) : List Char :=
  ((text.dropWhile isBlankChar).reverse.dropWhile isBlankChar).reverse

end LexisFront.Text
