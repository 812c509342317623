/-
# SchemaChange.Text.Blank — blank characters and trimming

Blanks are the characters of bidirectional class white space, segment or
paragraph separator, and the space separators.  `trim` removes them from both
ends of a text; `numeralBlank` is the smaller class that may surround a numeral,
which leaves out the four information separators U+001C to U+001F.
-/
import SchemaChange.Text.Ranges

set_option autoImplicit false

namespace SchemaChange.Text

/-- The code points of the blank characters. -/
def blankRanges : Ranges :=
  [(0x9, 0xD), (0x1C, 0x20), (0x85, 0x85), (0xA0, 0xA0), (0x1680, 0x1680),
   (0x2000, 0x200A), (0x2028, 0x2029), (0x202F, 0x202F), (0x205F, 0x205F), (0x3000, 0x3000)]

/-- Whether a character is blank. -/
def isBlank (c : Char) : Bool :=
  blankRanges.holds c.toNat

/-- Whether a character may stand before or after a numeral. -/
def numeralBlank (c : Char) : Bool :=
  isBlank c && !(0x1C ≤ c.toNat && c.toNat ≤ 0x1F)

/-- A text without the members of a class at its ends. -/
def trimBy (drop : Char → Bool) (text : List Char) : List Char :=
  ((text.dropWhile drop).reverse.dropWhile drop).reverse

/-- A text without the blanks at its ends. -/
def trim (text : List Char) : List Char :=
  trimBy isBlank text

end SchemaChange.Text
