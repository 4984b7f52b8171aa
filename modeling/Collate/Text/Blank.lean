import Collate.Text.Ranges

/-!
# Blank characters

The characters that count as white space: the ASCII blanks with the four information separators, the
next-line control, and the space, line and paragraph separators of Unicode.
-/

namespace Collate.Text

/-- The blank characters. -/
def blankRanges : Ranges := [
  (0x9, 0xD), (0x1C, 0x20), (0x85, 0x85), (0xA0, 0xA0), (0x1680, 0x1680), (0x2000, 0x200A),
  (0x2028, 0x2029), (0x202F, 0x202F), (0x205F, 0x205F), (0x3000, 0x3000)]

/-- Whether `c` is white space. -/
def isBlank (c : Char) : Bool := blankRanges.holds c.toNat

end Collate.Text
