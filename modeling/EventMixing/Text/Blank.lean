import EventMixing.Text.Ranges

/-!
# Blanks

A blank is a character with the property White_Space. Names are looked up
without the blanks around them.
-/

namespace EventMixing

namespace Blank

/-- The characters with the property White_Space. -/
def ranges : CharRanges := #[
  (0x9, 0xD), (0x20, 0x20), (0x85, 0x85), (0xA0, 0xA0), (0x1680, 0x1680), (0x2000, 0x200A),
  (0x2028, 0x2029), (0x202F, 0x202F), (0x205F, 0x205F), (0x3000, 0x3000)]

end Blank

def isBlank (c : Char) : Bool := Blank.ranges.contains c

def trimBlanks (text : List Char) : List Char :=
  ((text.dropWhile isBlank).reverse.dropWhile isBlank).reverse

end EventMixing
