import ImageRefs.Text.Ranges

/-!
White space in the sense of the Unicode property White_Space, and texts without it at their ends.
-/

set_option autoImplicit false

namespace ImageRefs.Text

/-- The code points that have the property White_Space. -/
def blankRanges : Ranges :=
  [(0x9, 0xD), (0x20, 0x20), (0x85, 0x85), (0xA0, 0xA0), (0x1680, 0x1680), (0x2000, 0x200A),
    (0x2028, 0x2029), (0x202F, 0x202F), (0x205F, 0x205F), (0x3000, 0x3000)]

def isBlank (c : Char) : Bool :=
  blankRanges.contains c.toNat

def trimStart (text : List Char) : List Char :=
  text.dropWhile isBlank

/-- Drops the longest run of white space at the end. -/
def trimEnd (text : List Char) : List Char :=
  (text.reverse.dropWhile isBlank).reverse

def trim (text : List Char) : List Char :=
  trimEnd (trimStart text)

end ImageRefs.Text
