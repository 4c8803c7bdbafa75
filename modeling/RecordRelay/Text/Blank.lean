/-!
# Blank characters

What counts as a blank at the ends of a value: the characters with the property White_Space, and
no others. In particular the zero-width space U+200B and the separators U+001C to U+001F are not
blank.
-/

namespace RecordRelay.Text

/-- The characters with the property **White_Space**. -/
def isBlank (c : Char) : Bool :=
  let n := c.toNat
  (0x09 ≤ n && n ≤ 0x0D) || n == 0x20 || n == 0x85 || n == 0xA0 || n == 0x1680 ||
    (0x2000 ≤ n && n ≤ 0x200A) || n == 0x2028 || n == 0x2029 || n == 0x202F || n == 0x205F ||
    n == 0x3000

/-- A list of characters **without the blanks at its two ends**. -/
def trimList (cs : List Char) : List Char :=
  ((cs.dropWhile isBlank).reverse.dropWhile isBlank).reverse

end RecordRelay.Text
