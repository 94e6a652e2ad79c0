/-
Module: WaitFor.Text.Blank
Purpose: White space and trimming.
Main exports: Text.isBlank, Text.trim
-/

namespace WaitFor.Text

/-- The property White_Space: controls U+0009 to U+000D, the space, and the other separators. -/
def isBlank (c : Char) : Bool :=
  let n := c.toNat
  (0x9 ≤ n && n ≤ 0xD) || n == 0x20 || n == 0x85 || n == 0xA0 || n == 0x1680 ||
    (0x2000 ≤ n && n ≤ 0x200A) || n == 0x2028 || n == 0x2029 || n == 0x202F || n == 0x205F ||
    n == 0x3000

/-- The text without white space at its ends. -/
def trim (text : List Char) : List Char :=
  ((text.dropWhile isBlank).reverse.dropWhile isBlank).reverse

end WaitFor.Text
