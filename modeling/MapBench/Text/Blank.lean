/-!
# `MapBench.Text.Blank`: blank characters, and text without them

A character is blank if Unicode lists it as white space.
-/

set_option autoImplicit false

namespace MapBench

/-- Is the character white space? -/
def isWhiteSpace (c : Char) : Bool :=
  let n := c.toNat
  (9 ≤ n && n ≤ 13) || n == 0x20 || n == 0x85 || n == 0xA0 || n == 0x1680
    || (0x2000 ≤ n && n ≤ 0x200A) || n == 0x2028 || n == 0x2029 || n == 0x202F || n == 0x205F
    || n == 0x3000

/-- A text without the blanks at its end. -/
def trimBlanksAtEnd (s : String) : String :=
  String.ofList (s.toList.reverse.dropWhile isWhiteSpace).reverse

end MapBench
