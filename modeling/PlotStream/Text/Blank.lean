/-!
Blank characters. Blanks are the white space of Unicode together with the four ASCII
information separators; commands and their arguments may be set apart by any run of them.
-/

namespace PlotStream.Text

/-- Whether a character counts as white space between tokens. -/
def isBlank (c : Char) : Bool :=
  let n := c.toNat
  (0x09 ≤ n && n ≤ 0x0D) || (0x1C ≤ n && n ≤ 0x20) || n == 0x85 || n == 0xA0 ||
    n == 0x1680 || (0x2000 ≤ n && n ≤ 0x200A) || n == 0x2028 || n == 0x2029 ||
    n == 0x202F || n == 0x205F || n == 0x3000

/-- The text without the blanks at its start. -/
def dropBlanks (cs : List Char) : List Char :=
  cs.dropWhile isBlank

/-- The text without the blanks at its end. -/
def dropBlanksRight (cs : List Char) : List Char :=
  (cs.reverse.dropWhile isBlank).reverse

/-- The text without the blanks at either end. -/
def trimBlanks (cs : List Char) : List Char :=
  dropBlanksRight (dropBlanks cs)

end PlotStream.Text
