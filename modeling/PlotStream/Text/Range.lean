/-!
Sets of characters given as ranges of code points.
-/

namespace PlotStream.Text

/-- The characters of some ranges, each given by its first and last code point. -/
abbrev Ranges := List (Nat × Nat)

/-- Whether a character lies in one of the ranges. -/
def Ranges.contains (ranges : Ranges) (c : Char) : Bool :=
  ranges.any fun (first, last) => first ≤ c.toNat && c.toNat ≤ last

end PlotStream.Text
