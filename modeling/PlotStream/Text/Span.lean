/-!
Parts of a text given by two positions. A negative position counts from the end, and a
position beyond either end is moved to that end, so every pair of positions names a part.
-/

namespace PlotStream.Text

/-- The position `i` of a text of `size` characters as an index between `0` and `size`. -/
def clampPosition (size : Nat) (i : Int) : Nat :=
  if i < 0 then (i + size).toNat else min i.toNat size

/-- The characters from position `start` up to but without position `stop`. -/
def span (cs : List Char) (start stop : Int) : List Char :=
  (cs.take (clampPosition cs.length stop)).drop (clampPosition cs.length start)

/-- A list cut into pieces of `size` elements, the last one possibly shorter. Pieces hold at
least one element whatever `size` is. -/
def pieces {α : Type} (size : Nat) : List α → List (List α)
  | [] => []
  | x :: rest => (x :: rest.take (size - 1)) :: pieces size (rest.drop (size - 1))
termination_by xs => xs.length
decreasing_by
  simp only [List.length_drop, List.length_cons]
  omega

end PlotStream.Text
