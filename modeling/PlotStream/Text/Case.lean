import PlotStream.Text.CaseTable

/-!
Capital and small letters of all scripts. The small form of the capital sigma depends on its
place: at the end of a word it is the final sigma. A word ends where, marks and punctuation
that fade out apart, no further letter with case follows.
-/

namespace PlotStream.Text

def upperChar (c : Char) : List Char :=
  match upperSequences.lookup c.toNat with
  | some points => points.map Char.ofNat
  | none => [(CaseRun.map? upperRuns c).getD c]

def upper (cs : List Char) : List Char := cs.flatMap upperChar

/-- Whether the first character that does not fade out has case. -/
def casedFirst (cs : List Char) : Bool :=
  ((cs.dropWhile fadingRanges.contains).head?).any casedRanges.contains

/-- The small letters of a character that stands between two texts, the one before it read
backwards. -/
def lowerChar (before : List Char) (c : Char) (after : List Char) : List Char :=
  if c = '\u03A3' then
    if casedFirst before && !casedFirst after then ['\u03C2'] else ['\u03C3']
  else if c = '\u0130' then ['i', '\u0307']
  else [(CaseRun.map? lowerRuns c).getD c]

/-- The rest of a text in small letters, after a text read backwards. -/
def lowerAfter (before : List Char) : List Char → List Char
  | [] => []
  | c :: rest => lowerChar before c rest ++ lowerAfter (c :: before) rest

def lower (cs : List Char) : List Char := lowerAfter [] cs

end PlotStream.Text
