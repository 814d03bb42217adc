import PlotStream.Text.Span

/-!
The picture of a place in a text: the part of its line around the place, and below it a caret
under the character in question. Tabs before the place are widened to the next multiple of
eight columns, so that the caret stands right when the line is shown on a terminal.
-/

namespace PlotStream.Text

/-- Distance between two tab stops. -/
def tabWidth : Nat := 8

/-- The number of characters a text fills once its tabs are widened, counted from `column`.
A carriage return or a line feed takes one character and returns to the first column. -/
def widthFrom (column : Nat) : List Char → Nat
  | [] => 0
  | c :: rest =>
    if c = '\t' then
      let step := tabWidth - column % tabWidth
      step + widthFrom (column + step) rest
    else if c = '\n' ∨ c = '\r' then
      1 + widthFrom 0 rest
    else
      1 + widthFrom (column + 1) rest

/-- The part of a text after its last line feed. -/
def lastLine (cs : List Char) : List Char :=
  (cs.reverse.takeWhile (· ≠ '\n')).reverse

/-- The part of a text before its first line feed. -/
def firstLine (cs : List Char) : List Char :=
  cs.takeWhile (· ≠ '\n')

/-- The line around the character at `offset`, at most `reach` characters to either side, and
a caret below that character. -/
def contextAt (cs : List Char) (offset : Int) (reach : Int) : String :=
  let before := lastLine (span cs (max (offset - reach) 0) offset)
  let after := firstLine (span cs offset (offset + reach))
  String.ofList
    (before ++ after ++ '\n' :: List.replicate (widthFrom 0 before) ' ' ++ ['^', '\n'])

/-- How far a context reaches to either side unless asked otherwise. -/
def defaultReach : Int := 40

end PlotStream.Text
