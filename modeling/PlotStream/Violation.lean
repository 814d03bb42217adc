import PlotStream.Command
import PlotStream.Location
import PlotStream.Text.Context

/-!
Texts that break the grammar of commands. A violation says what was expected, and where.
-/

namespace PlotStream

/-- What the grammar asked for in vain. -/
inductive Expectation where
  | digit
  | separator
  | terminator
  /-- An integer with no more digits than the greatest one has. -/
  | shortInteger
  /-- An integer in range, where `literal` stands. -/
  | integer (literal : List Char)
  deriving Repr, DecidableEq

/-- The range of integers in words. -/
def Numeral.rangeText : String :=
  "integer in [" ++ toString minValue ++ ", " ++ toString maxValue ++ "]"

def Expectation.text : Expectation → String
  | .digit => "Expected digit"
  | .separator => "Expected ','"
  | .terminator => "Expected ';'"
  | .shortInteger => "Expected " ++ Numeral.rangeText
  | .integer literal => "Expected " ++ Numeral.rangeText ++ ", got " ++ String.ofList literal

/-- A message about a place where the text breaks the grammar. -/
structure Complaint where
  text : String
  place : Location
  deriving Repr, DecidableEq

def Complaint.message (c : Complaint) : String := c.place.annotate c.text

/-- The line of `cs` that the complaint is about, with a caret below the place. -/
def Complaint.context (c : Complaint) (cs : List Char) (reach : Int) : String :=
  Text.contextAt cs c.place.offset reach

structure Violation where
  expected : Expectation
  place : Location
  deriving Repr, DecidableEq

def Violation.complaint (v : Violation) : Complaint := ⟨v.expected.text, v.place⟩

end PlotStream
