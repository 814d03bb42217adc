/-!
Places in a plot text. A location names a character by its offset from the start of the text
and by the line and the column a reader of the text would give it. Offsets count from zero,
lines and columns from one. Before the first character is loaded the offset is `-1`, so the
three numbers are integers.
-/

namespace PlotStream

structure Location where
  offset : Int
  line : Int
  column : Int
  deriving Repr, DecidableEq

/-- The written form `line:column (offset n)`. -/
def Location.text (place : Location) : String :=
  toString place.line ++ ":" ++ toString place.column ++
    " (offset " ++ toString place.offset ++ ")"

def Location.annotate (place : Location) (message : String) : String :=
  message ++ " at " ++ place.text

end PlotStream
