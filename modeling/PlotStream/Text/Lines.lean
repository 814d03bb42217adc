/-!
Lines of a text. A line ends with a line feed; a carriage return, alone or before a line feed,
is read as one.
-/

namespace PlotStream.Text

/-- The text with a line feed for every line end. -/
def unifyLineEnds : List Char → List Char
  | [] => []
  | '\r' :: '\n' :: rest => '\n' :: unifyLineEnds rest
  | c :: rest => (if c = '\r' then '\n' else c) :: unifyLineEnds rest

def lines : List Char → List (List Char)
  | [] => []
  | c :: rest =>
    if c = '\n' then [c] :: lines rest
    else
      match lines rest with
      | [] => [[c]]
      | first :: others => (c :: first) :: others

/-- Texts put together with a separator between them. -/
def join (separator : List Char) (texts : List (List Char)) : List Char :=
  (texts.intersperse separator).flatten

/-- A number padded with blanks to at least two characters. -/
def padTwo (n : Nat) : String := if n < 10 then " " ++ toString n else toString n

end PlotStream.Text
