/-!
The drawing commands a plot text decodes to, and the integers they carry. An integer is
written as an optional minus sign and decimal digits and must fit in 32 signed bits.
-/

namespace PlotStream

inductive Command where
  | init
  | penDown
  | penUp
  | selectPen (pen : Int)
  /-- Put the pen back, as is usual at the end of a drawing. -/
  | resetPen
  | plotAbsolute (x y : Int)
  deriving Repr, DecidableEq

/-- One line of plain words for a command. -/
def Command.summary : Command → String
  | .init => "init"
  | .penDown => "pen down"
  | .penUp => "pen up"
  | .selectPen pen => "select pen " ++ toString pen
  | .resetPen => "reset pen"
  | .plotAbsolute x y => "plot absolute x: " ++ toString x ++ ", y: " ++ toString y

namespace Numeral

def minValue : Int := -2147483648

def maxValue : Int := 2147483647

/-- The number of digits of the greatest integer; a longer literal is out of range whatever
its digits are. -/
def maxDigits : Nat := 10

/-- Whether a character is one of the ten ASCII digits. -/
def isDigit (c : Char) : Bool := '0' ≤ c && c ≤ '9'

def digitValue (c : Char) : Nat := c.toNat - '0'.toNat

/-- The number written by a run of digits. -/
def magnitude (digits : List Char) : Nat :=
  digits.foldl (fun total c => 10 * total + digitValue c) 0

/-- The integer written by an optional minus sign and digits. -/
def value : List Char → Int
  | '-' :: digits => -(magnitude digits : Int)
  | digits => magnitude digits

/-- Whether an integer fits in 32 signed bits. -/
def inRange (n : Int) : Bool := minValue ≤ n && n ≤ maxValue

end Numeral

end PlotStream
