import PlotStream.Text.Blank
import PlotStream.Text.Decimal
import PlotStream.Text.Quoted

/-!
Integers as people write them in settings: blanks around, an optional sign, decimal digits of
any script, and single underscores between digits. A literal with very many digits is refused.
-/

namespace PlotStream.Text

/-- The greatest number of digits that are read. -/
def maxIntegerDigits : Nat := 4300

/-- Why a text is not read as an integer. -/
inductive IntegerFault where
  | malformed (text : String)
  | tooLong (digits : Nat)
  deriving Repr, DecidableEq

/-- How much of a malformed text is shown. -/
def shownLength : Nat := 200

def IntegerFault.message : IntegerFault → String
  | .malformed text =>
    "invalid literal for int() with base 10: " ++
      String.ofList ((quoted text).toList.take shownLength)
  | .tooLong digits =>
    "Exceeds the limit (" ++ toString maxIntegerDigits ++
      " digits) for integer string conversion: value has " ++ toString digits ++
      " digits; use sys.set_int_max_str_digits() to increase the limit"

/-- The digits at the front of a text and what follows them. Single underscores may stand
between two digits; `expected` tells that the next character has to be a digit. -/
def digitRun (expected : Bool) : List Char → Option (List Nat × List Char)
  | [] => if expected then none else some ([], [])
  | c :: rest =>
    match digitValue? c with
    | some d => (digitRun false rest).map fun (digits, after) => (d :: digits, after)
    | none =>
      if expected then none else if c = '_' then digitRun true rest else some ([], c :: rest)

/-- The number written by decimal digits. -/
def ofDigits (digits : List Nat) : Nat := digits.foldl (fun total d => 10 * total + d) 0

/-- Whether a character may stand around an integer: any blank but the information
separators. -/
def isIntegerMargin (c : Char) : Bool :=
  isBlank c && !(0x1C ≤ c.toNat && c.toNat ≤ 0x1F)

/-- The text without the margin at either end. -/
def integerBody (cs : List Char) : List Char :=
  ((cs.dropWhile isIntegerMargin).reverse.dropWhile isIntegerMargin).reverse

/-- The sign of an integer literal and what follows it. -/
def splitSign : List Char → Int × List Char
  | '-' :: rest => (-1, rest)
  | '+' :: rest => (1, rest)
  | rest => (1, rest)

/-- The integer a text stands for. That there are too many digits is noticed before anything
behind them. -/
def integer (text : String) : Except IntegerFault Int :=
  let (sign, body) := splitSign (integerBody text.toList)
  match digitRun true body with
  | none => .error (.malformed text)
  | some (digits, after) =>
    if maxIntegerDigits < digits.length then .error (.tooLong digits.length)
    else if after ≠ [] then .error (.malformed text)
    else .ok (sign * ofDigits digits)

end PlotStream.Text
