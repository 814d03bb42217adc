import PlotStream.Command
import PlotStream.Reader

/-!
What can be asked of a reader, one action at a time. Every action gives the reader afterwards,
what its requests to the source brought, and an answer; an action whose last request failed has
no answer.
-/

namespace PlotStream

namespace Reader

/-- Load characters as long as the lookahead is a blank and no request fails. -/
def skipBlanks (r : Reader) : Reader × List Intake :=
  if hr : r.atBlank && !r.exhausted then
    let moved := r.advance
    if hfail : moved.2.bind Intake.failure? = none then
      have : moved.1.unread < r.unread := unread_advance_lt (by simp_all) hfail
      let rest := moved.1.skipBlanks
      (rest.1, moved.2.toList ++ rest.2)
    else (moved.1, moved.2.toList)
  else (r, [])
termination_by r.unread

inductive Action where
  | advance
  | startCapture
  | endCapture
  | location
  /-- Load the next character if the lookahead is the wanted text. -/
  | readChar (wanted : List Char)
  /-- Load the next character if the lookahead is an ASCII digit. -/
  | readDigit
  | atBlank
  | skipBlanks
  | refill
  | atEnd
  deriving Repr, DecidableEq

inductive Answer where
  | nothing
  | character (c : Option Char)
  | text (cs : List Char)
  | truth (b : Bool)
  | place (location : Location)
  deriving Repr, DecidableEq

structure Performed where
  reader : Reader
  intakes : List Intake
  answer : Answer
  deriving Repr

/-- The failure of a request, if there was one. -/
def Performed.failure? (p : Performed) : Option ReadFailure :=
  p.intakes.findSome? Intake.failure?

/-- Load the next character if `wanted` holds, and tell whether it did. -/
def advanceIf (r : Reader) (wanted : Bool) : Performed :=
  if wanted then ⟨r.advance.1, r.advance.2.toList, .truth true⟩ else ⟨r, [], .truth false⟩

def perform (r : Reader) : Action → Performed
  | .advance => ⟨r.advance.1, r.advance.2.toList, .character r.advance.1.lookahead⟩
  | .startCapture => ⟨r.startCapture, [], .nothing⟩
  | .endCapture => ⟨r.endCapture.2, [], .text r.endCapture.1⟩
  | .location => ⟨r, [], .place r.location⟩
  | .readChar wanted => r.advanceIf (wanted ≠ [] && r.current.toList == wanted)
  | .readDigit => r.advanceIf (r.current.any Numeral.isDigit)
  | .atBlank => ⟨r, [], .truth r.atBlank⟩
  | .skipBlanks => ⟨r.skipBlanks.1, r.skipBlanks.2, .nothing⟩
  | .refill => ⟨r.refill.1, [r.refill.2], .truth r.refill.2.isChunk⟩
  | .atEnd => ⟨r, [], .truth r.exhausted⟩

end Reader

end PlotStream
