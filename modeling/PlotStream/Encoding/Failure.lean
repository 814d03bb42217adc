/-!
What can be wrong with encoded text. A failure names the code in use, the bytes that make no
sense as the half-open range `start` to `stop`, the first of these bytes and a reason.
-/

namespace PlotStream.Encoding

inductive Reason where
  | invalidStart
  | invalidContinuation
  | unexpectedEnd
  | notAscii
  | undefinedCharacter
  | truncated
  | illegalSurrogate
  | illegalUnit
  | beyondUnicode
  | surrogatePoint
  /-- A reason that only some code from elsewhere knows. -/
  | other (text : String)
  deriving Repr, DecidableEq

def Reason.text : Reason → String
  | .invalidStart => "invalid start byte"
  | .invalidContinuation => "invalid continuation byte"
  | .unexpectedEnd => "unexpected end of data"
  | .notAscii => "ordinal not in range(128)"
  | .undefinedCharacter => "character maps to <undefined>"
  | .truncated => "truncated data"
  | .illegalSurrogate => "illegal UTF-16 surrogate"
  | .illegalUnit => "illegal encoding"
  | .beyondUnicode => "code point not in range(0x110000)"
  | .surrogatePoint => "code point in surrogate code point range(0xd800, 0xe000)"
  | .other text => text

structure Failure where
  codec : String
  start : Nat
  stop : Nat
  byte : UInt8
  reason : Reason
  deriving Repr, DecidableEq

/-- A byte as two hexadecimal digits. -/
def hexByte (b : UInt8) : String :=
  let digit (n : Nat) : Char := if n < 10 then Char.ofNat (48 + n) else Char.ofNat (87 + n)
  String.ofList [digit (b.toNat / 16), digit (b.toNat % 16)]

/-- The report on a failure: a single byte is shown, a longer range is given by its first and
last position. -/
def Failure.message (f : Failure) : String :=
  let place :=
    if f.stop = f.start + 1 then
      "byte 0x" ++ hexByte f.byte ++ " in position " ++ toString f.start
    else
      "bytes in position " ++ toString f.start ++ "-" ++ toString (f.stop - 1)
  "'" ++ f.codec ++ "' codec can't decode " ++ place ++ ": " ++ f.reason.text

end PlotStream.Encoding
