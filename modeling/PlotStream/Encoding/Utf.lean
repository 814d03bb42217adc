import PlotStream.Encoding.Codec

/-!
The three Unicode encoding forms. UTF-8 rejects overlong forms, surrogates and points above
U+10FFFF at the first byte that makes them inevitable; UTF-16 joins a high and a low surrogate
to one character and rejects either one on its own.
-/

namespace PlotStream.Encoding

inductive ByteOrder where
  | little
  | big
  deriving Repr, DecidableEq

def ByteOrder.suffix : ByteOrder → String
  | .little => "le"
  | .big => "be"

namespace Utf8

/-- What a leading byte announces: the number of bytes to follow, the range of the first of
them, and the leading bits of the code point. -/
def lead (b : UInt8) : Option (Nat × UInt8 × UInt8 × Nat) :=
  if 0xC2 ≤ b ∧ b ≤ 0xDF then some (1, 0x80, 0xBF, b.toNat % 32)
  else if b = 0xE0 then some (2, 0xA0, 0xBF, b.toNat % 16)
  else if b = 0xED then some (2, 0x80, 0x9F, b.toNat % 16)
  else if 0xE1 ≤ b ∧ b ≤ 0xEF then some (2, 0x80, 0xBF, b.toNat % 16)
  else if b = 0xF0 then some (3, 0x90, 0xBF, b.toNat % 8)
  else if 0xF1 ≤ b ∧ b ≤ 0xF3 then some (3, 0x80, 0xBF, b.toNat % 8)
  else if b = 0xF4 then some (3, 0x80, 0x8F, b.toNat % 8)
  else none

/-- The rest of a character of which `passed` following bytes are known, the next one due
between `low` and `high`. -/
def follow (needed passed : Nat) (low high : UInt8) (bits : Nat) (bytes : List UInt8) : Front :=
  match needed, bytes with
  | 0, _ => .char (Char.ofNat bits) passed
  | _ + 1, [] => .unfinished .unexpectedEnd
  | needed + 1, b :: rest =>
    if low ≤ b ∧ b ≤ high then
      follow needed (passed + 1) 0x80 0xBF (bits * 64 + b.toNat % 64) rest
    else .invalid passed .invalidContinuation

/-- The character at the front of UTF-8 bytes. -/
def front (b : UInt8) (rest : List UInt8) : Front :=
  if b < 0x80 then .char (Char.ofNat b.toNat) 0
  else
    match lead b with
    | none => .invalid 0 .invalidStart
    | some (needed, low, high, bits) => follow needed 0 low high bits rest

end Utf8

def Codec.utf8 : Codec := ⟨"utf-8", Utf8.front⟩

namespace Utf16

def unit (order : ByteOrder) (first second : UInt8) : Nat :=
  match order with
  | .little => first.toNat + 256 * second.toNat
  | .big => 256 * first.toNat + second.toNat

def isHigh (n : Nat) : Bool := 0xD800 ≤ n && n ≤ 0xDBFF

def isLow (n : Nat) : Bool := 0xDC00 ≤ n && n ≤ 0xDFFF

def joined (high low : Nat) : Nat := 0x10000 + (high - 0xD800) * 0x400 + (low - 0xDC00)

/-- The character at the front of UTF-16 bytes. -/
def front (order : ByteOrder) (b : UInt8) : List UInt8 → Front
  | [] => .unfinished .truncated
  | c :: rest =>
    let n := unit order b c
    if isLow n then .invalid 1 .illegalUnit
    else if isHigh n then
      match rest with
      | d :: e :: _ =>
        let low := unit order d e
        if isLow low then .char (Char.ofNat (joined n low)) 3 else .invalid 1 .illegalSurrogate
      | _ => .unfinished .unexpectedEnd
    else .char (Char.ofNat n) 1

end Utf16

def Codec.utf16 (order : ByteOrder) : Codec := ⟨"utf-16-" ++ order.suffix, Utf16.front order⟩

namespace Utf32

/-- The character at the front of UTF-32 bytes. -/
def front (order : ByteOrder) (b : UInt8) : List UInt8 → Front
  | c :: d :: e :: _ =>
    let n :=
      match order with
      | .little => Utf16.unit .little b c + 65536 * Utf16.unit .little d e
      | .big => 65536 * Utf16.unit .big b c + Utf16.unit .big d e
    if Utf16.isHigh n || Utf16.isLow n then .invalid 3 .surrogatePoint
    else if 0x10FFFF < n then .invalid 3 .beyondUnicode
    else .char (Char.ofNat n) 3
  | _ => .unfinished .truncated

end Utf32

def Codec.utf32 (order : ByteOrder) : Codec := ⟨"utf-32-" ++ order.suffix, Utf32.front order⟩

end PlotStream.Encoding
