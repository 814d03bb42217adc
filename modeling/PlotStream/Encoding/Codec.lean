import PlotStream.Encoding.Failure

/-!
Byte codes for characters, one character at a time. A codec looks at the front of a run of bytes
and tells the character there, or that the bytes make no sense, or that more bytes are needed.
Everything else follows from that: `items` cuts bytes into characters and failures, and the
three ways to decode are views of the items. Decoding all at once stops at the first failure
and takes an unfinished character at the end for one; decoding what has arrived so far leaves
an unfinished character aside; decoding for display puts U+FFFD in place of every failure.
-/

namespace PlotStream.Encoding

/-- What stands at the front of a run of bytes. -/
inductive Front where
  /-- A character that takes one byte and `more` further ones. -/
  | char (c : Char) (more : Nat)
  /-- One byte and `more` further ones that make no sense. -/
  | invalid (more : Nat) (reason : Reason)
  /-- The beginning of a character whose rest is missing. -/
  | unfinished (reason : Reason)
  deriving Repr, DecidableEq

/-- A byte code: a name for reports, and what it sees at the front of a byte and those after
it. -/
structure Codec where
  name : String
  front : UInt8 → List UInt8 → Front

/-- A stretch of bytes that has been looked at. -/
inductive Item where
  | char (c : Char)
  | invalid (failure : Failure)
  /-- The bytes `rest` at the end begin a character. -/
  | unfinished (rest : List UInt8) (failure : Failure)
  deriving Repr, DecidableEq

/-- The bytes cut into items; the first byte has the given position. -/
def Codec.items (codec : Codec) (position : Nat) : List UInt8 → List Item
  | [] => []
  | b :: rest =>
    match codec.front b rest with
    | .char c more => .char c :: codec.items (position + 1 + more) (rest.drop more)
    | .invalid more reason =>
      .invalid ⟨codec.name, position, position + 1 + more, b, reason⟩ ::
        codec.items (position + 1 + more) (rest.drop more)
    | .unfinished reason =>
      [.unfinished (b :: rest) ⟨codec.name, position, position + 1 + rest.length, b, reason⟩]
termination_by bytes => bytes.length
decreasing_by
  all_goals
    simp only [List.length_drop, List.length_cons]
    omega

/-- The characters of a complete text, or its first failure. -/
def Item.decodeAll : List Item → Except Failure (List Char)
  | [] => .ok []
  | .char c :: rest => (decodeAll rest).map (c :: ·)
  | .invalid failure :: _ => .error failure
  | .unfinished _ failure :: _ => .error failure

/-- The characters of a text that may go on, with the bytes of an unfinished character at its
end, or its first failure. -/
def Item.decodeSoFar : List Item → Except Failure (List Char × List UInt8)
  | [] => .ok ([], [])
  | .char c :: rest => (decodeSoFar rest).map fun (cs, left) => (c :: cs, left)
  | .invalid failure :: _ => .error failure
  | .unfinished left _ :: _ => .ok ([], left)

/-- The character shown where bytes do not decode. -/
def replacement : Char := '\uFFFD'

/-- The character shown for an item. -/
def Item.shown : Item → Char
  | .char c => c
  | .invalid _ => replacement
  | .unfinished _ _ => replacement

end PlotStream.Encoding
