import PlotStream.Encoding.Stream

/-!
Codes from elsewhere. There are more codes for text than the encodings that are spelled out here:
some keep a state between characters, and some need tables of thousands of entries. Of such a code
it is given what bytes come to in three ways, decoded all at once, decoded for display, and decoded
by the reader of a stream.

Readers of streams are of two kinds. Most collect characters until there are as many as were asked
for, and drop an unfinished character at the end. The exacting kind answers each request with what
its bytes come to, as long as that is something, and complains of an unfinished character at the
end.
-/

namespace PlotStream.Encoding

/-- A code, known by what it makes of bytes. -/
structure Code where
  /-- The text in some bytes, or why they hold none. -/
  decode (bytes : List UInt8) : Except Failure (List Char)
  /-- The text in some bytes with something in place of what does not decode. -/
  decodeReplacing (bytes : List UInt8) : List Char
  /-- What the reader of a stream makes of bytes behind those that it has used up: characters, and
  the bytes at the end that have to wait. -/
  next (used bytes : List UInt8) : Except ReadFailure (List Char × List UInt8)
  /-- The complaint about bytes that still wait when a stream ends, if its reader is exacting. -/
  complaint : Option (List UInt8 → Failure) := none

namespace Code

/-- Decode the bytes behind those that have been used up. All of them are used up except those that
have to wait. -/
def step (code : Code) (used bytes : List UInt8) : Except ReadFailure (Decoded (List UInt8)) :=
  (code.next used bytes).map fun (chars, left) =>
    ⟨used ++ bytes.take (bytes.length - left.length), chars, left⟩

/-- The replies of an exacting reader to requests of `size` bytes. It takes `portion` bytes at first
and goes on with single bytes as long as no character comes of them. -/
def exactingReplies (code : Code) (complaint : List UInt8 → Failure) (size portion : Nat)
    (used left data : List UInt8) : List Reply :=
  match data with
  | [] => if left.isEmpty then [] else [.failure (.undecodable (complaint left))]
  | b :: rest =>
    match code.step used (left ++ b :: rest.take (portion - 1)) with
    | .error cause => [.failure cause]
    | .ok decoded =>
      if decoded.chars.isEmpty then
        code.exactingReplies complaint size 1 decoded.decoder decoded.left (rest.drop (portion - 1))
      else
        .text decoded.chars ::
          code.exactingReplies complaint size size decoded.decoder decoded.left
            (rest.drop (portion - 1))
termination_by data.length
decreasing_by all_goals simp only [List.length_drop, List.length_cons]; omega

/-- The source that decodes a stream of bytes, `size` bytes at a time. -/
def source (code : Code) (delivery : Delivery) (size : Nat) (bytes : List UInt8) : Source :=
  .ofReplies (delivery.refusal size)
    (match code.complaint with
    | none => replies code.step size [] [] [] (Text.pieces size bytes)
    | some complaint => code.exactingReplies complaint size size [] [] bytes)

/-- A codec as such a code. -/
def ofCodec (codec : Codec) (complaint : Option (List UInt8 → Failure) := none) : Code where
  decode bytes := Item.decodeAll (codec.items 0 bytes)
  decodeReplacing bytes := (codec.items 0 bytes).map Item.shown
  next _ bytes :=
    match Item.decodeSoFar (codec.items 0 bytes) with
    | .ok seen => .ok seen
    | .error failure => .error (.undecodable failure)
  complaint := complaint

end Code

/-- What the name of an encoding stands for: one that is spelled out here, or a code from
elsewhere. -/
inductive Coding where
  | own (encoding : Encoding)
  | given (code : Code)

namespace Coding

def decode : Coding → List UInt8 → Except Failure (List Char)
  | .own encoding, bytes => encoding.decode bytes
  | .given code, bytes => code.decode bytes

def decodeReplacing : Coding → List UInt8 → List Char
  | .own encoding, bytes => encoding.decodeReplacing bytes
  | .given code, bytes => code.decodeReplacing bytes

def source (coding : Coding) (delivery : Delivery) (size : Nat) (bytes : List UInt8) : Source :=
  match coding with
  | .own encoding => encoding.source delivery size bytes
  | .given code => code.source delivery size bytes

end Coding

end PlotStream.Encoding
