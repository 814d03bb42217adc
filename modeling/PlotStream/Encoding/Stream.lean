import PlotStream.Encoding.Basic
import PlotStream.Source

/-!
Text from a stream of bytes. The bytes arrive in chunks that may end inside a character, inside
a mark, or between the halves of a pair; what cannot be decoded yet is kept for the next chunk.
A request is answered as soon as enough characters are at hand, and with fewer only at the end
of the stream, where the bytes of an unfinished character are dropped. This is the same for all
encodings: `replies` leaves open how chunks are decoded.

A stream that sets a block aside for every request fails where there is no room for the block,
however few bytes it holds.
-/

namespace PlotStream.Encoding

/-- What decoding some bytes gives: the decoder for the bytes to come, the characters, and the
bytes that have to wait. -/
structure Decoded (δ : Type) where
  decoder : δ
  chars : List Char
  left : List UInt8

/-- The replies to requests of `size` characters, given the decoder, the bytes that wait, the
characters at hand and the chunks still to come. -/
def replies {δ : Type} (decode : δ → List UInt8 → Except ReadFailure (Decoded δ)) (size : Nat)
    (decoder : δ) (left : List UInt8) (atHand : List Char) (chunks : List (List UInt8)) :
    List Reply :=
  match chunks with
  | [] => (Text.pieces size atHand).map .text
  | chunk :: rest =>
    if 0 < size ∧ size ≤ atHand.length then
      .text (atHand.take size) ::
        replies decode size decoder left (atHand.drop size) (chunk :: rest)
    else
      match decode decoder (left ++ chunk) with
      | .ok decoded =>
        replies decode size decoded.decoder decoded.left (atHand ++ decoded.chars) rest
      | .error cause => [.failure cause]
termination_by (chunks.length, atHand.length)
decreasing_by
  · exact Prod.Lex.right _ (by simp only [List.length_drop]; omega)
  · exact Prod.Lex.left _ _ (by simp)

/-- What is known about a stream so far. -/
inductive Decoder where
  /-- No mark is due any more. -/
  | ready (codec : Codec)
  /-- A signature may still come. -/
  | signature
  /-- A byte order mark of `size` bytes has to come. -/
  | mark (size : Nat) (codec : ByteOrder → Codec) (order? : List UInt8 → Option ByteOrder)

/-- The decoder at the beginning of a stream. -/
def decoder : Encoding → Decoder
  | .utf8 => .ready Codec.utf8
  | .utf8Signed => .signature
  | .latin1 => .ready Codec.latin1
  | .ascii => .ready Codec.ascii
  | .windows1252 => .ready Codec.windows1252
  | .dos850 => .ready Codec.dos850
  | .utf16 (some order) => .ready (Codec.utf16 order)
  | .utf16 none => .mark 2 Codec.utf16 order16?
  | .utf32 (some order) => .ready (Codec.utf32 order)
  | .utf32 none => .mark 4 Codec.utf32 order32?

/-- The outcome for the items of some bytes. -/
def Decoded.ofItems (decoder : Decoder) (items : List Item) :
    Except ReadFailure (Decoded Decoder) :=
  match Item.decodeSoFar items with
  | .ok (chars, left) => .ok ⟨decoder, chars, left⟩
  | .error failure => .error (.undecodable failure)

def Decoder.decode (decoder : Decoder) (bytes : List UInt8) :
    Except ReadFailure (Decoded Decoder) :=
  match decoder with
  | .ready codec => Decoded.ofItems decoder (codec.items 0 bytes)
  | .signature =>
    if bytes.length < 3 && bytes.isPrefixOf Encoding.signature then .ok ⟨decoder, [], bytes⟩
    else if Encoding.signature.isPrefixOf bytes then
      Decoded.ofItems (.ready Codec.utf8) (Codec.utf8.items 0 (bytes.drop 3))
    else Decoded.ofItems (.ready Codec.utf8) (Codec.utf8.items 0 bytes)
  | .mark size codec order? =>
    match order? bytes with
    | some order =>
      Decoded.ofItems (.ready (codec order)) ((codec order).items size (bytes.drop size))
    | none =>
      match Decoded.ofItems decoder ((codec .little).items 0 bytes) with
      | .error cause => .error cause
      | .ok decoded =>
        if size ≤ bytes.length - decoded.left.length then .error (.missingMark (8 * size))
        else .ok { decoded with chars := [], left := bytes }

/-- The room that a machine usually has for one block. -/
def usualRoom : Nat := Nat.pow 2 35

/-- How a stream of bytes meets a request. -/
inductive Delivery where
  /-- It hands out the bytes that it has. -/
  | direct
  /-- It sets a block aside for all that was asked for before it looks at what it has. There is
  room for blocks of fewer than `room` bytes. -/
  | buffered (room : Nat := usualRoom)
  deriving Repr, DecidableEq

/-- The number of bytes in a block besides its content. -/
def blockHead : Nat := 33

/-- Why a request for `size` bytes is refused whatever the stream holds. -/
def Delivery.refusal (delivery : Delivery) (size : Nat) : Option ReadFailure :=
  match refusalOfSize size, delivery with
  | some failure, _ => some failure
  | none, .direct => none
  | none, .buffered room =>
    if maxRequest < size + blockHead then some .oversizedBlock
    else if room ≤ size then some .noRoom
    else none

/-- Whether there is room for what a request of `size` bytes sets aside. -/
def Delivery.HasRoom (delivery : Delivery) (size : Nat) : Prop :=
  match delivery with
  | .direct => True
  | .buffered room => size + blockHead ≤ maxRequest ∧ size < room

/-- The source that decodes a stream of bytes, `size` bytes at a time. -/
def source (encoding : Encoding) (delivery : Delivery) (size : Nat) (bytes : List UInt8) :
    Source :=
  .ofReplies (delivery.refusal size)
    (replies Decoder.decode size encoding.decoder [] [] (Text.pieces size bytes))

end PlotStream.Encoding
