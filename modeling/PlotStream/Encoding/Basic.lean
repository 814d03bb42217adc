import PlotStream.Encoding.Charmap
import PlotStream.Encoding.Utf

/-!
The encodings a plot text may be stored in. Some put a mark in front of the text: the signature
of UTF-8, or a byte order mark that tells the byte order of the units after it.
-/

namespace PlotStream

/-- An encoding of text as bytes. -/
inductive Encoding where
  | utf8
  /-- UTF-8 with an optional signature in front. -/
  | utf8Signed
  | latin1
  | ascii
  | windows1252
  | dos850
  /-- UTF-16, in the byte order of its mark if `order` is not given. -/
  | utf16 (order : Option Encoding.ByteOrder)
  /-- UTF-32, in the byte order of its mark if `order` is not given. -/
  | utf32 (order : Option Encoding.ByteOrder)
  deriving Repr, DecidableEq

namespace Encoding

/-- The signature of UTF-8. -/
def signature : List UInt8 := [0xEF, 0xBB, 0xBF]

/-- The byte order that a mark at the front of UTF-16 bytes tells. -/
def order16? : List UInt8 → Option ByteOrder
  | 0xFF :: 0xFE :: _ => some .little
  | 0xFE :: 0xFF :: _ => some .big
  | _ => none

/-- The byte order that a mark at the front of UTF-32 bytes tells. -/
def order32? : List UInt8 → Option ByteOrder
  | 0xFF :: 0xFE :: 0x00 :: 0x00 :: _ => some .little
  | 0x00 :: 0x00 :: 0xFE :: 0xFF :: _ => some .big
  | _ => none

/-- The items after a byte order mark of `size` bytes, or all items in little endian order
without a mark. Positions count from the mark. -/
def markedItems (codec : ByteOrder → Codec) (size : Nat) (order : Option ByteOrder)
    (bytes : List UInt8) : List Item :=
  match order with
  | some order => (codec order).items size (bytes.drop size)
  | none => (codec .little).items 0 bytes

/-- The items of a complete text. A signature or byte order mark in front is not part of the
text; positions count from behind a signature, but from the beginning of a byte order mark. -/
def items (encoding : Encoding) (bytes : List UInt8) : List Item :=
  match encoding with
  | .utf8 => Codec.utf8.items 0 bytes
  | .utf8Signed =>
    if signature.isPrefixOf bytes then Codec.utf8.items 0 (bytes.drop 3)
    else Codec.utf8.items 0 bytes
  | .latin1 => Codec.latin1.items 0 bytes
  | .ascii => Codec.ascii.items 0 bytes
  | .windows1252 => Codec.windows1252.items 0 bytes
  | .dos850 => Codec.dos850.items 0 bytes
  | .utf16 (some order) => (Codec.utf16 order).items 0 bytes
  | .utf16 none => markedItems Codec.utf16 2 (order16? bytes) bytes
  | .utf32 (some order) => (Codec.utf32 order).items 0 bytes
  | .utf32 none => markedItems Codec.utf32 4 (order32? bytes) bytes

/-- The text in some bytes, or why they hold none. -/
def decode (encoding : Encoding) (bytes : List UInt8) : Except Failure (List Char) :=
  Item.decodeAll (encoding.items bytes)

/-- The text in some bytes with U+FFFD wherever they do not decode. -/
def decodeReplacing (encoding : Encoding) (bytes : List UInt8) : List Char :=
  (encoding.items bytes).map Item.shown

end Encoding

end PlotStream
