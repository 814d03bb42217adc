import PlotStream.Encoding.Stream
import PlotStream.Proofs.ChunkIndependence
import PlotStream.Proofs.Codecs

/-!
Streams of bytes. The chunks of a stream may end anywhere, inside a character, inside a mark or
between the halves of a pair. `Decoder.Yields` says what text the bytes hold that a decoder has still
to see, those that wait included. Decoding a chunk keeps it: some characters are handed out, and the
rest of the text is yielded by what is left and what is to come. So a stream gives the text of its
bytes.
-/

namespace PlotStream.Encoding

/-- Whether bytes have the byte order mark that their encoding asks for. -/
def Marked (encoding : Encoding) (bytes : List UInt8) : Prop :=
  match encoding with
  | .utf16 none => (order16? bytes).isSome
  | .utf32 none => (order32? bytes).isSome
  | _ => True

/-- What makes the first `size` bytes a mark for the order of the units behind them. -/
structure MarksOrder (size : Nat) (codec : ByteOrder → Codec)
    (order? : List UInt8 → Option ByteOrder) : Prop where
  incremental (order : ByteOrder) : (codec order).Incremental
  pos : 0 < size
  size_le {bytes : List UInt8} {order : ByteOrder} (h : order? bytes = some order) :
    size ≤ bytes.length
  append {bytes : List UInt8} (later : List UInt8) (h : size ≤ bytes.length) :
    order? (bytes ++ later) = order? bytes
  /-- There is no character in fewer bytes. -/
  unfinished {b : UInt8} {rest : List UInt8} (h : rest.length + 1 < size) :
    ∃ reason, (codec .little).front b rest = .unfinished reason
  /-- No character takes fewer bytes. -/
  size_le_char {b : UInt8} {rest : List UInt8} {c : Char} {more : Nat}
    (h : (codec .little).front b rest = .char c more) : size ≤ more + 1

theorem marksOrder16 : MarksOrder 2 Codec.utf16 order16? where
  incremental := Codec.utf16_incremental
  pos := by decide
  size_le := by
    intro bytes order h
    unfold order16? at h
    split at h
    · simp
    · simp
    · cases h
  append := by
    intro bytes later h
    rcases bytes with _ | ⟨_, _ | _⟩
    · simp at h
    · simp at h
    · simp only [List.cons_append, order16?]
      grind
  unfinished := by
    intro b rest h
    rcases rest with _ | _
    · exact ⟨_, rfl⟩
    · simp only [List.length_cons] at h
      omega
  size_le_char := by
    intro b rest c more h
    rcases rest with _ | ⟨second, rest⟩
    · cases h
    simp only [Codec.utf16, Utf16.front] at h
    split at h
    · cases h
    split at h
    · split at h
      · split at h
        · obtain ⟨_, rfl⟩ := Front.char.inj h
          decide
        · cases h
      · cases h
    · obtain ⟨_, rfl⟩ := Front.char.inj h
      decide

theorem marksOrder32 : MarksOrder 4 Codec.utf32 order32? where
  incremental := Codec.utf32_incremental
  pos := by decide
  size_le := by
    intro bytes order h
    unfold order32? at h
    split at h
    · simp
    · simp
    · cases h
  append := by
    intro bytes later h
    rcases bytes with _ | ⟨_, _ | ⟨_, _ | ⟨_, _ | _⟩⟩⟩
    · simp at h
    · simp at h
    · simp at h
    · simp at h
    · simp only [List.cons_append, order32?]
      grind
  unfinished := by
    intro b rest h
    rcases rest with _ | ⟨_, _ | ⟨_, _ | _⟩⟩
    · exact ⟨_, rfl⟩
    · exact ⟨_, rfl⟩
    · exact ⟨_, rfl⟩
    · simp only [List.length_cons] at h
      omega
  size_le_char := by
    intro b rest c more h
    rcases rest with _ | ⟨second, _ | ⟨third, _ | ⟨fourth, rest⟩⟩⟩
    · cases h
    · cases h
    · cases h
    simp only [Codec.utf32, Utf32.front] at h
    split at h
    · cases h
    split at h
    · cases h
    · obtain ⟨_, rfl⟩ := Front.char.inj h
      decide

/-- The text in the bytes that a decoder has still to see. -/
inductive Decoder.Yields : Decoder → List UInt8 → List Char → Prop where
  | ready {codec : Codec} {bytes : List UInt8} {text : List Char} (hcodec : codec.Incremental)
      (h : codec.Spells bytes text) : Yields (.ready codec) bytes text
  | signed {bytes : List UInt8} {text : List Char} (hsigned : Encoding.signature <+: bytes)
      (h : Codec.utf8.Spells (bytes.drop 3) text) : Yields .signature bytes text
  | unsigned {bytes : List UInt8} {text : List Char} (hunsigned : ¬ Encoding.signature <+: bytes)
      (h : Codec.utf8.Spells bytes text) : Yields .signature bytes text
  | mark {size : Nat} {codec : ByteOrder → Codec} {order? : List UInt8 → Option ByteOrder}
      {bytes : List UInt8} {order : ByteOrder} {text : List Char}
      (hmarks : MarksOrder size codec order?) (horder : order? bytes = some order)
      (h : (codec order).Spells (bytes.drop size) text) : Yields (.mark size codec order?) bytes text

/-- What is decoded of the first part of some bytes: a first part of their text, and a decoder that
yields the rest of it from what is left and what comes later. -/
def Decoded.Begins (decoded : Decoded Decoder) (later : List UInt8) (text : List Char) : Prop :=
  ∃ rest, text = decoded.chars ++ rest ∧ decoded.decoder.Yields (decoded.left ++ later) rest ∧
    (later = [] → rest = [])

variable {bytes later : List UInt8} {text : List Char}

theorem Codec.Spells.ofItems {codec : Codec} (h : codec.Spells (bytes ++ later) text)
    (hcodec : codec.Incremental) (position : Nat) :
    ∃ decoded, Decoded.ofItems (.ready codec) (codec.items position bytes) = .ok decoded ∧
      decoded.Begins later text := by
  obtain ⟨chars, left, rest, hdecoded, htext, hspells, hnone⟩ := h.split hcodec position
  refine ⟨⟨.ready codec, chars, left⟩, ?_, rest, htext, .ready hcodec hspells, hnone⟩
  rw [Decoded.ofItems, hdecoded]

theorem MarksOrder.decodeSoFar {size : Nat} {codec : ByteOrder → Codec}
    {order? : List UInt8 → Option ByteOrder} (h : MarksOrder size codec order?)
    (hshort : bytes.length < size) :
    Item.decodeSoFar ((codec .little).items 0 bytes) = .ok ([], bytes) := by
  cases bytes with
  | nil => rw [Codec.items, Item.decodeSoFar]
  | cons b rest =>
      obtain ⟨reason, hfront⟩ := h.unfinished (b := b) hshort
      rw [Codec.items, hfront]
      rfl

/-- Bytes that need not wait tell whether a signature stands in front. -/
theorem signature_prefix_append (hwait : ¬ (bytes.length < 3 ∧ bytes <+: signature))
    (later : List UInt8) : signature <+: bytes ++ later ↔ signature <+: bytes := by
  constructor
  · intro hwhole
    rcases List.prefix_or_prefix_of_prefix hwhole (List.prefix_append bytes later) with hpart | hpart
    · exact hpart
    · have hlong : ¬ bytes.length < 3 := fun hshort => hwait ⟨hshort, hpart⟩
      have hlength : bytes.length ≤ 3 := hpart.length_le
      have hequal := hpart.eq_of_length (Nat.le_antisymm hlength (Nat.not_lt.mp hlong))
      exact hequal ▸ List.prefix_refl bytes
  · intro hpart
    exact hpart.trans (List.prefix_append bytes later)

namespace Decoder

theorem yields_signature_short (h : Decoder.signature.Yields bytes text)
    (hshort : bytes.length < 3) (hpart : bytes <+: Encoding.signature) : text = [] := by
  cases h with
  | signed hsigned _ =>
      have hlength : 3 ≤ bytes.length := hsigned.length_le
      omega
  | unsigned _ hspells =>
      rcases bytes with _ | ⟨b, _ | ⟨c, _ | _⟩⟩
      · cases hspells
        rfl
      · obtain ⟨rfl, _⟩ := List.cons_prefix_cons.mp hpart
        have hfront : Codec.utf8.front 0xEF [] = .unfinished .unexpectedEnd := by decide
        cases hspells with
        | char hchar _ =>
            rw [hfront] at hchar
            cases hchar
      · obtain ⟨rfl, htail⟩ := List.cons_prefix_cons.mp hpart
        obtain ⟨rfl, _⟩ := List.cons_prefix_cons.mp htail
        have hfront : Codec.utf8.front 0xEF [0xBB] = .unfinished .unexpectedEnd := by decide
        cases hspells with
        | char hchar _ =>
            rw [hfront] at hchar
            cases hchar
      · simp only [List.length_cons] at hshort
        omega

/-- Decoding a first part of the bytes begins the text. -/
theorem Yields.decode {decoder : Decoder} (h : decoder.Yields (bytes ++ later) text) :
    ∃ decoded, decoder.decode bytes = .ok decoded ∧ decoded.Begins later text := by
  cases decoder with
  | ready codec =>
      cases h with
      | ready hcodec hspells => exact hspells.ofItems hcodec 0
  | signature =>
      rw [Decoder.decode]
      by_cases hwait : bytes.length < 3 ∧ bytes <+: Encoding.signature
      · rw [if_pos (by simpa using hwait)]
        -- Nothing is decoded yet. If nothing comes later either, the text was empty.
        refine ⟨_, rfl, text, rfl, h, ?_⟩
        rintro rfl
        rw [List.append_nil] at h
        exact yields_signature_short h hwait.1 hwait.2
      rw [if_neg (by simpa using hwait)]
      by_cases hsigned : Encoding.signature <+: bytes
      · rw [if_pos (by simpa using hsigned)]
        cases h with
        | signed _ hspells =>
            have hlength : 3 ≤ bytes.length := hsigned.length_le
            rw [List.drop_append_of_le_length hlength] at hspells
            exact hspells.ofItems Codec.utf8_incremental 0
        | unsigned hunsigned _ =>
            exact absurd ((signature_prefix_append hwait later).mpr hsigned) hunsigned
      · rw [if_neg (by simpa using hsigned)]
        cases h with
        | signed hwhole _ => exact absurd ((signature_prefix_append hwait later).mp hwhole) hsigned
        | unsigned _ hspells => exact hspells.ofItems Codec.utf8_incremental 0
  | mark size codec order? =>
      cases h with
      | @mark _ _ _ _ order _ hmarks horder hspells =>
          rw [Decoder.decode]
          cases hfound : order? bytes with
          | some found =>
              have hlength := hmarks.size_le hfound
              rw [hmarks.append later hlength, hfound] at horder
              obtain rfl := Option.some.inj horder
              rw [List.drop_append_of_le_length hlength] at hspells
              exact hspells.ofItems (hmarks.incremental found) size
          | none =>
              -- The whole has a mark, so it is not complete yet and all bytes are kept.
              have hshort : bytes.length < size := by
                refine Nat.lt_of_not_le fun hlong => ?_
                rw [hmarks.append later hlong, hfound] at horder
                cases horder
              have hpos := hmarks.pos
              simp only [Decoded.ofItems, hmarks.decodeSoFar hshort]
              rw [if_neg (by omega)]
              refine ⟨_, rfl, text, rfl, .mark hmarks horder hspells, ?_⟩
              rintro rfl
              rw [List.append_nil, hfound] at horder
              cases horder

/-- The replies of a decoder give the characters at hand and then the text that it yields. The
invariant of the loop is `h`: reading a chunk moves text from the decoder to the characters at hand. -/
theorem Yields.replies_give {size : Nat} (hsize : 0 < size) {decoder : Decoder}
    {left : List UInt8} {atHand : List Char} {chunks : List (List UInt8)}
    (h : decoder.Yields (left ++ chunks.flatten) text) (hend : chunks = [] → text = []) :
    (Source.ofChunks (replies Decoder.decode size decoder left atHand chunks)).Gives
      (atHand ++ text) none := by
  induction decoder, left, atHand, chunks using
    replies.induct Decoder.decode size generalizing text with
  | case1 decoder left atHand =>
      obtain rfl := hend rfl
      rw [replies, List.append_nil]
      exact Source.gives_pieces size atHand
  | case2 decoder left atHand chunk rest henough ih =>
      have hne : atHand.take size ≠ [] := by
        intro hnil
        have hlength := congrArg List.length hnil
        rw [List.length_take, List.length_nil] at hlength
        omega
      have hwhole : atHand ++ text = atHand.take size ++ (atHand.drop size ++ text) := by
        rw [← List.append_assoc, List.take_append_drop]
      rw [replies, if_pos henough, hwhole]
      exact .reply rfl hne (ih h (by simp))
  | case3 decoder left atHand chunk rest hfew decoded hdecoded ih =>
      rw [List.flatten_cons, ← List.append_assoc] at h
      obtain ⟨other, hother, tail, rfl, hyields, hnone⟩ := h.decode
      rw [hdecoded] at hother
      obtain rfl := Except.ok.inj hother
      have hmore := ih hyields fun hrest => hnone (by rw [hrest, List.flatten_nil])
      rw [replies, if_neg hfew, hdecoded, ← List.append_assoc]
      exact hmore
  | case4 decoder left atHand chunk rest hfew cause hfailed =>
      rw [List.flatten_cons, ← List.append_assoc] at h
      obtain ⟨other, hother, _⟩ := h.decode
      rw [hfailed] at hother
      cases hother

theorem Yields.eq_nil {decoder : Decoder} (h : decoder.Yields [] text) : text = [] := by
  cases decoder with
  | ready codec =>
      cases h with
      | ready _ hspells =>
          cases hspells
          rfl
  | signature => exact yields_signature_short h (by decide) List.nil_prefix
  | mark size codec order? =>
      cases h with
      | mark hmarks horder _ =>
          have hpos := hmarks.pos
          have hlength := hmarks.size_le horder
          rw [List.length_nil] at hlength
          omega

end Decoder

/-- A decoder at the beginning of a stream yields what the bytes of the stream decode to. -/
theorem yields_of_decode {encoding : Encoding} (hmarked : encoding.Marked bytes)
    (h : encoding.decode bytes = .ok text) : encoding.decoder.Yields bytes text := by
  cases encoding with
  | utf8 => exact .ready Codec.utf8_incremental (Codec.spells_of_decodeAll h)
  | utf8Signed =>
      rw [Encoding.decode, items] at h
      split at h
      next hsigned => exact .signed (by simpa using hsigned) (Codec.spells_of_decodeAll h)
      next hunsigned => exact .unsigned (by simpa using hunsigned) (Codec.spells_of_decodeAll h)
  | latin1 => exact .ready Codec.latin1_single.incremental (Codec.spells_of_decodeAll h)
  | ascii => exact .ready Codec.ascii_single.incremental (Codec.spells_of_decodeAll h)
  | windows1252 =>
      exact .ready (Codec.codePage_single _ _).incremental (Codec.spells_of_decodeAll h)
  | dos850 => exact .ready (Codec.codePage_single _ _).incremental (Codec.spells_of_decodeAll h)
  | utf16 order? =>
      cases order? with
      | some order => exact .ready (Codec.utf16_incremental order) (Codec.spells_of_decodeAll h)
      | none =>
          obtain ⟨order, horder⟩ := Option.isSome_iff_exists.mp hmarked
          simp only [Encoding.decode, items, horder, markedItems] at h
          exact .mark marksOrder16 horder (Codec.spells_of_decodeAll h)
  | utf32 order? =>
      cases order? with
      | some order => exact .ready (Codec.utf32_incremental order) (Codec.spells_of_decodeAll h)
      | none =>
          obtain ⟨order, horder⟩ := Option.isSome_iff_exists.mp hmarked
          simp only [Encoding.decode, items, horder, markedItems] at h
          exact .mark marksOrder32 horder (Codec.spells_of_decodeAll h)

/-- Requests that are not too large are not refused, if there is room for their blocks. -/
theorem Delivery.refusal_eq_none {delivery : Delivery} {size : Nat} (hsize : size ≤ maxRequest)
    (hroom : delivery.HasRoom size) : delivery.refusal size = none := by
  have hnone : refusalOfSize size = none := by simp [refusalOfSize, Nat.not_lt.mpr hsize]
  cases delivery with
  | direct => simp only [refusal, hnone]
  | buffered room =>
      obtain ⟨hcounted, hless⟩ := hroom
      simp only [refusal, hnone]
      rw [if_neg (Nat.not_lt.mpr hcounted), if_neg (Nat.not_le.mpr hless)]

theorem gives_source {encoding : Encoding} {delivery : Delivery} {size : Nat} (hpos : 0 < size)
    (hrefusal : delivery.refusal size = none) (hmarked : encoding.Marked bytes)
    (h : encoding.decode bytes = .ok text) :
    (encoding.source delivery size bytes).Gives text none := by
  have hyields : encoding.decoder.Yields ([] ++ (Text.pieces size bytes).flatten) text := by
    rw [Text.pieces_flatten]
    exact yields_of_decode hmarked h
  rw [source, Source.ofReplies, hrefusal]
  refine hyields.replies_give hpos fun hnone => ?_
  rw [hnone] at hyields
  exact hyields.eq_nil

theorem items_nil (encoding : Encoding) : encoding.items [] = [] := by
  cases encoding with
  | utf16 order? => cases order? <;> simp [items, markedItems, order16?, Codec.items]
  | utf32 order? => cases order? <;> simp [items, markedItems, order32?, Codec.items]
  | _ => simp [items, signature, Codec.items]

theorem decodeNamed_own [Encoding.Registry] {name : String} {encoding : Encoding}
    (h : named name = .ok (.own encoding)) (data : List UInt8) :
    decodeNamed name data =
      (encoding.decode data).mapError fun failure => .source (.undecodable failure) := by
  cases data with
  | nil => simp [decodeNamed, h, decode, items_nil, Item.decodeAll, Except.mapError]
  | cons b rest => simp [decodeNamed, h, Coding.decode]

end PlotStream.Encoding

namespace PlotStream

theorem Options.bufferSizeFor_bytes (options : Options) (delivery : Encoding.Delivery)
    (data : List UInt8) :
    options.bufferSizeFor (.bytes data) = options.bufferSizeFor (.byteStream delivery data) := by
  cases hsize : options.bufferSize <;> simp only [bufferSizeFor, hsize]

theorem Options.bufferSizeFor_text_bounds (options : Options) (text : List Char)
    (delivery : Encoding.Delivery) (data : List UInt8) {size : Int}
    (hsize : options.bufferSizeFor (.byteStream delivery data) = size) (hpos : 0 < size)
    (hmax : size ≤ maxRequest) :
    0 < options.bufferSizeFor (.text text) ∧ options.bufferSizeFor (.text text) ≤ maxRequest := by
  have hmost : (1024 : Int) ≤ maxRequest := by decide
  cases hgiven : options.bufferSize with
  | some given =>
      simp only [bufferSizeFor, hgiven] at hsize ⊢
      omega
  | none =>
      simp only [bufferSizeFor, hgiven, minBufferSize, defaultBufferSize]
      omega

namespace Parser

/-- A stream of bytes is parsed like the same bytes in memory and like the text that they decode to,
wherever its chunks end: the same commands and diagnostics at the same places, the same end, and the
same parser afterwards. -/
theorem parse_byteStream [Encoding.Registry] (parser : Parser) {options : Options} {name : String}
    {encoding : Encoding} {delivery : Encoding.Delivery} {data : List UInt8} {text : List Char}
    (hname : options.encoding = some name) (hnamed : Encoding.named name = .ok (.own encoding))
    (hmarked : encoding.Marked data) (hdecoded : encoding.decode data = .ok text) {size : Nat}
    (hsize : options.bufferSizeFor (.byteStream delivery data) = size) (hpos : 0 < size)
    (hmax : size ≤ maxRequest) (hroom : delivery.HasRoom size) :
    let streamed := parser.parse (.byteStream delivery data) options
    let held := parser.parse (.bytes data) options
    let decoded := parser.parse (.text text) options
    (Notice.commands streamed.trace = Notice.commands held.trace ∧
        Notice.diagnostics streamed.trace = Notice.diagnostics held.trace ∧
        streamed.outcome = held.outcome ∧ streamed.parser = held.parser) ∧
      Notice.commands streamed.trace = Notice.commands decoded.trace ∧
        Notice.diagnostics streamed.trace = Notice.diagnostics decoded.trace ∧
        streamed.outcome = decoded.outcome ∧ streamed.parser = decoded.parser := by
  intro streamed held decoded
  have hrefusal := Encoding.Delivery.refusal_eq_none hmax hroom
  have hstreamed : (Input.byteStream delivery data).source options.encoding =
      .ok fun size => encoding.source delivery size data := by
    simp only [hname, Input.source, hnamed, Encoding.Coding.source]
  have hheld : (Input.bytes data).source options.encoding =
      .ok fun size => .ofText size text := by
    simp only [hname, Input.source, Encoding.decodeNamed_own hnamed, hdecoded]
    rfl
  have hbytes : options.bufferSizeFor (.bytes data) = size := by
    rw [options.bufferSizeFor_bytes delivery, hsize]
  obtain ⟨htext, hbound⟩ := options.bufferSizeFor_text_bounds text delivery data hsize
    (Int.natCast_pos.mpr hpos) (Int.ofNat_le.mpr hmax)
  have hgives : (encoding.source delivery
      (options.bufferSizeFor (.byteStream delivery data)).toNat data).Gives text none := by
    rw [hsize, Int.toNat_natCast]
    exact Encoding.gives_source hpos hrefusal hmarked hdecoded
  have hagrees : streamed.Agrees held :=
    parser.parse_agrees_of_sources hstreamed hgives (by omega) hheld
      (Source.gives_ofText text (by omega)) (by omega)
  have hagrees' : streamed.Agrees decoded :=
    parser.parse_agrees_of_sources hstreamed hgives (by omega) rfl
      (Source.gives_ofText text (by omega)) htext
  exact ⟨⟨hagrees.commands, hagrees.diagnostics, hagrees.outcome, hagrees.parser⟩,
    hagrees'.commands, hagrees'.diagnostics, hagrees'.outcome, hagrees'.parser⟩

/-- One byte at a time, so that the mark, every unit and a pair of surrogates are torn. -/
theorem parse_byteStream_torn :
    let data : List UInt8 := [0xFF, 0xFE, 0x49, 0x00, 0x4E, 0x00, 0x3B, 0x00, 0x58, 0x00, 0x3D, 0xD8,
      0x00, 0xDE, 0x3B, 0x00]
    let text := ['I', 'N', ';', 'X', Char.ofNat 0x1F600, ';']
    let options : Options := { bufferSize := some 1, encoding := some "utf-16" }
    let streamed := Parser.parse {} (.byteStream .direct data) options
    Encoding.named "utf-16" = .ok (.own (.utf16 none)) ∧ (Encoding.utf16 none).Marked data ∧
      (Encoding.utf16 none).decode data = .ok text ∧
      streamed.outcome = (Parser.parse {} (.bytes data) options).outcome ∧
      streamed.outcome = (Parser.parse {} (.text text) options).outcome ∧
      Notice.commands streamed.trace =
        Notice.commands (Parser.parse {} (.text text) options).trace ∧
      Notice.diagnostics streamed.trace =
        Notice.diagnostics (Parser.parse {} (.text text) options).trace := by
  intro data text options streamed
  have hnamed : Encoding.named "utf-16" = .ok (.own (.utf16 none)) := rfl
  have hmarked : (Encoding.utf16 none).Marked data := rfl
  have hspells : (Encoding.Codec.utf16 .little).Spells (data.drop 2) text :=
    .char rfl (.char rfl (.char rfl (.char rfl (.char rfl (.char rfl .nil)))))
  have hdecoded : (Encoding.utf16 none).decode data = .ok text := hspells.decodeAll 2
  have hsize : options.bufferSizeFor (.byteStream .direct data) = (1 : Nat) := rfl
  obtain ⟨⟨_, _, hheld, _⟩, hcommands, hdiagnostics, houtcome, _⟩ :=
    parse_byteStream {} rfl hnamed hmarked hdecoded hsize (by decide) (by decide) trivial
  exact ⟨hnamed, hmarked, hdecoded, hheld, houtcome, hcommands, hdiagnostics⟩

end Parser

end PlotStream
