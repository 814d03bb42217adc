import PlotStream.Proofs.Replacing

/-!
What is known of bytes that arrive in chunks. Of a stream it is known which characters it holds in
front of an unfinished one, unless some of its bytes make no sense; then nothing is known of it as a
whole. Both verdicts stand whatever comes later, so a decoder that sees the bytes in chunks comes to
the same one: it gives all characters that are known, or it fails. What it does not notice is that
the stream ends inside a character. A stream without the mark that it needs fails as soon as a
character would come of it.
-/

namespace PlotStream.Encoding

namespace Codec

variable {codec : Codec}

/-- Bytes that make no sense make none whatever comes later. -/
def Firm (codec : Codec) : Prop :=
  ∀ (b : UInt8) (rest later : List UInt8) (more : Nat) (reason : Reason),
    codec.front b rest = .invalid more reason → codec.front b (rest ++ later) = .invalid more reason

theorem Single.firm (h : codec.Single) : codec.Firm := by
  intro b rest later more reason hfront
  rw [h.alone] at hfront
  rw [h.alone, hfront]

end Codec

theorem Utf8.follow_firm {needed passed : Nat} {low high : UInt8} {bits : Nat}
    {bytes : List UInt8} {more : Nat} {reason : Reason}
    (h : follow needed passed low high bits bytes = .invalid more reason) (later : List UInt8) :
    follow needed passed low high bits (bytes ++ later) = .invalid more reason := by
  induction needed generalizing passed low high bits bytes with
  | zero => simp [follow] at h
  | succ needed ih =>
      cases bytes with
      | nil => cases h
      | cons b rest =>
          simp only [follow] at h
          rw [List.cons_append, follow]
          split at h
          next hdue =>
            rw [if_pos hdue]
            exact ih h
          next hdue =>
            rw [if_neg hdue]
            exact h

namespace Codec

variable {codec : Codec} {bytes : List UInt8}

theorem utf8_firm : Codec.utf8.Firm := by
  intro b rest later more reason h
  simp only [utf8, Utf8.front] at h ⊢
  split at h
  · cases h
  next hascii =>
    rw [if_neg hascii]
    cases hlead : Utf8.lead b with
    | none =>
        rw [hlead] at h
        exact h
    | some announced =>
        rw [hlead] at h
        exact Utf8.follow_firm h later

theorem utf16_firm (order : ByteOrder) : (Codec.utf16 order).Firm := by
  intro b rest later more reason h
  simp only [utf16] at h ⊢
  rcases rest with _ | ⟨second, rest⟩
  · cases h
  simp only [List.cons_append, Utf16.front] at h ⊢
  split at h
  next hlow =>
    rw [if_pos hlow]
    exact h
  next hlow =>
  rw [if_neg hlow]
  split at h
  next hhigh =>
      rw [if_pos hhigh]
      rcases rest with _ | ⟨third, _ | ⟨fourth, rest⟩⟩
      · cases h
      · cases h
      · exact h
  · cases h

theorem utf32_firm (order : ByteOrder) : (Codec.utf32 order).Firm := by
  intro b rest later more reason h
  simp only [utf32] at h ⊢
  rcases rest with _ | ⟨second, _ | ⟨third, _ | ⟨fourth, rest⟩⟩⟩
  · cases h
  · cases h
  · cases h
  · exact h

end Codec

/-- The characters that are certain in bytes which may go on, with the bytes that wait behind them;
nothing if bytes make no sense. -/
def Item.soFar (items : List Item) : Option (List Char × List UInt8) :=
  (decodeSoFar items).toOption

@[simp]
theorem Item.soFar_nil : soFar [] = some ([], []) := rfl

@[simp]
theorem Item.soFar_char (c : Char) (rest : List Item) :
    soFar (.char c :: rest) = (soFar rest).map (Prod.map (c :: ·) id) := by
  rw [soFar, soFar, decodeSoFar]
  cases decodeSoFar rest <;> rfl

@[simp]
theorem Item.soFar_invalid (failure : Failure) (rest : List Item) :
    soFar (.invalid failure :: rest) = none := rfl

@[simp]
theorem Item.soFar_unfinished (left : List UInt8) (failure : Failure) (rest : List Item) :
    soFar (.unfinished left failure :: rest) = some ([], left) := rfl

namespace Codec

variable {codec : Codec} {bytes : List UInt8}

def soFar (codec : Codec) (bytes : List UInt8) : Option (List Char × List UInt8) :=
  Item.soFar (codec.items 0 bytes)

/-- Positions make no difference to what is certain. -/
theorem soFar_items (codec : Codec) (position : Nat) (bytes : List UInt8) :
    Item.soFar (codec.items position bytes) = codec.soFar bytes := by
  suffices general : ∀ other, Item.soFar (codec.items position bytes) =
      Item.soFar (codec.items other bytes) from general 0
  induction position, bytes using Codec.items.induct codec with
  | case1 position =>
      intro other
      rw [items, items]
  | case2 position b rest c more hfront ih =>
      intro other
      rw [items, items, hfront]
      simp only [Item.soFar_char, ih (other + 1 + more)]
  | case3 position b rest more reason hfront _ =>
      intro other
      rw [items, items, hfront]
      simp only [Item.soFar_invalid]
  | case4 position b rest reason hfront =>
      intro other
      rw [items, items, hfront]
      rfl

theorem soFar_nil (codec : Codec) : codec.soFar [] = some ([], []) := by
  rw [soFar, items]
  rfl

theorem soFar_char {b : UInt8} {rest : List UInt8} {c : Char} {more : Nat}
    (h : codec.front b rest = .char c more) :
    codec.soFar (b :: rest) = (codec.soFar (rest.drop more)).map (Prod.map (c :: ·) id) := by
  rw [soFar, items, h]
  simp only [Item.soFar_char, soFar_items]

theorem soFar_invalid {b : UInt8} {rest : List UInt8} {more : Nat} {reason : Reason}
    (h : codec.front b rest = .invalid more reason) : codec.soFar (b :: rest) = none := by
  rw [soFar, items, h]
  rfl

theorem soFar_unfinished {b : UInt8} {rest : List UInt8} {reason : Reason}
    (h : codec.front b rest = .unfinished reason) :
    codec.soFar (b :: rest) = some ([], b :: rest) := by
  rw [soFar, items, h]
  rfl

/-- The bytes that wait are the last ones. What has been decoded so far comes first, and then what
comes of these and the later ones. Of the ones that wait alone nothing comes. -/
theorem soFar_append (hsettled : codec.Settled) {position : Nat} {chars : List Char}
    {left : List UInt8} (h : Item.decodeSoFar (codec.items position bytes) = .ok (chars, left)) :
    left <:+ bytes ∧ codec.soFar left = some ([], left) ∧ ∀ later,
      codec.soFar (bytes ++ later) =
        (codec.soFar (left ++ later)).map (Prod.map (chars ++ ·) id) := by
  induction position, bytes using Codec.items.induct codec generalizing chars left with
  | case1 position =>
      rw [items, Item.decodeSoFar] at h
      obtain ⟨rfl, rfl⟩ := Prod.mk.inj (Except.ok.inj h)
      refine ⟨List.suffix_refl _, codec.soFar_nil, fun later => ?_⟩
      cases codec.soFar ([] ++ later) <;> rfl
  | case2 position b rest c more hfront ih =>
      rw [items, hfront] at h
      simp only [Item.decodeSoFar] at h
      cases hrest : Item.decodeSoFar (codec.items (position + 1 + more) (rest.drop more)) with
      | error failure =>
          rw [hrest] at h
          cases h
      | ok decoded =>
          rw [hrest] at h
          obtain ⟨rfl, rfl⟩ := Prod.mk.inj (Except.ok.inj h)
          obtain ⟨hsuffix, hleft, happend⟩ := ih hrest
          have hwhole := (hsuffix.trans (List.drop_suffix _ _)).trans (List.suffix_cons b rest)
          refine ⟨hwhole, hleft, fun later => ?_⟩
          obtain ⟨hmore, hstays⟩ := hsettled b rest later c more hfront
          rw [List.cons_append, soFar_char hstays, List.drop_append_of_le_length hmore, happend,
            Option.map_map]
          rfl
  | case3 position b rest more reason hfront _ =>
      rw [items, hfront] at h
      cases h
  | case4 position b rest reason hfront =>
      rw [items, hfront] at h
      obtain ⟨rfl, rfl⟩ := Prod.mk.inj (Except.ok.inj h)
      refine ⟨List.suffix_refl _, soFar_unfinished hfront, fun later => ?_⟩
      cases codec.soFar (b :: rest ++ later) <;> rfl

/-- Bytes that make no sense spoil all that comes later. -/
theorem soFar_append_of_error (hsettled : codec.Settled) (hfirm : codec.Firm) {position : Nat}
    {failure : Failure} (h : Item.decodeSoFar (codec.items position bytes) = .error failure)
    (later : List UInt8) : codec.soFar (bytes ++ later) = none := by
  induction position, bytes using Codec.items.induct codec with
  | case1 position =>
      rw [items, Item.decodeSoFar] at h
      cases h
  | case2 position b rest c more hfront ih =>
      rw [items, hfront] at h
      simp only [Item.decodeSoFar] at h
      cases hrest : Item.decodeSoFar (codec.items (position + 1 + more) (rest.drop more)) with
      | error failure' =>
          rw [hrest] at h
          obtain rfl := Except.error.inj h
          obtain ⟨hmore, hstays⟩ := hsettled b rest later c more hfront
          rw [List.cons_append, soFar_char hstays, List.drop_append_of_le_length hmore, ih hrest]
          rfl
      | ok decoded =>
          rw [hrest] at h
          cases h
  | case3 position b rest more reason hfront _ =>
      rw [List.cons_append]
      exact soFar_invalid (hfirm b rest later more reason hfront)
  | case4 position b rest reason hfront =>
      rw [items, hfront] at h
      cases h

/-- As long as there is no character all bytes wait, and a first character takes its bytes away. -/
theorem left_cases (hsettled : codec.Settled) {size position : Nat} {chars : List Char}
    {left : List UInt8} (h : Item.decodeSoFar (codec.items position bytes) = .ok (chars, left))
    (hsize : ∀ {b : UInt8} {rest : List UInt8} {c : Char} {more : Nat},
      codec.front b rest = .char c more → size ≤ more + 1) :
    chars = [] ∧ left = bytes ∨ chars ≠ [] ∧ size ≤ bytes.length - left.length := by
  cases bytes with
  | nil =>
      rw [items, Item.decodeSoFar] at h
      obtain ⟨rfl, rfl⟩ := Prod.mk.inj (Except.ok.inj h)
      exact Or.inl ⟨rfl, rfl⟩
  | cons b rest =>
      rw [items] at h
      cases hfront : codec.front b rest with
      | invalid more reason =>
          rw [hfront] at h
          cases h
      | unfinished reason =>
          rw [hfront] at h
          obtain ⟨rfl, rfl⟩ := Prod.mk.inj (Except.ok.inj h)
          exact Or.inl ⟨rfl, rfl⟩
      | char c more =>
          rw [hfront] at h
          simp only [Item.decodeSoFar] at h
          cases hrest : Item.decodeSoFar (codec.items (position + 1 + more) (rest.drop more)) with
          | error failure =>
              rw [hrest] at h
              cases h
          | ok decoded =>
              rw [hrest] at h
              obtain ⟨rfl, rfl⟩ := Prod.mk.inj (Except.ok.inj h)
              obtain ⟨hmore, _⟩ := hsettled b rest [] c more hfront
              have hleft := (soFar_append hsettled hrest).1.length_le
              have hwide := hsize hfront
              rw [List.length_drop] at hleft
              refine Or.inr ⟨List.cons_ne_nil _ _, ?_⟩
              rw [List.length_cons]
              omega

end Codec

/-- How a stream fails by its bytes: some of them make no sense, or the mark that it needs is not
there. -/
inductive Fails (marked : Prop) : ReadFailure → Prop where
  | undecodable (failure : Failure) : Fails marked (.undecodable failure)
  | unmarked (hunmarked : ¬ marked) (bits : Nat) : Fails marked (.missingMark bits)

/-- What comes of a stream: the characters at hand with those that are known, or a failure behind
some characters. -/
def Delivers (marked : Prop) (source : Source) (atHand : List Char) : Option (List Char) → Prop
  | some chars => source.Gives (atHand ++ chars) none
  | none => ∃ delivered cause, source.Gives delivered (some cause) ∧ Fails marked cause

/-- What decoding the first part of some bytes comes to: some characters that are known, with the
rest known to the new decoder, or a failure of all the bytes. Which decoders are sound and what is
known to them is left open. -/
inductive Verdict {δ : Type} (sound : δ → List UInt8 → Prop)
    (known : δ → List UInt8 → Option (List Char)) (marked : Prop) (decoder : δ)
    (bytes later : List UInt8) : Except ReadFailure (Decoded δ) → Prop where
  | decoded {decoded : Decoded δ} (hsound : sound decoded.decoder (decoded.left ++ later))
      (hend : later = [] → known decoded.decoder decoded.left = some [])
      (hknown : known decoder (bytes ++ later) =
        (known decoded.decoder (decoded.left ++ later)).map (decoded.chars ++ ·)) :
      Verdict sound known marked decoder bytes later (.ok decoded)
  | failed {cause : ReadFailure} (hfails : Fails marked cause)
      (hknown : known decoder (bytes ++ later) = none) :
      Verdict sound known marked decoder bytes later (.error cause)

/-- A reader whose every step comes to a verdict delivers what is known, whatever the chunks. -/
theorem replies_deliver {δ : Type} {sound : δ → List UInt8 → Prop}
    {known : δ → List UInt8 → Option (List Char)} {marked : Prop}
    {decode : δ → List UInt8 → Except ReadFailure (Decoded δ)}
    (hdecode : ∀ {decoder : δ} {bytes later : List UInt8}, sound decoder (bytes ++ later) →
      Verdict sound known marked decoder bytes later (decode decoder bytes))
    {size : Nat} (hsize : 0 < size) {decoder : δ} {left : List UInt8} {atHand : List Char}
    {chunks : List (List UInt8)} (h : sound decoder (left ++ chunks.flatten))
    (hend : chunks = [] → known decoder left = some []) :
    Delivers marked (.ofChunks (replies decode size decoder left atHand chunks)) atHand
      (known decoder (left ++ chunks.flatten)) := by
  induction decoder, left, atHand, chunks using replies.induct decode size with
  | case1 decoder left atHand =>
      rw [replies, List.flatten_nil, List.append_nil, hend rfl, Delivers, List.append_nil]
      exact Source.gives_pieces size atHand
  | case2 decoder left atHand chunk rest henough ih =>
      have hne : atHand.take size ≠ [] := by
        intro hnil
        have hlength := congrArg List.length hnil
        rw [List.length_take, List.length_nil] at hlength
        omega
      have hmore := ih h (by simp)
      rw [replies, if_pos henough]
      cases hknown : known decoder (left ++ (chunk :: rest).flatten) with
      | some chars =>
          have hwhole : atHand ++ chars = atHand.take size ++ (atHand.drop size ++ chars) := by
            rw [← List.append_assoc, List.take_append_drop]
          rw [hknown, Delivers] at hmore
          rw [Delivers, hwhole]
          exact .reply rfl hne hmore
      | none =>
          rw [hknown, Delivers] at hmore
          obtain ⟨delivered, cause, hgives, hfails⟩ := hmore
          exact ⟨_, cause, .reply rfl hne hgives, hfails⟩
  | case3 decoder left atHand chunk rest hfew decoded hdecoded ih =>
      rw [List.flatten_cons, ← List.append_assoc] at h ⊢
      have hverdict := hdecode h
      rw [hdecoded] at hverdict
      cases hverdict with
      | decoded hsound hlast hknown =>
          have hmore := ih hsound fun hrest => hlast (by rw [hrest, List.flatten_nil])
          rw [replies, if_neg hfew, hdecoded, hknown]
          cases htail : known decoded.decoder (decoded.left ++ rest.flatten) with
          | some chars =>
              rw [htail, Delivers, List.append_assoc] at hmore
              exact hmore
          | none =>
              rw [htail] at hmore
              exact hmore
  | case4 decoder left atHand chunk rest hfew cause hfailed =>
      rw [List.flatten_cons, ← List.append_assoc] at h ⊢
      have hverdict := hdecode h
      rw [hfailed] at hverdict
      cases hverdict with
      | failed hfails hknown =>
          rw [replies, if_neg hfew, hfailed, hknown]
          exact ⟨[], _, .broken rfl, hfails⟩

namespace Decoder

/-- The items of the bytes that a decoder has still to see. -/
def items : Decoder → List UInt8 → List Item
  | .ready codec, bytes => codec.items 0 bytes
  | .signature, bytes => Encoding.utf8Signed.items bytes
  | .mark size codec order?, bytes => markedItems codec size (order? bytes) bytes

/-- Whether the mark that a decoder needs is in front of the bytes to come. -/
def hasMark : Decoder → List UInt8 → Bool
  | .mark _ _ order?, bytes => (order? bytes).isSome
  | _, _ => true

/-- The characters that are known to be in the bytes that a decoder has still to see. Without the
mark that it needs there may be none. -/
def known (decoder : Decoder) (bytes : List UInt8) : Option (List Char) :=
  ((Item.soFar (decoder.items bytes)).map Prod.fst).filter fun chars =>
    decoder.hasMark bytes || chars.isEmpty

theorem known_of_hasMark {decoder : Decoder} {bytes : List UInt8}
    (h : decoder.hasMark bytes = true) :
    decoder.known bytes = (Item.soFar (decoder.items bytes)).map Prod.fst := by
  rw [known, h]
  cases (Item.soFar (decoder.items bytes)).map Prod.fst <;> simp

/-- A decoder whose verdicts stand. -/
def Sound (marked : Prop) : Decoder → List UInt8 → Prop
  | .ready codec, _ => codec.Settled ∧ codec.Firm
  | .signature, _ => True
  | .mark size codec order?, bytes =>
    MarksOrder size codec order? ∧ (∀ order, (codec order).Settled ∧ (codec order).Firm) ∧
      (marked → (order? bytes).isSome)

end Decoder

variable {bytes later : List UInt8} {marked : Prop}

/-- The verdict of a codec that has been settled on. -/
theorem Codec.verdict {codec : Codec} (hsettled : codec.Settled) (hfirm : codec.Firm)
    (position : Nat) {decoder : Decoder} {whole : List UInt8}
    (hwhole : decoder.known (whole ++ later) = (codec.soFar (bytes ++ later)).map Prod.fst) :
    Verdict (Decoder.Sound marked) Decoder.known marked decoder whole later
      (Decoded.ofItems (.ready codec) (codec.items position bytes)) := by
  rw [Decoded.ofItems]
  cases hitems : Item.decodeSoFar (codec.items position bytes) with
  | ok decoded =>
      obtain ⟨_, hleft, happend⟩ := soFar_append hsettled hitems
      refine .decoded ⟨hsettled, hfirm⟩ (fun _ => ?_) ?_
      · rw [Decoder.known_of_hasMark rfl]
        exact congrArg (Option.map Prod.fst) hleft
      · rw [hwhole, happend later, Decoder.known_of_hasMark rfl, Option.map_map, Option.map_map]
        rfl
  | error failure =>
      refine .failed (.undecodable failure) ?_
      rw [hwhole, soFar_append_of_error hsettled hfirm hitems later]
      rfl

namespace Decoder

/-- Nothing is known while a signature may still come. -/
theorem known_signature_short (hshort : bytes.length < 3) (hpart : bytes <+: Encoding.signature) :
    Decoder.signature.known bytes = some [] := by
  have hunsigned : ¬ Encoding.signature <+: bytes := by
    intro hsigned
    have hlength : 3 ≤ bytes.length := hsigned.length_le
    omega
  rw [known_of_hasMark rfl, items, Encoding.items, if_neg (by simpa using hunsigned),
    Codec.soFar_items]
  rcases bytes with _ | ⟨b, _ | ⟨c, _ | _⟩⟩
  · rw [Codec.soFar_nil]
    rfl
  · obtain ⟨rfl, _⟩ := List.cons_prefix_cons.mp hpart
    have hfront : Codec.utf8.front 0xEF [] = .unfinished .unexpectedEnd := by decide
    rw [Codec.soFar_unfinished hfront]
    rfl
  · obtain ⟨rfl, htail⟩ := List.cons_prefix_cons.mp hpart
    obtain ⟨rfl, _⟩ := List.cons_prefix_cons.mp htail
    have hfront : Codec.utf8.front 0xEF [0xBB] = .unfinished .unexpectedEnd := by decide
    rw [Codec.soFar_unfinished hfront]
    rfl
  · simp only [List.length_cons] at hshort
    omega

/-- Without a mark all bytes are kept as long as there is no character in them. -/
theorem verdict_unmarked {size : Nat} {codec : ByteOrder → Codec}
    {order? : List UInt8 → Option ByteOrder}
    (h : (Decoder.mark size codec order?).Sound marked (bytes ++ later))
    (hunmarked : order? bytes = none) :
    Verdict (Sound marked) known marked (.mark size codec order?) bytes later
      (Decoder.decode (.mark size codec order?) bytes) := by
  obtain ⟨hmarks, hcodec, hneeded⟩ := h
  obtain ⟨hsettled, hfirm⟩ := hcodec .little
  have hpos := hmarks.pos
  rw [Decoder.decode, hunmarked]
  simp only [Decoded.ofItems]
  by_cases hlong : size ≤ bytes.length
  · have hwhole : order? (bytes ++ later) = none := by rw [hmarks.append later hlong, hunmarked]
    have hmissing : ¬ marked := by
      intro hmarked
      rw [hwhole] at hneeded
      exact Bool.noConfusion (hneeded hmarked)
    have hknown : Decoder.known (.mark size codec order?) (bytes ++ later) =
        (((codec .little).soFar (bytes ++ later)).map Prod.fst).filter List.isEmpty := by
      simp [known, hasMark, items, hwhole, markedItems, Codec.soFar]
    cases hitems : Item.decodeSoFar ((codec .little).items 0 bytes) with
    | error failure =>
        refine .failed (.undecodable failure) ?_
        rw [hknown, Codec.soFar_append_of_error hsettled hfirm hitems later]
        rfl
    | ok decoded =>
        obtain ⟨chars, left⟩ := decoded
        obtain ⟨_, _, happend⟩ := Codec.soFar_append hsettled hitems
        rcases Codec.left_cases hsettled hitems hmarks.size_le_char with
          ⟨rfl, rfl⟩ | ⟨hchars, htaken⟩
        · dsimp only
          rw [if_neg (by omega)]
          refine .decoded ⟨hmarks, hcodec, hneeded⟩ ?_ (by simp)
          intro _
          simp [known, hasMark, items, hunmarked, markedItems, Item.soFar, hitems, Except.toOption]
        · dsimp only
          rw [if_pos htaken]
          refine .failed (.unmarked hmissing _) ?_
          rw [hknown, happend]
          cases (codec .little).soFar (left ++ later) <;> simp [hchars]
  · have hitems := hmarks.decodeSoFar (Nat.lt_of_not_le hlong)
    rw [hitems]
    dsimp only
    rw [if_neg (by omega)]
    refine .decoded ⟨hmarks, hcodec, hneeded⟩ ?_ (by simp)
    intro _
    simp [known, hasMark, items, hunmarked, markedItems, Item.soFar, hitems, Except.toOption]

theorem Sound.decode {decoder : Decoder} (h : decoder.Sound marked (bytes ++ later)) :
    Verdict (Sound marked) known marked decoder bytes later (decoder.decode bytes) := by
  cases decoder with
  | ready codec => exact Codec.verdict h.1 h.2 0 (known_of_hasMark rfl)
  | signature =>
      rw [Decoder.decode]
      by_cases hwait : bytes.length < 3 ∧ bytes <+: Encoding.signature
      · rw [if_pos (by simpa using hwait)]
        exact .decoded trivial (fun _ => known_signature_short hwait.1 hwait.2) (by simp)
      rw [if_neg (by simpa using hwait)]
      have happend := signature_prefix_append hwait later
      by_cases hsigned : Encoding.signature <+: bytes
      · rw [if_pos (by simpa using hsigned)]
        refine Codec.verdict Codec.utf8_settled Codec.utf8_firm 0 ?_
        have hlength : 3 ≤ bytes.length := hsigned.length_le
        have hwhole := happend.mpr hsigned
        rw [known_of_hasMark rfl, items, Encoding.items, if_pos (by simpa using hwhole),
          List.drop_append_of_le_length hlength, Codec.soFar_items]
      · rw [if_neg (by simpa using hsigned)]
        refine Codec.verdict Codec.utf8_settled Codec.utf8_firm 0 ?_
        have hwhole := mt happend.mp hsigned
        rw [known_of_hasMark rfl, items, Encoding.items, if_neg (by simpa using hwhole),
          Codec.soFar_items]
  | mark size codec order? =>
      cases hfound : order? bytes with
      | none => exact verdict_unmarked h hfound
      | some order =>
          obtain ⟨hmarks, hcodec, _⟩ := h
          have hlength := hmarks.size_le hfound
          have hwhole : order? (bytes ++ later) = some order := by
            rw [hmarks.append later hlength, hfound]
          rw [Decoder.decode, hfound]
          refine Codec.verdict (hcodec order).1 (hcodec order).2 size ?_
          rw [known_of_hasMark (by rw [hasMark, hwhole]; rfl), items, hwhole, markedItems,
            List.drop_append_of_le_length hlength, Codec.soFar_items]

end Decoder

theorem sound_decoder (encoding : Encoding) (bytes : List UInt8) :
    encoding.decoder.Sound (encoding.Marked bytes) bytes := by
  cases encoding with
  | utf8 => exact ⟨Codec.utf8_settled, Codec.utf8_firm⟩
  | utf8Signed => trivial
  | latin1 => exact ⟨Codec.latin1_single.settled, Codec.latin1_single.firm⟩
  | ascii => exact ⟨Codec.ascii_single.settled, Codec.ascii_single.firm⟩
  | windows1252 => exact ⟨(Codec.codePage_single _ _).settled, (Codec.codePage_single _ _).firm⟩
  | dos850 => exact ⟨(Codec.codePage_single _ _).settled, (Codec.codePage_single _ _).firm⟩
  | utf16 order? =>
      cases order? with
      | some order => exact ⟨Codec.utf16_settled order, Codec.utf16_firm order⟩
      | none =>
          exact ⟨marksOrder16, fun order => ⟨Codec.utf16_settled order, Codec.utf16_firm order⟩, id⟩
  | utf32 order? =>
      cases order? with
      | some order => exact ⟨Codec.utf32_settled order, Codec.utf32_firm order⟩
      | none =>
          exact ⟨marksOrder32, fun order => ⟨Codec.utf32_settled order, Codec.utf32_firm order⟩, id⟩

theorem items_decoder (encoding : Encoding) (bytes : List UInt8) :
    encoding.decoder.items bytes = encoding.items bytes := by
  cases encoding with
  | utf16 order? => cases order? <;> rfl
  | utf32 order? => cases order? <;> rfl
  | _ => rfl

theorem hasMark_decoder (encoding : Encoding) (bytes : List UInt8) :
    encoding.decoder.hasMark bytes = true ↔ encoding.Marked bytes := by
  cases encoding with
  | utf16 order? => cases order? <;> simp [decoder, Decoder.hasMark, Marked]
  | utf32 order? => cases order? <;> simp [decoder, Decoder.hasMark, Marked]
  | _ => simp [decoder, Decoder.hasMark, Marked]

/-- A stream gives the characters that are known, or it fails. -/
theorem source_delivers (encoding : Encoding) {delivery : Delivery} {size : Nat} (hpos : 0 < size)
    (hrefusal : delivery.refusal size = none) (hbytes : bytes ≠ []) :
    Delivers (encoding.Marked bytes) (encoding.source delivery size bytes) []
      (encoding.decoder.known bytes) := by
  have hwhole := Text.pieces_flatten size bytes
  have hsound : encoding.decoder.Sound (encoding.Marked bytes)
      ([] ++ (Text.pieces size bytes).flatten) := by
    rw [List.nil_append, hwhole]
    exact sound_decoder encoding bytes
  have hdelivers : Delivers (encoding.Marked bytes) (.ofChunks
      (replies Decoder.decode size encoding.decoder [] [] (Text.pieces size bytes))) [] _ :=
    replies_deliver Decoder.Sound.decode hpos hsound fun hnone =>
      absurd (by rw [← hwhole, hnone, List.flatten_nil]) hbytes
  rw [source, Source.ofReplies, hrefusal]
  rwa [List.nil_append, hwhole] at hdelivers

/-- Behind a signature or a mark the items are those of one codec. -/
theorem exists_codec_items (encoding : Encoding) (bytes : List UInt8) :
    ∃ codec position rest, encoding.items bytes = Codec.items codec position rest := by
  cases encoding with
  | utf8Signed =>
      rw [items]
      split
      · exact ⟨_, _, _, rfl⟩
      · exact ⟨_, _, _, rfl⟩
  | utf16 order? =>
      cases order? with
      | some order => exact ⟨_, _, _, rfl⟩
      | none =>
          rw [items]
          cases order16? bytes with
          | some order => exact ⟨_, _, _, rfl⟩
          | none => exact ⟨_, _, _, rfl⟩
  | utf32 order? =>
      cases order? with
      | some order => exact ⟨_, _, _, rfl⟩
      | none =>
          rw [items]
          cases order32? bytes with
          | some order => exact ⟨_, _, _, rfl⟩
          | none => exact ⟨_, _, _, rfl⟩
  | _ => exact ⟨_, _, _, rfl⟩

/-- Bytes that make sense and of which none wait decode all at once, too. -/
theorem Codec.decodeAll_of_decodeSoFar {codec : Codec} {position : Nat} {chars : List Char}
    (h : Item.decodeSoFar (codec.items position bytes) = .ok (chars, [])) :
    Item.decodeAll (codec.items position bytes) = .ok chars := by
  induction position, bytes using Codec.items.induct codec generalizing chars with
  | case1 position =>
      rw [items, Item.decodeSoFar] at h
      obtain ⟨rfl, _⟩ := Prod.mk.inj (Except.ok.inj h)
      rw [items, Item.decodeAll]
  | case2 position b rest c more hfront ih =>
      rw [items, hfront] at h ⊢
      simp only [Item.decodeSoFar, Item.decodeAll] at h ⊢
      cases hrest : Item.decodeSoFar (codec.items (position + 1 + more) (rest.drop more)) with
      | error failure =>
          rw [hrest] at h
          cases h
      | ok decoded =>
          obtain ⟨cs, left⟩ := decoded
          rw [hrest] at h
          obtain ⟨rfl, rfl⟩ := Prod.mk.inj (Except.ok.inj h)
          rw [ih hrest]
          rfl
  | case3 position b rest more reason hfront _ =>
      rw [items, hfront] at h
      cases h
  | case4 position b rest reason hfront =>
      rw [items, hfront] at h
      obtain ⟨_, hleft⟩ := Prod.mk.inj (Except.ok.inj h)
      cases hleft

theorem decode_of_decodeSoFar {encoding : Encoding} {chars : List Char}
    (h : Item.decodeSoFar (encoding.items bytes) = .ok (chars, [])) :
    encoding.decode bytes = .ok chars := by
  obtain ⟨codec, position, rest, hitems⟩ := encoding.exists_codec_items bytes
  rw [hitems] at h
  rw [decode, hitems]
  exact Codec.decodeAll_of_decodeSoFar h

theorem Item.soFar_eq_some {items : List Item} {chars : List Char} {left : List UInt8} :
    soFar items = some (chars, left) ↔ decodeSoFar items = .ok (chars, left) := by
  rw [soFar]
  cases decodeSoFar items <;> simp [Except.toOption]

end PlotStream.Encoding
