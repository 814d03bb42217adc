import PlotStream.Program.Decoding
import PlotStream.Proofs.ByteStreams
import PlotStream.Proofs.Extension
import PlotStream.Proofs.FailingSource
import PlotStream.Proofs.Locations

/-!
A stream of bytes against the same bytes decoded for display. The stream stops at the first bytes
that make no sense, may lose the characters of the request that meets them, drops an unfinished
character at its end, and may wait for a mark that never comes. For display all bytes are there at
once and U+FFFD stands for what does not decode. A character that has been seen is not taken back
when more bytes arrive, so what a stream delivers is always a beginning of what is displayed.
-/

namespace PlotStream.Encoding

namespace Codec

variable {codec : Codec}

/-- A character that has been seen is complete, and stays whatever comes later. -/
def Settled (codec : Codec) : Prop :=
  ∀ (b : UInt8) (rest later : List UInt8) (c : Char) (more : Nat),
    codec.front b rest = .char c more →
      more ≤ rest.length ∧ codec.front b (rest ++ later) = .char c more

theorem Single.settled (h : codec.Single) : codec.Settled := by
  intro b rest later c more hfront
  rw [h.alone] at hfront
  constructor
  · rw [h.more_eq hfront]
    exact Nat.zero_le _
  · rw [h.alone, hfront]

end Codec

theorem Utf8.follow_settled {needed passed : Nat} {low high : UInt8} {bits : Nat}
    {bytes : List UInt8} {c : Char} {more : Nat}
    (h : follow needed passed low high bits bytes = .char c more) (later : List UInt8) :
    more ≤ passed + bytes.length ∧
      follow needed passed low high bits (bytes ++ later) = .char c more := by
  induction needed generalizing passed low high bits bytes with
  | zero =>
      simp only [follow, Front.char.injEq] at h ⊢
      obtain ⟨rfl, rfl⟩ := h
      exact ⟨Nat.le_add_right _ _, rfl, rfl⟩
  | succ needed ih =>
      cases bytes with
      | nil => cases h
      | cons b rest =>
          simp only [follow] at h
          split at h
          next hdue =>
            obtain ⟨hmore, hlater⟩ := ih h
            constructor
            · rw [List.length_cons]
              omega
            · rw [List.cons_append, follow, if_pos hdue]
              exact hlater
          next => cases h

namespace Codec

variable {codec : Codec} {bytes : List UInt8}

theorem utf8_settled : Codec.utf8.Settled := by
  intro b rest later c more h
  simp only [utf8, Utf8.front] at h ⊢
  split at h
  next hascii =>
      rw [if_pos hascii]
      obtain ⟨_, rfl⟩ := Front.char.inj h
      exact ⟨Nat.zero_le _, h⟩
  next hascii =>
      rw [if_neg hascii]
      cases hlead : Utf8.lead b with
      | none =>
          rw [hlead] at h
          cases h
      | some announced =>
          rw [hlead] at h
          simpa using Utf8.follow_settled h later

theorem utf16_settled (order : ByteOrder) : (Codec.utf16 order).Settled := by
  intro b rest later c more h
  simp only [utf16] at h ⊢
  rcases rest with _ | ⟨second, rest⟩
  · cases h
  simp only [List.cons_append, Utf16.front] at h ⊢
  split at h
  · cases h
  next hlow =>
  rw [if_neg hlow]
  split at h
  next hhigh =>
      rw [if_pos hhigh]
      rcases rest with _ | ⟨third, _ | ⟨fourth, rest⟩⟩
      · cases h
      · cases h
      simp only [List.cons_append] at h ⊢
      split at h
      next hpair =>
          rw [if_pos hpair]
          obtain ⟨_, rfl⟩ := Front.char.inj h
          refine ⟨?_, h⟩
          simp only [List.length_cons]
          omega
      next => cases h
  next hhigh =>
      rw [if_neg hhigh]
      obtain ⟨_, rfl⟩ := Front.char.inj h
      refine ⟨?_, h⟩
      simp only [List.length_cons]
      omega

theorem utf32_settled (order : ByteOrder) : (Codec.utf32 order).Settled := by
  intro b rest later c more h
  simp only [utf32] at h ⊢
  rcases rest with _ | ⟨second, _ | ⟨third, _ | ⟨fourth, rest⟩⟩⟩
  · cases h
  · cases h
  · cases h
  refine ⟨?_, h⟩
  simp -zeta only [Utf32.front] at h
  extract_lets n at h
  split at h
  · cases h
  split at h
  · cases h
  · obtain ⟨_, rfl⟩ := Front.char.inj h
    simp only [List.length_cons]
    omega

/-- Bytes as they are displayed. -/
def shown (codec : Codec) (bytes : List UInt8) : List Char :=
  (codec.items 0 bytes).map Item.shown

/-- Positions are not displayed. -/
theorem map_shown_items (codec : Codec) (position : Nat) (bytes : List UInt8) :
    (codec.items position bytes).map Item.shown = codec.shown bytes := by
  suffices general : ∀ other, (codec.items position bytes).map Item.shown =
      (codec.items other bytes).map Item.shown from general 0
  induction position, bytes using Codec.items.induct codec with
  | case1 position =>
      intro other
      rw [items, items]
  | case2 position b rest c more hfront ih =>
      intro other
      rw [items, items, hfront]
      simp only [List.map_cons, ih (other + 1 + more), Item.shown]
  | case3 position b rest more reason hfront ih =>
      intro other
      rw [items, items, hfront]
      simp only [List.map_cons, ih (other + 1 + more), Item.shown]
  | case4 position b rest reason hfront =>
      intro other
      rw [items, items, hfront]
      rfl

theorem shown_char {b : UInt8} {rest : List UInt8} {c : Char} {more : Nat}
    (h : codec.front b rest = .char c more) :
    codec.shown (b :: rest) = c :: codec.shown (rest.drop more) := by
  rw [shown, items, h]
  simp only [List.map_cons, map_shown_items, Item.shown]

/-- What has been decoded so far is displayed first, and then what was left and what comes later. -/
theorem shown_append (hcodec : codec.Settled) {position : Nat} {chars : List Char}
    {left : List UInt8} (h : Item.decodeSoFar (codec.items position bytes) = .ok (chars, left))
    (later : List UInt8) : codec.shown (bytes ++ later) = chars ++ codec.shown (left ++ later) := by
  induction position, bytes using Codec.items.induct codec generalizing chars left with
  | case1 position =>
      rw [items, Item.decodeSoFar] at h
      obtain ⟨rfl, rfl⟩ := Prod.mk.inj (Except.ok.inj h)
      rfl
  | case2 position b rest c more hfront ih =>
      rw [items, hfront] at h
      simp only [Item.decodeSoFar] at h
      cases hrest : Item.decodeSoFar (codec.items (position + 1 + more) (rest.drop more)) with
      | error failure =>
          rw [hrest] at h
          cases h
      | ok decoded =>
          rw [hrest] at h
          obtain ⟨rfl, rfl⟩ := Prod.mk.inj (Except.ok.inj h)
          obtain ⟨hmore, hstays⟩ := hcodec b rest later c more hfront
          rw [List.cons_append, shown_char hstays, List.drop_append_of_le_length hmore,
            ih hrest, List.cons_append]
  | case3 position b rest more reason hfront _ =>
      rw [items, hfront] at h
      cases h
  | case4 position b rest reason hfront =>
      rw [items, hfront] at h
      obtain ⟨rfl, rfl⟩ := Prod.mk.inj (Except.ok.inj h)
      rfl

end Codec

namespace Decoder

/-- A decoder whose characters stay. -/
def Settled : Decoder → Prop
  | .ready codec => codec.Settled
  | .signature => True
  | .mark size codec order? => MarksOrder size codec order? ∧ ∀ order, (codec order).Settled

/-- The bytes that a decoder has still to see, as they are displayed. -/
def shown : Decoder → List UInt8 → List Char
  | .ready codec, bytes => codec.shown bytes
  | .signature, bytes => Encoding.utf8Signed.decodeReplacing bytes
  | .mark size codec order?, bytes =>
    (markedItems codec size (order? bytes) bytes).map Item.shown

end Decoder

theorem settled_decoder (encoding : Encoding) : encoding.decoder.Settled := by
  cases encoding with
  | utf8 => exact Codec.utf8_settled
  | utf8Signed => trivial
  | latin1 => exact Codec.latin1_single.settled
  | ascii => exact Codec.ascii_single.settled
  | windows1252 => exact (Codec.codePage_single _ _).settled
  | dos850 => exact (Codec.codePage_single _ _).settled
  | utf16 order? =>
      cases order? with
      | some order => exact Codec.utf16_settled order
      | none => exact ⟨marksOrder16, Codec.utf16_settled⟩
  | utf32 order? =>
      cases order? with
      | some order => exact Codec.utf32_settled order
      | none => exact ⟨marksOrder32, Codec.utf32_settled⟩

theorem shown_decoder (encoding : Encoding) (bytes : List UInt8) :
    encoding.decoder.shown bytes = encoding.decodeReplacing bytes := by
  cases encoding with
  | utf16 order? => cases order? <;> rfl
  | utf32 order? => cases order? <;> rfl
  | _ => rfl

variable {bytes : List UInt8}

/-- What a chunk decodes to is displayed in front of the rest, and the new decoder is settled. -/
structure Decoded.Shows (decoded : Decoded Decoder) (decoder : Decoder) (bytes : List UInt8) :
    Prop where
  settled : decoded.decoder.Settled
  shown (later : List UInt8) :
    decoder.shown (bytes ++ later) = decoded.chars ++ decoded.decoder.shown (decoded.left ++ later)

theorem Decoded.ofItems_ok {decoder : Decoder} {items : List Item} {decoded : Decoded Decoder}
    (h : Decoded.ofItems decoder items = .ok decoded) :
    decoded.decoder = decoder ∧ Item.decodeSoFar items = .ok (decoded.chars, decoded.left) := by
  rw [ofItems] at h
  split at h
  next chars left hitems =>
    obtain rfl := Except.ok.inj h
    exact ⟨rfl, hitems⟩
  next => cases h

/-- Decoding with a codec that has been settled on. -/
theorem Codec.Settled.shows {codec : Codec} (hcodec : codec.Settled) {position : Nat}
    {decoded : Decoded Decoder} {decoder : Decoder} {whole : List UInt8}
    (h : Decoded.ofItems (.ready codec) (codec.items position bytes) = .ok decoded)
    (hwhole : ∀ later, decoder.shown (whole ++ later) = codec.shown (bytes ++ later)) :
    decoded.Shows decoder whole := by
  obtain ⟨hready, hdecoded⟩ := Decoded.ofItems_ok h
  constructor
  · rw [hready]
    exact hcodec
  · intro later
    rw [hwhole later, hready, Codec.shown_append hcodec hdecoded]
    rfl

theorem Decoder.Settled.decode {decoder : Decoder} (hdecoder : decoder.Settled)
    {decoded : Decoded Decoder} (h : decoder.decode bytes = .ok decoded) :
    decoded.Shows decoder bytes := by
  cases decoder with
  | ready codec => exact hdecoder.shows h fun _ => rfl
  | signature =>
      rw [Decoder.decode] at h
      by_cases hwait : bytes.length < 3 ∧ bytes <+: Encoding.signature
      · rw [if_pos (by simpa using hwait)] at h
        obtain rfl := Except.ok.inj h
        exact ⟨trivial, fun _ => rfl⟩
      rw [if_neg (by simpa using hwait)] at h
      have happend (later : List UInt8) := signature_prefix_append hwait later
      by_cases hsigned : Encoding.signature <+: bytes
      · rw [if_pos (by simpa using hsigned)] at h
        refine Codec.utf8_settled.shows h fun later => ?_
        have hlength : 3 ≤ bytes.length := hsigned.length_le
        have hwhole := (happend later).mpr hsigned
        simp only [shown, decodeReplacing, items]
        rw [if_pos (by simpa using hwhole), List.drop_append_of_le_length hlength]
        rfl
      · rw [if_neg (by simpa using hsigned)] at h
        refine Codec.utf8_settled.shows h fun later => ?_
        have hwhole := mt (happend later).mp hsigned
        simp only [shown, decodeReplacing, items]
        rw [if_neg (by simpa using hwhole)]
        rfl
  | mark size codec order? =>
      obtain ⟨hmarks, hcodec⟩ := hdecoder
      rw [Decoder.decode] at h
      cases hfound : order? bytes with
      | some order =>
          rw [hfound] at h
          refine (hcodec order).shows h fun later => ?_
          have hlength := hmarks.size_le hfound
          simp only [shown, hmarks.append later hlength, hfound, markedItems]
          rw [Codec.map_shown_items, List.drop_append_of_le_length hlength]
      | none =>
          -- The mark is still to come: all bytes wait, or decoding has failed.
          rw [hfound] at h
          simp only at h
          split at h
          · cases h
          next decoded' hdecoded =>
            split at h
            · cases h
            · obtain rfl := Except.ok.inj h
              rw [(Decoded.ofItems_ok hdecoded).1]
              exact ⟨⟨hmarks, hcodec⟩, fun _ => rfl⟩

/-- The replies of a decoder deliver a beginning of the characters at hand and what is displayed of
the bytes behind them, and then they end or fail. -/
theorem Decoder.Settled.replies_begin (size : Nat) {decoder : Decoder} (hdecoder : decoder.Settled)
    (left : List UInt8) (atHand : List Char) (chunks : List (List UInt8)) :
    ∃ delivered ending,
      (Source.ofChunks (replies Decoder.decode size decoder left atHand chunks)).Gives
        delivered ending ∧
        delivered <+: atHand ++ decoder.shown (left ++ chunks.flatten) := by
  induction decoder, left, atHand, chunks using replies.induct Decoder.decode size with
  | case1 decoder left atHand =>
      rw [replies]
      exact ⟨atHand, none, Source.gives_pieces size atHand, List.prefix_append _ _⟩
  | case2 decoder left atHand chunk rest henough ih =>
      obtain ⟨delivered, ending, hgives, hbegin⟩ := ih hdecoder
      have hne : atHand.take size ≠ [] := by
        intro hnil
        have hlength := congrArg List.length hnil
        rw [List.length_take, List.length_nil] at hlength
        omega
      rw [replies, if_pos henough]
      refine ⟨atHand.take size ++ delivered, ending, .reply rfl hne hgives, ?_⟩
      have hwhole := (List.prefix_append_right_inj (atHand.take size)).mpr hbegin
      rwa [← List.append_assoc, List.take_append_drop] at hwhole
  | case3 decoder left atHand chunk rest hfew decoded hdecoded ih =>
      have hshows := hdecoder.decode hdecoded
      obtain ⟨delivered, ending, hgives, hbegin⟩ := ih hshows.settled
      rw [replies, if_neg hfew, hdecoded]
      refine ⟨delivered, ending, hgives, ?_⟩
      rw [List.flatten_cons, ← List.append_assoc left, hshows.shown, ← List.append_assoc]
      exact hbegin
  | case4 decoder left atHand chunk rest hfew cause hfailed =>
      rw [replies, if_neg hfew, hfailed]
      exact ⟨[], some cause, .broken rfl, List.nil_prefix⟩

/-- What a stream delivers, to whatever requests, is a beginning of what is displayed. -/
theorem source_begins (encoding : Encoding) (delivery : Delivery) (size : Nat)
    (data : List UInt8) :
    ∃ delivered ending, (encoding.source delivery size data).Gives delivered ending ∧
      delivered <+: encoding.decodeReplacing data := by
  rw [source, Source.ofReplies]
  cases hrefusal : delivery.refusal size with
  | some cause => exact ⟨[], some cause, .broken rfl, List.nil_prefix⟩
  | none =>
      have hbegins := encoding.settled_decoder.replies_begin size [] []
        (Text.pieces size data)
      rw [Text.pieces_flatten, List.nil_append, List.nil_append, shown_decoder] at hbegins
      exact hbegins

end PlotStream.Encoding

namespace PlotStream

namespace Text

theorem clampPosition_nat (size n : Nat) : clampPosition size n = min n size := by
  have hnonneg : ¬ (n : Int) < 0 := by omega
  rw [clampPosition, if_neg hnonneg, Int.toNat_natCast]

theorem lastLine_suffix (cs : List Char) : lastLine cs <:+ cs := by
  rw [lastLine, ← List.reverse_prefix, List.reverse_reverse]
  exact List.takeWhile_prefix _

/-- The context of a place shows the end of the line before it, then the rest of the line from the
character at the place on, and a caret below that character. Where the line ends at the place there
is nothing above the caret. -/
theorem contextAt_points {cs : List Char} {offset : Nat} (hle : offset ≤ cs.length) {reach : Int}
    (hreach : 0 < reach) :
    ∃ before after,
      contextAt cs offset reach = String.ofList
        (before ++ after ++ '\n' :: List.replicate (widthFrom 0 before) ' ' ++ ['^', '\n']) ∧
        before <:+ cs.take offset ∧ after.head? = cs[offset]?.filter (· ≠ '\n') := by
  refine ⟨_, _, rfl, ?_, ?_⟩
  · refine (lastLine_suffix _).trans ?_
    rw [span, clampPosition_nat, Nat.min_eq_left hle]
    exact List.drop_suffix _ _
  · have hstop : clampPosition cs.length (offset + reach) =
        min (offset + reach).toNat cs.length := if_neg (by omega)
    rw [firstLine, List.head?_takeWhile, span, hstop, clampPosition_nat, Nat.min_eq_left hle,
      List.head?_drop, List.getElem?_take]
    split
    · rfl
    · rw [List.getElem?_eq_none (by omega)]

end Text

theorem Encoding.find?_of_named [Encoding.Registry] {name : String} {coding : Encoding.Coding}
    (h : Encoding.named name = .ok coding) : Encoding.Registry.find? name = some coding := by
  rw [named] at h
  split at h
  · cases h
  · split at h
    next found hfound =>
      obtain rfl := Except.ok.inj h
      exact hfound
    next => cases h

namespace Parser

/-- However a parse ends, it has gone a path through the text that its source gives. A violation is
the end of that path. -/
theorem exists_path_gone [Encoding.Registry] (parser : Parser) (hquiet : parser.listener = {})
    {input : Input}
    {options : Options} {source : Nat → Source} {text : List Char} {ending : Option ReadFailure}
    (hsource : input.source options.encoding = .ok source)
    (hgives : (source (options.bufferSizeFor input).toNat).Gives text ending)
    (hsize : 0 < options.bufferSizeFor input) :
    let report := parser.parse input options
    ∃ told last, Scan.Path text parser.scan told last ∧
      Notice.commands report.trace = Notice.commands told ∧
      ∀ violation, report.outcome = .error (.violation violation) →
        last.step text = .failed violation := by
  intro report
  obtain ⟨reader, hreader, hloaded, hcapture⟩ := Input.reader_of_source hsource hgives hsize
  have hreport : report = .ofRun ((parser.start reader).run parser.listener) :=
    parser.parse_of_reader hreader
  rw [hreport]
  rcases parser.run_follows hquiet hloaded hcapture with hfollows | ⟨last, cause, rfl, _, hrun⟩
  · cases hfollows with
    | ended hpath hend hshows _ =>
        refine ⟨_, _, hpath, hshows.commands, ?_⟩
        intro violation hviolation
        obtain rfl := hshows.outcome_violation.mp hviolation
        cases hend with
        | failed hfailed => exact hfailed
    | broken _ hpath _ _ _ hresult htold =>
        refine ⟨_, _, hpath, ?_, ?_⟩
        · rw [← Notice.commands_told, ← List.nil_append (Notice.commands _)]
          exact congrArg Notice.commands htold
        · intro violation hviolation
          cases hresult.symm.trans hviolation
  · rw [hrun]
    refine ⟨[], _, .refl _, rfl, ?_⟩
    intro violation hviolation
    cases hviolation

/-- A stream of bytes gives no command that is not in the text displayed for the same bytes: its
commands are the first ones of that text, at the same places, however the stream ends and whatever
it loses. A violation is found where both texts agree up to and including the character in question,
so the context that is reported is one of the text that was parsed, with the caret below that
character. -/
theorem parse_byteStream_displayed [Encoding.Registry] (parser : Parser)
    (hquiet : parser.listener = {})
    {options : Options} {name : String} {encoding : Encoding} (delivery : Encoding.Delivery)
    (data : List UInt8) (hname : options.encoding = some name)
    (hnamed : Encoding.named name = .ok (.own encoding))
    (hsize : 0 < options.bufferSizeFor (.byteStream delivery data)) :
    let size := (options.bufferSizeFor (.byteStream delivery data)).toNat
    let displayed := encoding.decodeReplacing data
    let streamed := parser.parse (.byteStream delivery data) options
    let whole := parser.parse (.text displayed) {}
    Notice.commands streamed.trace <+: Notice.commands whole.trace ∧
      ∃ delivered ending, (encoding.source delivery size data).Gives delivered ending ∧
        delivered <+: displayed ∧
        ∀ violation, streamed.outcome = .error (.violation violation) →
          ∃ offset : Nat, violation.place.offset = offset ∧ offset ≤ delivered.length ∧
            displayed.take offset = delivered.take offset ∧
            (offset < delivered.length → displayed[offset]? = delivered[offset]?) ∧
            (Program.reportOutcome { bytes := data, delivery, seekable := true } options
                streamed.outcome).1 =
              [⟨.error, violation.complaint.message⟩, ⟨.error, "Context:\n" ++
                violation.complaint.context displayed Text.defaultReach⟩] ∧
            ∃ before after,
              violation.complaint.context displayed Text.defaultReach = String.ofList
                (before ++ after ++ '\n' ::
                  List.replicate (Text.widthFrom 0 before) ' ' ++ ['^', '\n']) ∧
                before <:+ delivered.take offset ∧
                ∀ c, delivered[offset]? = some c → c ≠ '\n' → after.head? = some c := by
  intro size displayed streamed whole
  obtain ⟨delivered, ending, hgives, more, happend⟩ :=
    Encoding.source_begins encoding delivery size data
  have hmore : delivered ++ more = displayed := happend
  have hsource : (Input.byteStream delivery data).source options.encoding =
      .ok fun size => encoding.source delivery size data := by
    simp only [hname, Input.source, hnamed, Encoding.Coding.source]
  obtain ⟨told, last, hpath, hcommands, hviolation⟩ :=
    parser.exists_path_gone hquiet hsource hgives hsize
  constructor
  · obtain ⟨all, final, outcome, hall, hend, hshows⟩ :=
      parser.exists_path_shown hquiet (Input.carries_text displayed)
        (Options.bufferSizeFor_text_pos displayed)
    rw [← hmore] at hall hend
    rw [hcommands, hshows.commands]
    exact hpath.commands_begin rfl rfl rfl hall hend
  refine ⟨delivered, ending, hgives, ⟨more, hmore⟩, ?_⟩
  intro violation hfound
  have hplaced := (parser.scan_placed delivered).violation hpath (hviolation violation hfound)
  obtain ⟨offset, _, hle, hoffset, _⟩ := hplaced
  have htake : displayed.take offset = delivered.take offset := by
    rw [← hmore, List.take_append_of_le_length hle]
  have hchar : offset < delivered.length → displayed[offset]? = delivered[offset]? := by
    intro hlt
    rw [← hmore, List.getElem?_append_left hlt]
  have hwithin : offset ≤ displayed.length := by
    rw [← hmore, List.length_append]
    omega
  have hreported : (Program.reportOutcome { bytes := data, delivery, seekable := true } options
      streamed.outcome).1 = [⟨.error, violation.complaint.message⟩, ⟨.error, "Context:\n" ++
        violation.complaint.context displayed Text.defaultReach⟩] := by
    have hfoundName := Encoding.find?_of_named hnamed
    simp only [Program.reportOutcome, hfound, hname, Option.bind_some, hfoundName,
      Option.getD_some, Encoding.Coding.decodeReplacing, if_true, displayed]
  obtain ⟨before, after, hcontext, hbefore, hafter⟩ :=
    Text.contextAt_points hwithin (by decide : 0 < Text.defaultReach)
  refine ⟨offset, hoffset, hle, htake, hchar, hreported, before, after, ?_, htake ▸ hbefore, ?_⟩
  · rw [← hcontext, ← hoffset]
    rfl
  · intro c hc hnot
    obtain ⟨hlt, _⟩ := List.getElem?_eq_some_iff.mp hc
    rw [hafter, hchar hlt, hc, Option.filter_some_pos (by simpa using hnot)]

/-- A character is torn off at the end of this stream. It is displayed, but not delivered. -/
theorem parse_byteStream_displayed_torn :
    let data : List UInt8 := [0x49, 0x4E, 0x3B, 0x50, 0x55, 0x3B, 0xC3]
    let displayed := ['I', 'N', ';', 'P', 'U', ';', '\uFFFD']
    let options : Options := { bufferSize := some 1, encoding := some "utf-8" }
    let streamed := Parser.parse {} (.byteStream .direct data) options
    Encoding.named "utf-8" = .ok (.own .utf8) ∧
      0 < options.bufferSizeFor (.byteStream .direct data) ∧
      Encoding.utf8.decodeReplacing data = displayed ∧
      Notice.commands streamed.trace <+:
        Notice.commands (Parser.parse {} (.text displayed) {}).trace ∧
      ∃ delivered ending, (Encoding.utf8.source .direct 1 data).Gives delivered ending ∧
        delivered <+: displayed := by
  intro data displayed options streamed
  have hnamed : Encoding.named "utf-8" = .ok (.own .utf8) := rfl
  have hsize : 0 < options.bufferSizeFor (.byteStream .direct data) := by decide
  have hdisplayed : Encoding.utf8.decodeReplacing data = displayed := by
    simp [data, displayed, Encoding.decodeReplacing, Encoding.items, Encoding.Codec.items,
      Encoding.Codec.utf8, Encoding.Utf8.front, Encoding.Utf8.lead, Encoding.Utf8.follow,
      Encoding.Item.shown, Encoding.replacement]
  obtain ⟨hcommands, delivered, ending, hgives, hbegin, _⟩ :=
    parse_byteStream_displayed {} rfl .direct data rfl hnamed hsize
  rw [hdisplayed] at hcommands hbegin
  exact ⟨hnamed, hsize, hdisplayed, hcommands, delivered, ending, hgives, hbegin⟩

end Parser

end PlotStream
