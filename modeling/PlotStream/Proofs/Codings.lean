import PlotStream.Encoding.Name
import PlotStream.Proofs.KnownText

/-!
Streams under any coding. Of a code from elsewhere it is asked that its reader makes the same of
bytes however they arrive: a character that has been seen stays, bytes that wait are looked at again
with those that come, and bytes that make no sense make none later. Then it is known what a stream
gives, as it is for the encodings that are spelled out. An exacting reader differs in one point: it
fails where the stream ends inside a character.
-/

namespace PlotStream.Encoding

namespace Code

/-- The characters that are certain in the bytes behind those that have been used up, with the bytes
that wait behind them; nothing if bytes make no sense. -/
def soFar (code : Code) (used bytes : List UInt8) : Option (List Char × List UInt8) :=
  (code.next used bytes).toOption

/-- The laws of a code that is read in portions. -/
structure Lawful (code : Code) : Prop where
  /-- Nothing comes of no bytes. -/
  nil : code.next [] [] = .ok ([], [])
  /-- The bytes that wait are the last ones, and what comes of them comes of them together with the
  later ones. -/
  append {used bytes left : List UInt8} {chars : List Char}
    (h : code.next used bytes = .ok (chars, left)) :
    ∃ taken, bytes = taken ++ left ∧ ∀ later,
      code.soFar used (bytes ++ later) =
        (code.soFar (used ++ taken) (left ++ later)).map (Prod.map (chars ++ ·) id)
  /-- Bytes that make no sense spoil all that comes later. -/
  firm {used bytes : List UInt8} {cause : ReadFailure} (h : code.next used bytes = .error cause) :
    (∃ failure, cause = .undecodable failure) ∧
      ∀ later, code.soFar used (bytes ++ later) = none
  /-- Bytes of which none wait decode all at once, too. -/
  decode_eq {bytes : List UInt8} {chars : List Char} (h : code.next [] bytes = .ok (chars, [])) :
    code.decode bytes = .ok chars

theorem soFar_eq_some {code : Code} {used bytes left : List UInt8} {chars : List Char} :
    code.soFar used bytes = some (chars, left) ↔ code.next used bytes = .ok (chars, left) := by
  rw [soFar]
  cases code.next used bytes <;> simp [Except.toOption]

/-- What is known to a reader that drops an unfinished character. -/
def known (code : Code) (used bytes : List UInt8) : Option (List Char) :=
  (code.soFar used bytes).map Prod.fst

/-- What is known to an exacting reader: nothing if there is an unfinished character. -/
def complete (code : Code) (used bytes : List UInt8) : Option (List Char) :=
  ((code.soFar used bytes).filter fun seen => seen.2.isEmpty).map Prod.fst

variable {code : Code} {used bytes left : List UInt8} {chars : List Char}

/-- Of the bytes that wait nothing comes without later ones. -/
theorem Lawful.soFar_left (h : code.Lawful) (hnext : code.next used bytes = .ok (chars, left)) :
    ∃ taken, bytes = taken ++ left ∧ code.soFar (used ++ taken) left = some ([], left) := by
  obtain ⟨taken, hbytes, happend⟩ := h.append hnext
  refine ⟨taken, hbytes, ?_⟩
  have hwhole := happend []
  rw [List.append_nil, List.append_nil, soFar, hnext] at hwhole
  cases hleft : code.soFar (used ++ taken) left with
  | none =>
      rw [hleft] at hwhole
      cases hwhole
  | some seen =>
      obtain ⟨more, rest⟩ := seen
      rw [hleft] at hwhole
      obtain ⟨hchars, rfl⟩ := Prod.mk.inj (Option.some.inj hwhole)
      rw [List.self_eq_append_right.mp hchars]

/-- One portion of bytes: what has been used up behind it, and what that tells of all bytes. -/
theorem Lawful.step_ok (h : code.Lawful) {decoded : Decoded (List UInt8)}
    (hstep : code.step used bytes = .ok decoded) :
    code.soFar decoded.decoder decoded.left = some ([], decoded.left) ∧ ∀ later,
      code.soFar used (bytes ++ later) =
        (code.soFar decoded.decoder (decoded.left ++ later)).map
          (Prod.map (decoded.chars ++ ·) id) := by
  rw [step] at hstep
  cases hnext : code.next used bytes with
  | error cause =>
      rw [hnext] at hstep
      cases hstep
  | ok seen =>
      obtain ⟨chars, left⟩ := seen
      rw [hnext] at hstep
      obtain rfl := Except.ok.inj hstep
      obtain ⟨taken, rfl, happend⟩ := h.append hnext
      obtain ⟨taken', htaken, hleft⟩ := h.soFar_left hnext
      obtain rfl := List.append_cancel_right htaken
      have hboth := And.intro hleft happend
      simpa using hboth

theorem Lawful.step_error (h : code.Lawful) {cause : ReadFailure}
    (hstep : code.step used bytes = .error cause) :
    Fails True cause ∧ ∀ later, code.soFar used (bytes ++ later) = none := by
  rw [step] at hstep
  cases hnext : code.next used bytes with
  | ok seen =>
      rw [hnext] at hstep
      cases hstep
  | error cause' =>
      rw [hnext] at hstep
      obtain rfl := Except.error.inj hstep
      obtain ⟨⟨failure, rfl⟩, hstays⟩ := h.firm hnext
      exact ⟨.undecodable failure, hstays⟩

theorem Lawful.verdict (h : code.Lawful) (used bytes later : List UInt8) :
    Verdict (fun _ _ => True) code.known True used bytes later (code.step used bytes) := by
  cases hstep : code.step used bytes with
  | ok decoded =>
      obtain ⟨hleft, happend⟩ := h.step_ok hstep
      refine .decoded trivial (fun _ => ?_) ?_
      · rw [known, hleft]
        rfl
      · rw [known, known, happend, Option.map_map, Option.map_map]
        rfl
  | error cause =>
      obtain ⟨hfails, hstays⟩ := h.step_error hstep
      refine .failed hfails ?_
      rw [known, hstays]
      rfl

/-- An exacting reader gives all characters if none is unfinished, or it fails. The invariant of its
loop is that nothing comes of the bytes that wait. -/
theorem Lawful.exactingReplies_deliver (h : code.Lawful) (complaint : List UInt8 → Failure)
    (size : Nat) {portion : Nat} {used left data : List UInt8}
    (hleft : code.soFar used left = some ([], left)) :
    Delivers True (.ofChunks (code.exactingReplies complaint size portion used left data)) []
      (code.complete used (left ++ data)) := by
  have hsplit (left rest : List UInt8) (b : UInt8) (n : Nat) :
      left ++ b :: rest = (left ++ b :: rest.take n) ++ rest.drop n := by simp
  induction portion, used, left, data using exactingReplies.induct code size with
  | case1 portion used left hnone =>
      obtain rfl := List.isEmpty_iff.mp hnone
      have hcomplete : code.complete used ([] ++ []) = some [] := by
        simp [complete, hleft, Option.filter]
      rw [exactingReplies, if_pos hnone, hcomplete]
      exact .ended rfl
  | case2 portion used left hsome =>
      have hcomplete : code.complete used (left ++ []) = none := by
        simp [complete, hleft, Option.filter, hsome]
      rw [exactingReplies, if_neg hsome, hcomplete]
      exact ⟨[], _, .broken rfl, .undecodable _⟩
  | case3 portion used left b rest cause hfailed =>
      obtain ⟨hfails, hstays⟩ := h.step_error hfailed
      rw [exactingReplies, hfailed, hsplit, complete, hstays]
      exact ⟨[], cause, .broken rfl, hfails⟩
  | case4 portion used left b rest decoded hdecoded hnone ih =>
      obtain ⟨hwaits, happend⟩ := h.step_ok hdecoded
      have hcomplete : code.complete used (left ++ b :: rest) =
          code.complete decoded.decoder (decoded.left ++ rest.drop (portion - 1)) := by
        rw [hsplit, complete, complete, happend, List.isEmpty_iff.mp hnone]
        cases code.soFar decoded.decoder (decoded.left ++ rest.drop (portion - 1)) <;> rfl
      rw [exactingReplies, hdecoded, hcomplete]
      dsimp only
      rw [if_pos hnone]
      exact ih hwaits
  | case5 portion used left b rest decoded hdecoded hsome ih =>
      obtain ⟨hwaits, happend⟩ := h.step_ok hdecoded
      have hcomplete : code.complete used (left ++ b :: rest) =
          (code.complete decoded.decoder (decoded.left ++ rest.drop (portion - 1))).map
            (decoded.chars ++ ·) := by
        rw [hsplit, complete, complete, happend]
        cases code.soFar decoded.decoder (decoded.left ++ rest.drop (portion - 1)) with
        | none => rfl
        | some seen => cases hrest : seen.2.isEmpty <;> simp [Option.filter, hrest]
      have hne : decoded.chars ≠ [] := by simpa using hsome
      have hmore := ih hwaits
      rw [exactingReplies, hdecoded, hcomplete]
      dsimp only
      rw [if_neg hsome]
      cases htail : code.complete decoded.decoder (decoded.left ++ rest.drop (portion - 1)) with
      | some chars =>
          rw [htail] at hmore
          rw [Option.map_some, Delivers, List.nil_append]
          exact .reply rfl hne hmore
      | none =>
          rw [htail] at hmore
          obtain ⟨delivered, cause, hgives, hfails⟩ := hmore
          exact ⟨_, cause, .reply rfl hne hgives, hfails⟩

/-- What a stream gives: what is known to its reader, which may be an exacting one. -/
def delivered (code : Code) (bytes : List UInt8) : Option (List Char) :=
  if code.complaint.isSome then code.complete [] bytes else code.known [] bytes

theorem Lawful.source_delivers (h : code.Lawful) {delivery : Delivery} {size : Nat}
    (hpos : 0 < size) (hrefusal : delivery.refusal size = none) (bytes : List UInt8) :
    Delivers True (code.source delivery size bytes) [] (code.delivered bytes) := by
  have hstart : code.soFar [] [] = some ([], []) := by
    rw [soFar, h.nil]
    rfl
  rw [source, Source.ofReplies, hrefusal, delivered]
  cases code.complaint with
  | some complaint => exact h.exactingReplies_deliver complaint size hstart
  | none =>
      have hwhole := Text.pieces_flatten size bytes
      have hdelivers : Delivers True (.ofChunks
          (replies code.step size [] [] [] (Text.pieces size bytes))) []
          (code.known [] ([] ++ (Text.pieces size bytes).flatten)) := by
        refine replies_deliver (fun _ => h.verdict _ _ _) hpos trivial fun _ => ?_
        rw [known, hstart]
        rfl
      rwa [List.nil_append, hwhole] at hdelivers

@[simp]
theorem soFar_ofCodec (codec : Codec) (complaint : Option (List UInt8 → Failure))
    (used bytes : List UInt8) : (ofCodec codec complaint).soFar used bytes = codec.soFar bytes := by
  simp only [soFar, ofCodec, Codec.soFar, Item.soFar]
  cases Item.decodeSoFar (codec.items 0 bytes) <;> rfl

/-- A codec keeps the laws if what it has seen stays, be it a character or bytes that make no
sense. -/
theorem ofCodec_lawful {codec : Codec} (hsettled : codec.Settled) (hfirm : codec.Firm)
    (complaint : Option (List UInt8 → Failure)) : (ofCodec codec complaint).Lawful where
  nil := by
    simp only [ofCodec, Codec.items]
    rfl
  append {used bytes left chars} h := by
    rw [← soFar_eq_some, soFar_ofCodec] at h
    obtain ⟨⟨taken, htaken⟩, _, happend⟩ :=
      Codec.soFar_append hsettled (Item.soFar_eq_some.mp h)
    refine ⟨taken, htaken.symm, fun later => ?_⟩
    rw [soFar_ofCodec, soFar_ofCodec, happend]
  firm {used bytes cause} h := by
    simp only [ofCodec] at h
    cases hdecoded : Item.decodeSoFar (codec.items 0 bytes) with
    | ok seen =>
        rw [hdecoded] at h
        cases h
    | error failure =>
        rw [hdecoded] at h
        obtain rfl := Except.error.inj h
        refine ⟨⟨failure, rfl⟩, fun later => ?_⟩
        rw [soFar_ofCodec]
        exact Codec.soFar_append_of_error hsettled hfirm hdecoded later
  decode_eq {bytes chars} h := by
    rw [← soFar_eq_some, soFar_ofCodec] at h
    exact Codec.decodeAll_of_decodeSoFar (Item.soFar_eq_some.mp h)

end Code

namespace Coding

/-- Whether bytes have the byte order mark that their coding asks for. -/
def Marked : Coding → List UInt8 → Prop
  | .own encoding, bytes => encoding.Marked bytes
  | .given _, _ => True

/-- Only a code from elsewhere has laws to keep. -/
def Lawful : Coding → Prop
  | .own _ => True
  | .given code => code.Lawful

/-- Whether readers of streams complain of an unfinished character at the end. -/
def isExacting : Coding → Bool
  | .own _ => false
  | .given code => code.complaint.isSome

/-- The characters that are certain in bytes which may go on, with the bytes that wait behind them;
nothing if bytes make no sense. -/
def soFar : Coding → List UInt8 → Option (List Char × List UInt8)
  | .own encoding, bytes => Item.soFar (encoding.items bytes)
  | .given code, bytes => code.soFar [] bytes

def delivered : Coding → List UInt8 → Option (List Char)
  | .own encoding, bytes => encoding.decoder.known bytes
  | .given code, bytes => code.delivered bytes

variable {coding : Coding} {bytes : List UInt8} {chars : List Char}

theorem source_delivers (hlawful : coding.Lawful) {delivery : Delivery} {size : Nat}
    (hpos : 0 < size) (hrefusal : delivery.refusal size = none) (hbytes : bytes ≠ []) :
    Delivers (coding.Marked bytes) (coding.source delivery size bytes) []
      (coding.delivered bytes) := by
  cases coding with
  | own encoding => exact encoding.source_delivers hpos hrefusal hbytes
  | given code => exact Code.Lawful.source_delivers hlawful hpos hrefusal bytes

/-- When a stream gives its characters to the last one: nothing is wrong in front of what waits, an
exacting reader finds nothing waiting, and characters have the mark that they need. -/
theorem delivered_eq_some : coding.delivered bytes = some chars ↔
    ∃ left, coding.soFar bytes = some (chars, left) ∧ (coding.isExacting = true → left = []) ∧
      (coding.Marked bytes ∨ chars = []) := by
  cases coding with
  | own encoding =>
      have hmark := encoding.hasMark_decoder bytes
      simp [delivered, Decoder.known, encoding.items_decoder, Option.filter_eq_some_iff, hmark,
        soFar, isExacting, Marked]
  | given code =>
      cases hcomplaint : code.complaint with
      | none => simp [delivered, Code.delivered, Code.known, hcomplaint, soFar, isExacting, Marked]
      | some complaint =>
          simp [delivered, Code.delivered, Code.complete, hcomplaint, soFar, isExacting, Marked,
            Option.filter_eq_some_iff]

/-- If bytes do not decode although they make sense so far, they end inside a character. -/
theorem left_ne_nil (hlawful : coding.Lawful) {failure : Failure} {left : List UInt8}
    (hfails : coding.decode bytes = .error failure)
    (hsofar : coding.soFar bytes = some (chars, left)) : left ≠ [] := by
  rintro rfl
  have hdecoded : coding.decode bytes = .ok chars := by
    cases coding with
    | own encoding => exact decode_of_decodeSoFar (Item.soFar_eq_some.mp hsofar)
    | given code => exact Code.Lawful.decode_eq hlawful (Code.soFar_eq_some.mp hsofar)
  cases hfails.symm.trans hdecoded

/-- Bytes that do not decode give their characters to the last one only if the end of the stream is
in a character and nobody minds. -/
theorem delivered_of_undecodable (hlawful : coding.Lawful) {failure : Failure}
    (hfails : coding.decode bytes = .error failure) :
    coding.delivered bytes = some chars ↔
      coding.isExacting = false ∧ ∃ left, coding.soFar bytes = some (chars, left) ∧ left ≠ [] ∧
        (coding.Marked bytes ∨ chars = []) := by
  rw [delivered_eq_some]
  constructor
  · rintro ⟨left, hsofar, hexacting, hmarked⟩
    have hleft := left_ne_nil hlawful hfails hsofar
    exact ⟨Bool.eq_false_iff.mpr (mt hexacting hleft), left, hsofar, hleft, hmarked⟩
  · rintro ⟨hexacting, left, hsofar, _, hmarked⟩
    refine ⟨left, hsofar, fun hother => ?_, hmarked⟩
    cases hexacting.symm.trans hother

end Coding

/-- What the usual registry knows keeps the laws. -/
theorem lawful_of_named {name : String} {coding : Coding} (h : named name = .ok coding) :
    coding.Lawful := by
  rcases Option.or_eq_some_iff.mp (find?_of_named h) with hown | ⟨_, hpage⟩
  · obtain ⟨encoding, _, rfl⟩ := Option.map_eq_some_iff.mp hown
    trivial
  · obtain ⟨page, _, rfl⟩ := Option.map_eq_some_iff.mp hpage
    have hsingle := Codec.codePage_single (page.rows.flatMap fun row => row.toList.map Char.toNat)
      page.start
    exact Code.ofCodec_lawful hsingle.settled hsingle.firm none

end PlotStream.Encoding
