import Mathlib.Order.Bounds.Defs
import PlotStream.Proofs.Locations
import PlotStream.Proofs.Requests
import PlotStream.Proofs.ViablePrefix

/-!
A parse reads its source no further than it looks. The reader asks for a chunk when it has to load a
character and has none left, so the chunk asked for last holds the lookahead, and all chunks before
it end in front of the lookahead. The end of the text is asked for once, behind the last chunk; a
reader that knows of it asks for nothing more, however often it is told to move on.

Both facts are about a reader alone, and they outlast everything that a parse does with it. So they
hold wherever a parse comes to, whatever the grammar makes of the text.
-/

namespace PlotStream

/-- The number of requests that it takes to see what is at an offset of a text in chunks: the least
number of chunks that reach beyond the offset, or all of them and the end for the end itself. -/
inductive Source.Takes (chunks : List (List Char)) : Nat → Nat → Prop where
  | character {offset requests : Nat}
      (hleast : IsLeast {k | offset < (chunks.take k).flatten.length} requests) :
      Takes chunks offset requests
  | ended : Takes chunks chunks.flatten.length (chunks.length + 1)

theorem Source.length_take_mono (chunks : List (List Char)) {k n : Nat} (h : k ≤ n) :
    (chunks.take k).flatten.length ≤ (chunks.take n).flatten.length := by
  obtain ⟨rest, hrest⟩ := List.take_prefix_take_left (l := chunks) h
  rw [← hrest, List.flatten_append, List.length_append]
  exact Nat.le_add_right _ _

/-- The end of the text is not within any number of chunks. -/
theorem Source.Takes.eq_of_end {chunks : List (List Char)} {requests : Nat}
    (h : Takes chunks chunks.flatten.length requests) : requests = chunks.length + 1 := by
  generalize hoffset : chunks.flatten.length = offset at h
  cases h with
  | ended => rfl
  | character hleast =>
      have hbeyond : offset < (chunks.take requests).flatten.length := hleast.1
      have hall := length_take_mono chunks (Nat.le_add_right requests chunks.length)
      rw [List.take_of_length_le (Nat.le_add_left _ _)] at hall
      omega

/-- Every list of chunks that are not empty is what some source yields. -/
theorem Source.yields_ofChunks {chunks : List (List Char)} (h : ∀ chunk ∈ chunks, chunk ≠ []) :
    (ofChunks (chunks.map .text)).Yields chunks none := by
  induction chunks with
  | nil => exact .ended rfl
  | cons chunk more ih =>
      obtain ⟨c, cs, rfl⟩ := List.exists_cons_of_ne_nil (h chunk (by simp))
      exact .chunk rfl (ih fun other member => h other (by simp [member]))

namespace Reader

/-- A property of readers that nothing takes away that a parse does with its reader. -/
structure Lasting (P : Reader → Prop) : Prop where
  startCapture {r : Reader} (h : P r) : P r.startCapture
  endCapture {r : Reader} (h : P r) : P r.endCapture.2
  advance {r : Reader} (h : P r) : P r.advance.1

/-- The chunks before the one asked for last are behind the reader. -/
structure Drawn (chunks : List (List Char)) (size : Nat) (r : Reader) : Prop where
  asked : ∃ told, r.Asked chunks none told
  bufferSize : r.bufferSize = size
  sizes : ∀ request ∈ r.asked, request = size
  before : r.bufferOffset = (chunks.take (r.requests - 1)).flatten.length

variable {r : Reader} {chunks : List (List Char)} {size offset : Nat}

theorem drawn_start {source : Source} (h : source.Yields chunks none) (size : Nat) :
    Drawn chunks size { source, bufferSize := size } :=
  ⟨⟨[], asked_nil h size⟩, rfl, List.forall_mem_nil _, rfl⟩

theorem load_bufferSize (r : Reader) : r.load.bufferSize = r.bufferSize := by
  unfold load
  split
  · dsimp only
    split <;> rfl
  · rfl

@[simp]
theorem leaveChunk_bufferSize (r : Reader) : r.leaveChunk.bufferSize = r.bufferSize := by
  unfold leaveChunk
  split <;> rfl

/-- A request is for as much as the buffer takes, and so will be the next one. -/
theorem settle_refill_asks (r : Reader) :
    (r.refill.1.settle r.refill.2).bufferSize = r.bufferSize ∧
      (r.refill.1.settle r.refill.2).asked = r.bufferSize :: r.asked := by
  unfold refill
  rcases r.source.next.1 with (_ | ⟨c, cs⟩) | cause
  · simp [receive, settle]
  · simp [receive, settle, load_bufferSize, (sameChunk_load _).asked]
  · simp [receive, settle]

theorem Drawn.advance (h : r.Drawn chunks size) : r.advance.1.Drawn chunks size := by
  obtain ⟨told, hasked⟩ := h.asked
  have hnext : ∃ told, r.advance.1.Asked chunks none told := by
    rcases hasked.advance with ⟨_, hmore⟩ | ⟨_, _, hending, _⟩
    · exact ⟨_, hmore⟩
    · cases hending
  suffices hrest : r.advance.1.bufferSize = size ∧ (∀ request ∈ r.advance.1.asked, request = size) ∧
      r.advance.1.bufferOffset = (chunks.take (r.advance.1.requests - 1)).flatten.length from
    ⟨hnext, hrest.1, hrest.2.1, hrest.2.2⟩
  unfold Reader.advance
  split
  · exact ⟨h.bufferSize, h.sizes, h.before⟩
  next hrunning =>
    split
    · have hsame := sameChunk_load r
      rw [load_bufferSize, hsame.bufferOffset, hsame.requests, hsame.asked]
      exact ⟨h.bufferSize, h.sizes, h.before⟩
    -- A request: the present chunk was the last of those asked for, and it is left behind.
    · obtain ⟨hsize, hasks⟩ := settle_refill_asks r
      have hcount : (r.refill.1.settle r.refill.2).requests = r.requests + 1 :=
        congrArg List.length hasks
      rw [hsize, hasks, hcount, (sameCapture_settle_refill r).2.2, leaveChunk_bufferOffset,
        Nat.add_sub_cancel]
      refine ⟨h.bufferSize, List.forall_mem_cons.mpr ⟨h.bufferSize, h.sizes⟩, ?_⟩
      cases hasked with
      | chunks hchunks hrequests _ hoffset _ =>
          rw [hoffset, hrequests, hchunks, List.take_left]
      | ended _ _ hexhausted => exact absurd hexhausted hrunning

theorem lasting_drawn (chunks : List (List Char)) (size : Nat) : Lasting (Drawn chunks size) where
  startCapture {r} h := { h with
    asked := h.asked.imp fun _ hasked => hasked.congr r.sameChunk_startCapture }
  endCapture {r} h := { h with
    asked := h.asked.imp fun _ hasked => hasked.congr r.sameChunk_endCapture }
  advance h := h.advance

/-- A reader that knows that the text is over asks for nothing more. -/
theorem lasting_idle (requests : Nat) :
    Lasting fun r => r.exhausted = true ∧ r.requests = requests where
  startCapture h := h
  endCapture h := h
  advance {r} h := by
    rw [Reader.advance, if_pos h.1]
    exact h

/-- What was asked for is what it takes to see the lookahead. -/
theorem Drawn.takes (h : r.Drawn chunks size) (hat : r.At chunks.flatten none offset) :
    Source.Takes chunks offset r.requests := by
  obtain ⟨told, hasked⟩ := h.asked
  rcases hat with ⟨hloaded, hindex⟩ | ⟨hend, _, hspent⟩
  · have hposition := hloaded.position
    have hwithin := hloaded.index_le
    have hbefore := h.before
    cases hasked with
    | ended _ _ hexhausted => cases hloaded.running.symm.trans hexhausted
    | @chunks seen left hchunks hrequests _ hoffset _ =>
        have hseen : chunks.take r.requests = seen := by
          rw [hrequests, hchunks, List.take_left]
        have hreached : offset < (chunks.take r.requests).flatten.length := by
          rw [hseen]
          omega
        refine .character ⟨hreached, fun k hk => ?_⟩
        have hbeyond : offset < (chunks.take k).flatten.length := hk
        by_contra hless
        have hmono := Source.length_take_mono chunks (show k ≤ r.requests - 1 by omega)
        omega
  · cases hasked with
    | chunks _ _ hrunning _ _ => cases hrunning.symm.trans hspent.exhausted
    | ended _ hrequests _ =>
        rw [hend, hrequests]
        exact .ended

/-- The reader stands at an offset of the text, and it has asked for just what it takes to see what
is there. -/
structure Lazy (chunks : List (List Char)) (size offset : Nat) (r : Reader) : Prop where
  offset_le : offset ≤ chunks.flatten.length
  location : r.location = .ofOffset chunks.flatten offset
  lookahead : r.lookahead = chunks.flatten[offset]?
  bufferSize : r.bufferSize = size
  sizes : ∀ request ∈ r.asked, request = size
  takes : Source.Takes chunks offset r.requests

theorem Drawn.lazy (h : r.Drawn chunks size) (hat : r.At chunks.flatten none offset) :
    r.Lazy chunks size offset :=
  ⟨hat.le_length, hat.location, hat.lookahead, h.bufferSize, h.sizes, h.takes hat⟩

theorem Lazy.requests_of_end (h : r.Lazy chunks size offset) (hend : r.lookahead = none) :
    r.requests = chunks.length + 1 := by
  have hle : chunks.flatten.length ≤ offset := by
    rw [h.lookahead] at hend
    exact List.getElem?_eq_none_iff.mp hend
  have htakes := h.takes
  rw [Nat.le_antisymm h.offset_le hle] at htakes
  exact htakes.eq_of_end

end Reader

namespace Machine

variable {P : Reader → Prop} {m : Machine}

theorem advance_keeps (hP : Reader.Lasting P) (h : P m.reader) (phase : Phase) :
    P (m.advance phase).machine.reader := by
  unfold advance
  dsimp only
  split <;> exact hP.advance h

theorem afterBlanks_keeps (hP : Reader.Lasting P) (h : P m.reader) (due : Due) :
    P (m.afterBlanks due).machine.reader := by
  have hstarted := hP.startCapture h
  cases due with
  | opcode =>
      rw [afterBlanks]
      split
      · exact h
      · exact advance_keeps hP hstarted _
  | terminator c =>
      rw [afterBlanks]
      split
      · exact advance_keeps hP h _
      · exact h
  | optionalPen =>
      rw [afterBlanks]
      split <;> exact h
  | integer slot =>
      rw [afterBlanks]
      split
      · exact advance_keeps hP hstarted _
      · exact hstarted
  | separator x =>
      rw [afterBlanks]
      split
      · exact advance_keeps hP h _
      · exact h

theorem step_keeps (hP : Reader.Lasting P) (h : P m.reader) : P m.step.machine.reader := by
  have hended := hP.endCapture h
  rw [step]
  cases m.phase with
  | preamble previous =>
      dsimp only
      split
      · exact advance_keeps hP h _
      split
      · exact h
      · exact advance_keeps hP h _
  | blanks due =>
      dsimp only
      split
      · exact advance_keeps hP h _
      · exact afterBlanks_keeps hP h due
  | secondLetter start => exact advance_keeps hP h _
  | dispatch start => exact hended
  | leadingDigit slot start =>
      dsimp only
      split
      · exact advance_keeps hP h _
      · split
        · exact advance_keeps hP h _
        · exact h
      · exact h
  | digits slot start count =>
      dsimp only
      split
      · exact hended
      split
      · exact advance_keeps hP h _
      · exact h
  | literal slot start =>
      dsimp only [closeLiteral]
      split <;> exact hended
  | closing c => exact h
  | skipping code start =>
      dsimp only
      split
      · exact advance_keeps hP h _
      split
      · exact h
      · exact advance_keeps hP h _
  | skipped code start => exact h

theorem Makes.keeps (hP : Reader.Lasting P) {n : Nat} {told : List Notice} {last : Machine}
    (h : m.Makes n told last) (hm : P m.reader) : P last.reader := by
  induction h with
  | nil m => exact hm
  | cons hstep _ ih =>
      have hnext := step_keeps hP hm
      rw [hstep] at hnext
      exact ih hnext

end Machine

namespace Parser

variable {text : List Char} {chunks : List (List Char)} {input : Input} {options : Options}
  {source : Nat → Source}

/-- A parse of a text ends at a scan, whoever listens. The reader is left where the scan is, and a
parse that comes to a good end or finds a violation does so because the scan does. -/
theorem exists_end_scan (parser : Parser) {reader : Reader} (hloaded : reader.Loaded text none 0)
    (hcapture : reader.Captures text none) :
    let run := (parser.start reader).run parser.listener
    ∃ told s, Scan.Path text parser.scan told s ∧ run.last.reader.At text none s.offset ∧
      (∀ n, run.outcome = .ok n → s.step text = .finished) ∧
      ∀ violation : Violation, run.outcome = .error (.violation violation) →
        s.step text = .failed violation := by
  intro run
  rcases parser.exists_last_scan hloaded hcapture with
    ⟨told, s, final, hpath, hfollows, hend⟩ | ⟨_, hending, _⟩
  · have hstep := hfollows.step
    cases hend with
    | finished hfinished houtcome =>
        rw [hfinished] at hstep
        generalize hmove : s.step text = move at hstep
        cases hstep with
        | finished _ hreader =>
            refine ⟨told, s, hpath, hreader, fun _ _ => hmove, fun _ hviolation => ?_⟩
            cases houtcome.symm.trans hviolation
    | failed hfailed houtcome =>
        rw [hfailed] at hstep
        generalize hmove : s.step text = move at hstep
        cases hstep with
        | broken hending _ _ _ => cases hending
        | failed _ hreader =>
            refine ⟨told, s, hpath, hreader, fun _ hok => ?_, fun _ hviolation => ?_⟩
            · cases houtcome.symm.trans hok
            · cases houtcome.symm.trans hviolation
              exact hmove
    | @refused _ listener _ hmoved hhear houtcome =>
        obtain ⟨next, _, hmove, hnext⟩ := hfollows.next_step hmoved
        refine ⟨_, next, hpath.trans (.single hmove), hnext.reader, fun _ hok => ?_,
          fun _ hviolation => ?_⟩
        · cases houtcome.symm.trans hok
        · obtain rfl := Except.error.inj (houtcome.symm.trans hviolation)
          exact absurd (congrArg Prod.snd hhear) (listener.hear_not_violation _ _)
  · cases hending

/-- The source is read lazily. Whoever listens and however the chunks are cut, wherever a parse has
come to behind its first step, and where it is left at its end, it has asked for just the chunks that
it takes to see the lookahead, each time with the same size; at the end of the text it has asked for
all of them and the end, and it asks for nothing more. So a parse that comes to a good end has asked
once more than there are chunks, and a parse that rejects a character has asked for what it takes to
see that character. -/
theorem parse_reads_lazily [Encoding.Registry] (parser : Parser)
    (hsource : input.source options.encoding = .ok source)
    (hyields : (source (options.bufferSizeFor input).toNat).Yields chunks none)
    (hsize : 0 < options.bufferSizeFor input) :
    let report := parser.parse input options
    let size := (options.bufferSizeFor input).toNat
    ∃ reader, input.reader options = .ok reader ∧
      (let start := parser.start reader
       let run := start.run parser.listener
       report = .ofRun run ∧
        (∀ n told m, start.Makes (n + 1) told m → ∃ offset, m.reader.Lazy chunks size offset) ∧
        (∃ offset, run.last.reader.Lazy chunks size offset) ∧
        ∀ n told m k more later, start.Makes (n + 1) told m → m.Makes k more later →
          m.reader.exhausted = true →
          m.reader.requests = chunks.length + 1 ∧ later.reader.requests = chunks.length + 1) ∧
      (∀ asked ∈ report.requests, asked = size) ∧
      (∀ n, report.outcome = .ok n → report.requests.length = chunks.length + 1) ∧
      ∀ violation : Violation, report.outcome = .error (.violation violation) →
        violation.expected ∈ [.digit, .separator, .terminator] →
        ∃ offset, violation.place = .ofOffset chunks.flatten offset ∧
          Source.Takes chunks offset report.requests.length := by
  intro report size
  have hreader := Input.reader_eq hsource hsize
  set reader : Reader := { source := source size, bufferSize := size }
  have hloaded := Reader.loaded_zero hyields.gives size
  have hcapture : reader.Captures chunks.flatten none := ⟨rfl, rfl⟩
  have hdrawn := Reader.drawn_start hyields size
  have hlasting := Reader.lasting_drawn chunks size
  have hreport : report = _ := parser.parse_of_reader hreader
  have hlazy (n : Nat) (told : List Notice) (m : Machine)
      (hmakes : (parser.start reader).Makes (n + 1) told m) :
      ∃ offset, m.reader.Lazy chunks size offset := by
    obtain ⟨_, s, _, hfollows⟩ := parser.follows_of_makes hloaded hcapture hmakes
    exact ⟨s.offset, (hmakes.keeps hlasting hdrawn).lazy hfollows.reader⟩
  obtain ⟨told, s, hpath, hat, hfinished, hviolated⟩ := parser.exists_end_scan hloaded hcapture
  have hlast : ((parser.start reader).run parser.listener).last.reader.Lazy chunks size s.offset := by
    obtain ⟨_, _, final, hmakes, hend, _⟩ :=
      (parser.start reader).exists_end parser.listener []
    have hkept := Machine.step_keeps hlasting (hmakes.keeps hlasting hdrawn)
    rw [hend.machine] at hkept
    exact hkept.lazy hat
  have hrequests : report.requests.length =
      ((parser.start reader).run parser.listener).last.reader.requests := by
    rw [hreport, Report.length_requests_ofRun]
  refine ⟨reader, hreader, ⟨hreport, hlazy, ⟨_, hlast⟩, ?_⟩, ?_, ?_, ?_⟩
  · intro n told m k more later hmakes hmore hend
    obtain ⟨_, hm⟩ := hlazy n told m hmakes
    have hrequests := hm.requests_of_end (if_pos hend)
    exact ⟨hrequests, (hmore.keeps (Reader.lasting_idle _) ⟨hend, hrequests⟩).2⟩
  · intro asked hasked
    rw [hreport] at hasked
    exact hlast.sizes asked (List.mem_reverse.mp hasked)
  · intro n houtcome
    rw [hreport] at houtcome
    obtain ⟨_, hnone⟩ := Scan.phase_of_finished (hfinished n houtcome)
    rw [hrequests]
    exact hlast.requests_of_end (hlast.lookahead.trans hnone)
  · intro violation houtcome hexpected
    rw [hreport] at houtcome
    have hbreaks := (hpath.explained rfl rfl rfl).breaks (hviolated violation houtcome)
    cases hbreaks with
    | here _ _ =>
        rw [hrequests]
        exact ⟨s.offset, rfl, hlast.takes⟩
    | @range expected _ _ _ _ _ hkind _ _ _ _ =>
        cases expected <;> simp [Expectation.aboutRange] at hkind hexpected

/-- A digit is missing at the beginning of the third piece, and the fourth is never asked for. -/
theorem parse_reads_lazily_digit :
    let pieces := [['I', 'N'], [';', 'P', 'A'], ['x', ';'], ['P', 'U', ';']]
    let input := Input.chunks (pieces.map .text)
    let options : Options := { bufferSize := some 3 }
    let source := fun _ : Nat => Source.ofChunks (pieces.map .text)
    let report := Parser.parse {} input options
    input.source options.encoding = .ok source ∧
      (source (options.bufferSizeFor input).toNat).Yields pieces none ∧
      0 < options.bufferSizeFor input ∧
      report.outcome = .error (.violation ⟨.digit, ⟨5, 1, 6⟩⟩) ∧ report.requests = [3, 3, 3] ∧
      ∃ offset, (⟨5, 1, 6⟩ : Location) = .ofOffset pieces.flatten offset ∧
        Source.Takes pieces offset 3 := by
  intro pieces input options source report
  have hyields : (source (options.bufferSizeFor input).toNat).Yields pieces none :=
    Source.yields_ofChunks (by decide)
  have hsize : 0 < options.bufferSizeFor input := by decide
  have houtcome : report.outcome = .error (.violation ⟨.digit, ⟨5, 1, 6⟩⟩) := by decide +kernel
  have hrequests : report.requests = [3, 3, 3] := by decide +kernel
  obtain ⟨_, _, _, _, _, hviolated⟩ := Parser.parse_reads_lazily {} rfl hyields hsize
  obtain ⟨offset, hplace, htakes⟩ := hviolated _ houtcome (by decide)
  have hlength : report.requests.length = 3 := congrArg List.length hrequests
  rw [hlength] at htakes
  exact ⟨rfl, hyields, hsize, houtcome, hrequests, offset, hplace, htakes⟩

end Parser

end PlotStream
