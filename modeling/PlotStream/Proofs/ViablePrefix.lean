import PlotStream.Proofs.Acceptance
import PlotStream.Proofs.Lockstep

/-!
A violation is found at the first character that cannot be right. What stands before it can be
completed to an accepted text, so nothing before it was wrong; and with it no text is accepted, so
it was not passed over. For an integer that is out of range the place is its first character, and
the digits read so far take the part of the character.
-/

namespace PlotStream

/-- Whether an integer was there but did not fit. -/
def Expectation.aboutRange : Expectation → Bool
  | .shortInteger => true
  | .integer _ => true
  | _ => false

/-- The sign and the digits that are read of an integer at the start of a text. No more digits
are read than it takes to see that there are too many. -/
def Numeral.attempt : List Char → List Char
  | '-' :: more => '-' :: (more.takeWhile isDigit).take (maxDigits + 1)
  | cs => (cs.takeWhile isDigit).take (maxDigits + 1)

/-- An integer that does not fit, and digits enough to see it. -/
structure Literal.Excess (lit : Literal) (rest : List Char) : Prop where
  misfit : ¬ lit.Fits
  length_le : lit.digits.length ≤ Numeral.maxDigits + 1
  complete : lit.digits.length = Numeral.maxDigits + 1 ∨ rest.head?.any Numeral.isDigit = false

namespace Literal.Excess

variable {lit : Literal} {rest : List Char}

theorem takeWhile_digits (h : lit.Excess rest) :
    ((lit.digits ++ rest).takeWhile Numeral.isDigit).take (Numeral.maxDigits + 1) = lit.digits := by
  rw [List.takeWhile_append_of_pos lit.decimal]
  rcases h.complete with hlength | hrest
  · rw [List.take_left' hlength]
  · have hnone : rest.takeWhile Numeral.isDigit = [] := by
      cases rest with
      | nil => rfl
      | cons c more => exact List.takeWhile_cons_of_neg (by simpa using hrest)
    rw [hnone, List.append_nil, List.take_of_length_le h.length_le]

theorem attempt_eq (h : lit.Excess rest) : Numeral.attempt (lit.text ++ rest) = lit.text := by
  have hdigits := h.takeWhile_digits
  obtain ⟨c, more, hcons⟩ := List.exists_cons_of_ne_nil lit.nonempty
  have hminus : c ≠ '-' := Numeral.ne_minus (lit.decimal c (by simp [hcons]))
  cases hsign : lit.negative with
  | true => simp [Literal.text, Literal.sign, hsign, Numeral.attempt, hdigits]
  | false =>
      simp only [Literal.text, Literal.sign, hsign, Bool.false_eq_true, if_false, List.nil_append]
      rw [Numeral.attempt, hdigits]
      intro tail heq
      rw [hcons, List.cons_append] at heq
      exact hminus (List.cons.inj heq).1

end Literal.Excess

namespace Scan

namespace Arrives

variable {text read rest : List Char} {start : Scan} {told : List Notice} {phase : Phase}
  {count : Nat} {slot : Slot} {place : Location}

theorem fail {violation : Violation} (h : Arrives text start told phase count read rest)
    (hstep : ∀ s : Scan, s.phase = phase → s.Splits text read rest →
      s.step text = .failed violation) :
    ∃ last, Path text start told last ∧ last.Ends text (.error violation) := by
  obtain ⟨s, hpath, hphase, _, hsplits⟩ := h
  exact ⟨s, hpath, .failed (hstep s hphase hsplits)⟩

theorem tooLong {seen : Nat} (h : Arrives text start told (.digits slot place seen) count read rest)
    (hseen : Numeral.maxDigits < seen) :
    ∃ last, Path text start told last ∧ last.Ends text (.error ⟨.shortInteger, place⟩) :=
  h.fail fun _ hphase _ => step_tooLong hphase hseen

theorem outOfRange {token : List Char}
    (h : Arrives text start told (.literal slot (.ofOffset text read.length)) count
      (read ++ token) rest) (hrange : Numeral.inRange (Numeral.value token) = false) :
    ∃ last, Path text start told last ∧
      last.Ends text (.error ⟨.integer token, .ofOffset text read.length⟩) := by
  refine h.fail fun s hphase hsplits => ?_
  rw [hsplits.step_literal hphase, if_neg (by simp [hrange])]

/-- An integer that does not fit is reported at its first character, whatever follows. -/
theorem excess (lit : Literal) (hmisfit : ¬ lit.Fits)
    (hlength : lit.digits.length ≤ Numeral.maxDigits + 1)
    (h : Arrives text start told (.blanks (.integer slot)) count read (lit.text ++ rest)) :
    ∃ last violation, Path text start told last ∧ last.Ends text (.error violation) ∧
      violation.place = .ofOffset text read.length ∧ violation.expected.aboutRange = true := by
  have hlong : Numeral.maxDigits ≤ lit.digits.length :=
    Nat.not_lt.mp fun hshort => hmisfit (lit.fits_of_length_lt hshort)
  have hnonzero := lit.ne_zero_of_length (Nat.lt_of_lt_of_le (by decide) hlong)
  have hread := h.allDigits lit hnonzero hlength
  rcases Nat.lt_or_ge Numeral.maxDigits lit.digits.length with hover | hten
  · obtain ⟨last, hpath, hend⟩ := hread.tooLong hover
    exact ⟨last, _, hpath, hend, rfl, rfl⟩
  -- Ten digits: one more makes the integer too long, anything else ends it.
  cases hnext : rest.head?.any Numeral.isDigit with
  | true =>
      obtain ⟨d, later, rfl, hd⟩ := exists_cons_of_any hnext
      have hmore : Arrives text start told
          (.digits slot (.ofOffset text read.length) (lit.digits.length + [d].length)) count
          (read ++ lit.text ++ [d]) later := by
        refine hread.readsTo fun s hphase hsplits => reads_digits hsplits hphase ?_ ?_
        · simpa using hd
        · simpa using hten
      obtain ⟨last, hpath, hend⟩ := hmore.tooLong (Nat.lt_succ_of_le hlong)
      exact ⟨last, _, hpath, hend, rfl, rfl⟩
  | false =>
      have hrange : Numeral.inRange (Numeral.value lit.text) = false := by
        rw [lit.value_text, ← Bool.not_eq_true, lit.inRange_iff]
        exact hmisfit
      obtain ⟨last, hpath, hend⟩ := (hread.literal hten hnext).outOfRange hrange
      exact ⟨last, _, hpath, hend, rfl, rfl⟩

end Arrives

/-- What is known where a scan fails: either the text up to here is the beginning of a drawing, or
it is the beginning of one up to an integer that does not fit. -/
inductive Breaks (text : List Char) (s : Scan) (told : List Notice) : Violation → Prop where
  | here {expected : Expectation} {d : Drawing} {more : List Char}
      (hkind : expected.aboutRange = false) (hdrawing : d.text = text.take s.offset ++ more) :
      Breaks text s told ⟨expected, .ofOffset text s.offset⟩
  | range {expected : Expectation} {d : Drawing} {slot : Slot} {part rest : List Char}
      {lit : Literal} (hkind : expected.aboutRange = true) (hpart : slot.Reads part)
      (hexcess : lit.Excess rest) (hwhole : text = d.text ++ part ++ (lit.text ++ rest))
      (htold : told = d.toldIn text) :
      Breaks text s told ⟨expected, .ofOffset text (d.text ++ part).length⟩

variable {text read rest : List Char} {d : Drawing} {s : Scan} {told : List Notice}
  {violation : Violation}

/-- A rejected lookahead within a sentence that can be completed. -/
theorem Breaks.within {expected : Expectation} {sentence : Sentence} {more : List Char}
    (hsplits : s.Splits text (d.text ++ read) rest) (hkind : expected.aboutRange = false)
    (hsentence : sentence.text = read ++ more) :
    Breaks text s told ⟨expected, (s.view text).place⟩ := by
  have hdrawing : (d.push sentence).text = text.take s.offset ++ more := by
    rw [Drawing.text_push, hsentence, hsplits.whole, hsplits.offset, List.take_left,
      List.append_assoc]
  exact .here hkind hdrawing

theorem afterBlanks_breaks {due : Due} (hread : due.Reads read)
    (hsplits : s.Splits text (d.text ++ read) rest)
    (hfailed : s.afterBlanks (s.view text) due = .failed violation) :
    Breaks text s told violation := by
  obtain ⟨sentence, more, hsentence⟩ := hread.completes
  cases due with
  | opcode => exact hread.elim
  | terminator c =>
      rw [Scan.afterBlanks] at hfailed
      split at hfailed
      · cases hfailed
      · obtain rfl := Move.failed.inj hfailed
        exact .within hsplits rfl hsentence
  | optionalPen =>
      rw [Scan.afterBlanks] at hfailed
      split at hfailed <;> cases hfailed
  | integer slot =>
      rw [Scan.afterBlanks] at hfailed
      split at hfailed <;> cases hfailed
  | separator x =>
      rw [Scan.afterBlanks] at hfailed
      split at hfailed
      · cases hfailed
      · obtain rfl := Move.failed.inj hfailed
        exact .within hsplits rfl hsentence

theorem within_breaks {owed : Nat} (hphase : s.phase.Within text d.text.length owed read rest)
    (hsplits : s.Splits text (d.text ++ read) rest)
    (hfailed : s.step text = .failed violation) : Breaks text s (d.toldIn text) violation := by
  rw [Scan.step, react] at hfailed
  generalize hs : s.phase = phase at hphase hfailed
  cases hphase with
  | letter ha => cases hfailed
  | code ha => cases hfailed
  | torn ha => cases hfailed
  | arguments hread =>
      simp only at hfailed
      split at hfailed
      · cases hfailed
      · exact afterBlanks_breaks hread hsplits hfailed
  | @leading slot part rest negative hpart =>
      simp only at hfailed
      split at hfailed
      · cases hfailed
      split at hfailed
      · cases hfailed
      · obtain rfl := Move.failed.inj hfailed
        obtain ⟨sentence, more, hsentence⟩ := hpart.completes (.zero negative)
        have hlonger : sentence.text = part ++ Literal.sign negative ++ '0' :: more := by
          rw [hsentence]
          simp [Number.zero, Literal.zero, Literal.text]
        exact .within hsplits rfl hlonger
  | @digits slot part rest c more negative hpart hdecimal hzero hlength =>
      simp only at hfailed
      split at hfailed
      next hmany =>
        let lit : Literal := ⟨negative, c :: more, hdecimal, by simp, by simp [hzero]⟩
        have hexcess : lit.Excess rest := {
          misfit := fun hfits => absurd hfits.length_le (Nat.not_le.mpr hmany)
          length_le := Nat.succ_le_succ hlength
          complete := Or.inl (Nat.le_antisymm (Nat.succ_le_succ hlength) hmany) }
        have hwhole : text = d.text ++ part ++ (lit.text ++ rest) := by
          simpa [lit, Literal.text] using hsplits.whole
        rw [← List.length_append] at hfailed
        obtain rfl := Move.failed.inj hfailed
        exact .range rfl hpart hexcess hwhole rfl
      next => split at hfailed <;> cases hfailed
  | @literal slot part rest lit hpart hlength hover =>
      rw [← List.append_assoc] at hsplits
      have hmark : s.phase.mark = some (d.text ++ part).length := by
        rw [hs, List.length_append]
        exact mark_ofOffset text rfl rfl
      simp only [hsplits.token hmark, lit.value_text] at hfailed
      split at hfailed
      · cases hfailed
      next hrange =>
        rw [lit.inRange_iff] at hrange
        have hend : rest.head?.any Numeral.isDigit = false := by
          rcases hover with hzero | hend
          · exact absurd (lit.fits_of_length_lt (by simp [hzero, Numeral.maxDigits])) hrange
          · exact hend
        have hexcess : lit.Excess rest := ⟨hrange, Nat.le_succ_of_le hlength, Or.inr hend⟩
        have hwhole : text = d.text ++ part ++ (lit.text ++ rest) := by
          simpa using hsplits.whole
        rw [← List.length_append] at hfailed
        obtain rfl := Move.failed.inj hfailed
        exact .range rfl hpart hexcess hwhole rfl
  | closing hmeaning => cases hfailed
  | skipping other =>
      simp only at hfailed
      split at hfailed
      · cases hfailed
      split at hfailed
      · obtain rfl := Move.failed.inj hfailed
        have hclosed : (Sentence.foreign other).text = other.code ++ other.body ++ [';'] := rfl
        exact .within hsplits rfl hclosed
      · cases hfailed
  | @tornSkipping a ha =>
      simp only [hsplits.lookahead] at hfailed
      obtain rfl := Move.failed.inj hfailed
      -- A semicolon is as good a second letter as any.
      let other : Foreign := ⟨a, ';', [], ha, by simp [supportedCodes], by simp⟩
      have hclosed : (Sentence.foreign other).text = [a] ++ [';', ';'] := rfl
      exact .within hsplits rfl hclosed
  | skipped other => cases hfailed

theorem Explained.breaks (h : s.Explained text told) (hfailed : s.step text = .failed violation) :
    s.Breaks text told violation := by
  cases h with
  | within hphase hsplits _ => exact within_breaks hphase hsplits hfailed
  | searching hphase _ _ _ =>
      rw [Scan.step, react, hphase] at hfailed
      simp only at hfailed
      split at hfailed
      · cases hfailed
      · split at hfailed <;> cases hfailed
  | absent hphase hsplits _ _ =>
      rw [Scan.step, react, hphase] at hfailed
      simp [hsplits.lookahead, Scan.afterBlanks] at hfailed
  | @opening preamble rest gap hphase hsplits _ hfirst =>
      rw [Scan.step, react, hphase] at hfailed
      simp only at hfailed
      split at hfailed
      · cases hfailed
      · rw [Scan.afterBlanks] at hfailed
        split at hfailed
        · cases hfailed
        · obtain rfl := Move.failed.inj hfailed
          let d : Drawing := ⟨preamble, hfirst, gap, [], .empty⟩
          have hdrawing : d.text = text.take s.offset ++ [';'] := by
            rw [hsplits.whole, hsplits.offset, List.take_left]
            simp [d, Drawing.text, Drawing.head, Sentence.textOf, Gap.empty]
          exact .here rfl hdrawing
  | opened hphase _ _ _ =>
      rw [Scan.step, react, hphase] at hfailed
      cases hfailed
  | between hphase _ _ =>
      rw [Scan.step, react, hphase] at hfailed
      simp only at hfailed
      split at hfailed
      · cases hfailed
      · rw [Scan.afterBlanks] at hfailed
        split at hfailed <;> cases hfailed

end Scan

namespace Parser

/-- The commands, the diagnostics and the end of a parse are alike. -/
theorem parse_congr [Encoding.Registry] {offset : Nat} {text other : List Char} {told : List Notice}
    {last : Scan} {violation : Violation} (h : Text.SameThrough offset text other)
    (hpath : Scan.Path text (Parser.scan {}) told last)
    (hend : last.Ends text (.error violation)) (hle : last.offset ≤ offset) :
    (Parser.parse {} (.text other) {}).Shows told last (.error violation) :=
  text_shows (hpath.congr h hle) (hend.congr h hle)

theorem exists_accepted [Encoding.Registry] {d : Drawing} {text : List Char} (h : d.text = text) :
    ∃ n, (Parser.parse {} (.text text) {}).outcome = .ok n := by
  obtain ⟨last, hshows⟩ := drawing_shows d
  rw [h] at hshows
  exact ⟨_, hshows.outcome_ok.mpr rfl⟩

/-- Whatever follows an integer that does not fit, a text that begins so fails at the integer. -/
theorem excess_shows [Encoding.Registry] (d : Drawing) {slot : Slot} {part : List Char}
    (hpart : slot.Reads part) (lit : Literal) (hmisfit : ¬ lit.Fits)
    (hlength : lit.digits.length ≤ Numeral.maxDigits + 1) (more : List Char) :
    let text := d.text ++ part ++ (lit.text ++ more)
    ∃ last violation, (Parser.parse {} (.text text) {}).Shows (d.toldIn text) last
      (.error violation) ∧ violation.place = .ofOffset text (d.text ++ part).length ∧
        violation.expected.aboutRange = true := by
  intro text
  have htext : d.text ++ (part ++ (lit.text ++ more)) = text := by simp [text]
  have hdrawing := Parser.arrives_drawing {} d (part ++ (lit.text ++ more))
  rw [htext] at hdrawing
  have hslot := hdrawing.slot hpart lit
  obtain ⟨last, violation, hpath, hend, hviolation⟩ := hslot.excess lit hmisfit hlength
  exact ⟨last, violation, text_shows hpath hend, hviolation⟩

/-- A violation is found at the first impossible character. The text before its place can be
completed. If a character was rejected, every text with that character there fails alike; if an
integer was rejected, every text with the same sign and digits there fails at the integer. -/
theorem parse_viable_prefix [Encoding.Registry] (text : List Char) {violation : Violation}
    (hfails : (Parser.parse {} (.text text) {}).outcome = .error (.violation violation)) :
    let report := Parser.parse {} (.text text) {}
    ∃ offset : Nat, violation.place.offset = offset ∧ offset ≤ text.length ∧
      (∃ more n, (Parser.parse {} (.text (text.take offset ++ more)) {}).outcome = .ok n) ∧
      (violation.expected.aboutRange = false → offset < text.length → ∀ more,
        let other := Parser.parse {} (.text (text.take (offset + 1) ++ more)) {}
        other.outcome = .error (.violation violation) ∧
          Notice.commands other.trace = Notice.commands report.trace ∧
          Notice.diagnostics other.trace = Notice.diagnostics report.trace) ∧
      (violation.expected.aboutRange = true → ∀ more,
        let other := Parser.parse {}
          (.text (text.take offset ++ Numeral.attempt (text.drop offset) ++ more)) {}
        ∃ again : Violation, other.outcome = .error (.violation again) ∧
          again.place = violation.place ∧ again.expected.aboutRange = true ∧
          Notice.commands other.trace = Notice.commands report.trace ∧
          Notice.diagnostics other.trace = Notice.diagnostics report.trace) := by
  intro report
  obtain ⟨told, last, outcome, hpath, hend, hshows⟩ := exists_text_path text
  obtain rfl := hshows.outcome_violation.mp hfails
  have hexplained := hpath.explained rfl rfl rfl
  cases hend with
  | failed hfailed =>
      cases hexplained.breaks hfailed with
      | @here expected d more hkind hdrawing =>
          refine ⟨last.offset, rfl, hexplained.offset_le, ⟨more, exists_accepted hdrawing⟩, ?_, ?_⟩
          · intro _ hlt other
            have hsame := parse_congr (.of_take hlt other) hpath (.failed hfailed) (Nat.le_refl _)
            refine ⟨hsame.outcome_violation.mpr rfl, ?_, ?_⟩
            · rw [hsame.commands, hshows.commands]
            · rw [hsame.diagnostics, hshows.diagnostics]
          · intro hrange
            rw [hkind] at hrange
            cases hrange
      | @range expected d slot part rest lit hkind hpart hexcess hwhole htold =>
          have htake : text.take (d.text ++ part).length = d.text ++ part := by
            rw [hwhole, List.take_left]
          have hdrop : text.drop (d.text ++ part).length = lit.text ++ rest := by
            rw [hwhole, List.drop_left]
          refine ⟨(d.text ++ part).length, rfl, by simp [hwhole], ?_, ?_, ?_⟩
          · obtain ⟨sentence, more, hsentence⟩ := hpart.completes (.zero false)
            have hdrawing : (d.push sentence).text =
                text.take (d.text ++ part).length ++ ((Number.zero false).text ++ more) := by
              rw [htake, Drawing.text_push, hsentence]
              simp
            exact ⟨_, exists_accepted hdrawing⟩
          · intro hhere
            rw [hkind] at hhere
            cases hhere
          · intro _ more
            rw [htake, hdrop, hexcess.attempt_eq, List.append_assoc _ lit.text]
            obtain ⟨last', again, hother, hplace, hagain⟩ :=
              excess_shows d hpart lit hexcess.misfit hexcess.length_le more
            obtain ⟨c, tail, hlit, _, _⟩ := lit.exists_head
            have hsame : Text.SameThrough (d.text ++ part).length text
                (d.text ++ part ++ (lit.text ++ more)) := by
              rw [hwhole, hlit]
              exact .of_append _ c _ _
            have hdrawn : Text.SameThrough d.text.length text
                (d.text ++ part ++ (lit.text ++ more)) := hsame.mono (by simp)
            refine ⟨again, hother.outcome_violation.mpr rfl, ?_, hagain, ?_, ?_⟩
            · rw [hplace, ← hsame.place_eq]
            · rw [hother.commands, hshows.commands, htold, d.toldIn_congr hdrawn]
            · rw [hother.diagnostics, hshows.diagnostics, htold, d.toldIn_congr hdrawn]

/-- A terminator that is missing, and an integer with a digit too many. -/
theorem parse_viable_prefix_failures :
    let missing := ['I', 'N', 'P']
    let long := ['I', 'N', ';', 'S', 'P', '-'] ++ List.replicate 11 '9'
    (∃ violation : Violation,
      (Parser.parse {} (.text missing) {}).outcome = .error (.violation violation) ∧
        violation.place = ⟨2, 1, 3⟩ ∧
        (∃ more n, (Parser.parse {} (.text (['I', 'N'] ++ more)) {}).outcome = .ok n) ∧
        ∀ more, (Parser.parse {} (.text (missing ++ more)) {}).outcome =
          .error (.violation violation)) ∧
    ∃ violation : Violation,
      (Parser.parse {} (.text long) {}).outcome = .error (.violation violation) ∧
        violation.place = ⟨5, 1, 6⟩ ∧
        (∃ more n, (Parser.parse {} (.text (long.take 5 ++ more)) {}).outcome = .ok n) ∧
        ∀ more, ∃ again : Violation,
          (Parser.parse {} (.text (long ++ more)) {}).outcome = .error (.violation again) ∧
            again.place = violation.place := by
  intro missing long
  have hfirst : Text.WithoutInit ([] ++ ['I']) := by
    intro hinit
    simpa using hinit.length_le
  constructor
  · have hinit : Scan.Arrives missing (Parser.scan {}) [] (.blanks (.terminator .init)) 0
        ['I', 'N'] ['P'] := (Parser.scan_arrives {} missing).init hfirst
    have hrejected : ∀ s : Scan, s.phase = .blanks (.terminator .init) →
        s.Splits missing ['I', 'N'] ['P'] →
        s.step missing = .failed ⟨.terminator, ⟨2, 1, 3⟩⟩ := by
      intro s hphase hsplits
      have hvisible : Text.isBlank 'P' = false := by decide
      have hplace : Location.ofOffset missing 2 = ⟨2, 1, 3⟩ := rfl
      rw [Scan.step, Scan.react, hphase]
      simp [hsplits.lookahead, hvisible, Scan.afterBlanks, hsplits.place, hplace]
    obtain ⟨last, hpath, hend⟩ := hinit.fail hrejected
    have hfails := (text_shows hpath hend).outcome_violation.mpr rfl
    obtain ⟨offset, hoffset, _, haccepted, hsame, _⟩ := parse_viable_prefix missing hfails
    obtain rfl : offset = 2 := Int.ofNat.inj hoffset.symm
    exact ⟨_, hfails, rfl, haccepted, fun more => (hsame rfl (by decide) more).1⟩
  · let d : Drawing := ⟨[], hfirst, .empty, [], .empty⟩
    have hnines : ∀ c ∈ List.replicate 11 '9', Numeral.isDigit c = true := by
      intro c hc
      rw [List.eq_of_mem_replicate hc]
      rfl
    let lit : Literal := ⟨true, List.replicate 11 '9', hnines, by simp, by simp⟩
    have hpart : Slot.pen.Reads ['S', 'P'] := ⟨.empty, rfl⟩
    have hmisfit : ¬ lit.Fits := fun hfits =>
      absurd hfits.length_le (by simp [lit, Numeral.maxDigits])
    obtain ⟨last, violation, hshows, hplace, hrange⟩ :=
      excess_shows d hpart lit hmisfit (by simp [lit, Numeral.maxDigits]) []
    have hlong : d.text ++ ['S', 'P'] ++ (lit.text ++ []) = long := rfl
    have hstart : Location.ofOffset long 5 = ⟨5, 1, 6⟩ := rfl
    rw [hlong] at hshows hplace
    have hfails := hshows.outcome_violation.mpr rfl
    obtain ⟨offset, hoffset, _, haccepted, _, hsame⟩ := parse_viable_prefix long hfails
    rw [hplace] at hoffset
    obtain rfl : offset = 5 := Int.ofNat.inj hoffset.symm
    refine ⟨violation, hfails, hplace.trans hstart, haccepted, fun more => ?_⟩
    obtain ⟨again, houtcome, hagain, _⟩ := hsame hrange more
    have hread : long.take 5 ++ Numeral.attempt (long.drop 5) = long := rfl
    rw [hread] at houtcome
    exact ⟨again, houtcome, hagain⟩

end Parser

end PlotStream
