import PlotStream.Proofs.Acceptance
import PlotStream.Proofs.TextEnd

/-!
A source that fails behind the last character of a text. A sentence is told when the character
behind its terminator has been asked for. So the account breaks off in front of the last sentence if
that ends the text, and a violation that is found before the failure is found all the same.
-/

namespace PlotStream

/-- Offset of the terminator of a command that is not supported, given where its code begins. The
code takes two characters whatever they are. -/
def Text.terminatorFrom (text : List Char) (start : Nat) : Nat :=
  start + 2 + (text.drop (start + 2)).idxOf ';'

theorem Foreign.terminatorFrom (other : Foreign) (head rest : List Char) :
    Text.terminatorFrom (head ++ (Sentence.foreign other).text ++ rest) head.length + 1 =
      (head ++ (Sentence.foreign other).text).length := by
  have htext : head ++ (Sentence.foreign other).text ++ rest =
      (head ++ other.code) ++ (other.body ++ (';' :: rest)) := by
    simp [Sentence.text]
  have hcode : head.length + 2 = (head ++ other.code).length := by
    simp [Foreign.code]
  rw [Text.terminatorFrom, htext, hcode, List.drop_left, List.idxOf_append,
    if_neg other.unclosed, List.idxOf_cons_self]
  simp [Sentence.text, Nat.add_assoc]

/-- Whether a notice is told before the end of the text is asked for. -/
def Notice.beforeEnd (text : List Char) : Notice → Bool
  | .command _ place => place.offset < text.length
  | .diagnostic d start =>
    d.ofSentence && Text.terminatorFrom text start.offset.toNat + 1 < text.length
  | _ => false

namespace Scan

variable {text : List Char} {s next last : Scan} {told earlier : List Notice}

theorem afterBlanks_silent {n : Notice} (due : Due) :
    s.afterBlanks (s.view text) due ≠ .moved next (some n) := by
  intro h
  cases due <;> simp only [afterBlanks] at h <;> split at h <;> cases h

/-- The steps that tell something. -/
theorem tell_cases {n : Notice} (h : s.step text = .moved next (some n)) :
    (∃ previous, s.phase = .preamble previous ∧ (s.view text).lookahead = none ∧
        n = .diagnostic .noInit (s.view text).place) ∨
      (∃ c, s.phase = .closing c ∧ n = .command c (s.view text).place) ∨
      ∃ code start, s.phase = .skipped code start ∧ n = .diagnostic (.unsupported code) start := by
  rw [step, react] at h
  generalize hphase : s.phase = phase at h
  cases phase with
  | preamble previous =>
      dsimp only at h
      split at h
      · cases h
      split at h
      next hnone =>
          cases h
          exact Or.inl ⟨previous, rfl, hnone, rfl⟩
      · cases h
  | blanks due =>
      dsimp only at h
      split at h
      · cases h
      · exact absurd h (afterBlanks_silent due)
  | secondLetter start => cases h
  | dispatch start => cases h
  | leadingDigit slot start =>
      dsimp only at h
      split at h
      · cases h
      split at h <;> cases h
  | digits slot start count =>
      dsimp only at h
      split at h
      · cases h
      split at h <;> cases h
  | literal slot start =>
      dsimp only at h
      split at h <;> cases h
  | closing c =>
      cases h
      exact Or.inr (Or.inl ⟨c, rfl, rfl⟩)
  | skipping code start =>
      dsimp only at h
      split at h
      · cases h
      split at h <;> cases h
  | skipped code start =>
      cases h
      exact Or.inr (Or.inr ⟨code, start, rfl, rfl⟩)

/-- Whether a notice is told in front of the end shows where the scan stands when it is told. -/
theorem Explained.beforeEnd_told (h : s.Explained text told) {n : Notice}
    (hmove : s.step text = .moved next (some n)) :
    n.beforeEnd text = decide (s.offset < text.length) := by
  rcases tell_cases hmove with ⟨previous, _, hnone, rfl⟩ | ⟨c, _, rfl⟩ | ⟨code, start, hphase, rfl⟩
  · have hend : text.length ≤ s.offset := List.getElem?_eq_none_iff.mp hnone
    simp [Notice.beforeEnd, Diagnostic.ofSentence, Nat.not_lt.mpr hend]
  · simp [Notice.beforeEnd, view, Location.ofOffset]
  · cases h with
    | searching hother _ _ _ => simp [hphase] at hother
    | absent hother _ _ _ => simp [hphase] at hother
    | opening hother _ _ _ => simp [hphase] at hother
    | opened hother _ _ _ => simp [hphase] at hother
    | between hother _ _ => simp [hphase] at hother
    | @within d _ _ rest hwithin hsplits _ =>
        rw [hphase] at hwithin
        cases hwithin with
        | skipped other =>
            have hterminator := other.terminatorFrom d.text rest
            rw [← hsplits.whole, ← hsplits.offset] at hterminator
            simp [Notice.beforeEnd, Diagnostic.ofSentence, Location.ofOffset, hterminator]

namespace Path

/-- What a path tells that has not come to the end is told before the end. -/
theorem filter_beforeEnd (h : Path text s told last) (hexplained : s.Explained text earlier)
    (hlast : last.offset < text.length) : told.filter (Notice.beforeEnd text) = told := by
  induction h generalizing earlier with
  | refl _ => rfl
  | @step s next last notice told hmove hrest ih =>
      have hmore := ih (hexplained.step hmove) hlast
      have hbegin := Nat.le_trans (offset_le_of_step hmove) hrest.offset_le
      cases notice with
      | none => exact hmore
      | some n =>
          have hearly := hexplained.beforeEnd_told hmove
          rw [decide_eq_true (Nat.lt_of_le_of_lt hbegin hlast)] at hearly
          simp [hearly, hmore]

/-- What is told at the end is not. -/
theorem filter_beforeEnd_eq_nil (h : Path text s told last)
    (hexplained : s.Explained text earlier) (hend : text.length ≤ s.offset) :
    told.filter (Notice.beforeEnd text) = [] := by
  induction h generalizing earlier with
  | refl _ => rfl
  | @step s next last notice told hmove hrest ih =>
      have hmore := ih (hexplained.step hmove) (Nat.le_trans hend (offset_le_of_step hmove))
      cases notice with
      | none => exact hmore
      | some n =>
          have hlate := hexplained.beforeEnd_told hmove
          rw [decide_eq_false (Nat.not_lt.mpr hend)] at hlate
          simp [hlate, hmore]

end Path

end Scan

namespace Parser

/-- What comes of a source that fails behind the text: the violation that is found before, or all
that is told before the end and then the failure. -/
theorem parse_broken [Encoding.Registry] (parser : Parser) (hquiet : parser.listener = {})
    {input : Input}
    {options : Options} {source : Nat → Source} {text : List Char} {cause : ReadFailure}
    (hsource : input.source options.encoding = .ok source)
    (hgives : (source (options.bufferSizeFor input).toNat).Gives text (some cause))
    (hsize : 0 < options.bufferSizeFor input) :
    (∃ told last violation, Scan.Path text parser.scan told last ∧
        last.step text = .failed violation ∧ last.offset < text.length ∧
        (parser.parse input options).Shows told last (.error violation)) ∨
      ∃ told next, Scan.Path text parser.scan told next ∧ next.offset = text.length ∧
        told.filter (Notice.beforeEnd text) = told ∧
        (parser.parse input options).outcome = .error (.source cause) ∧
        Notice.told (parser.parse input options).trace = told := by
  obtain ⟨reader, hreader, hloaded, hcapture⟩ := Input.reader_of_source hsource hgives hsize
  have hstart : parser.scan.Explained text [] := (Scan.Path.refl _).explained rfl rfl rfl
  rw [parser.parse_of_reader hreader]
  rcases parser.run_follows hquiet hloaded hcapture with
    hfollows | ⟨last, cause', rfl, hending, hrun⟩
  · cases hfollows with
    | @ended told last outcome hpath hend hshows hstopped =>
        have hwithin : last.offset < text.length := by
          rcases hstopped with ⟨hlast, _⟩ | ⟨_, hnone, _⟩
          · exact hlast.le_length
          · cases hnone
        cases hend with
        | finished hfinished =>
            have hnone := (Scan.phase_of_finished hfinished).2
            have hend := List.getElem?_eq_none_iff.mp hnone
            omega
        | failed hfailed => exact Or.inl ⟨_, _, _, hpath, hfailed, hwithin, hshows⟩
    | broken hending hpath hmove hoffset hnext hresult htold =>
        obtain rfl := Option.some.inj hending
        have hthere := hpath.trans (.single hmove)
        rw [Option.toList_none, List.append_nil] at hthere
        exact Or.inr ⟨_, _, hthere, hnext, hpath.filter_beforeEnd hstart (by omega), hresult, htold⟩
  · obtain rfl := Option.some.inj hending
    rw [hrun]
    exact Or.inr ⟨[], _, .refl _, rfl, rfl, rfl, rfl⟩

theorem length_commands_at_end {text : List Char} {s last : Scan} {told : List Notice}
    (h : Scan.Path text s told last) (hend : s.offset = text.length) :
    (Notice.commands told).length ≤ 1 := by
  rw [← Notice.commands_sentences]
  rcases h.sentences_at_end hend with hnone | ⟨n, _, _, hone⟩
  · simp [hnone, Notice.commands]
  · rw [hone]
    exact List.length_filterMap_le _ [n]

/-- A source that fails behind the text, and nobody who objects. A violation with a character of the
text in front of it is found as if the text just ended. Otherwise the parse ends with the failure,
the sentence that ends the text is lost, and there is no word of a drawing that never started. The
reader is given up either way. -/
theorem parse_failing_source [Encoding.Registry] (parser : Parser) (hquiet : parser.listener = {})
    {pieces : List (List Char)} (hpieces : ∀ piece ∈ pieces, piece ≠ []) (cause : ReadFailure)
    (later : List Reply) (options : Options)
    (hsize : 0 < options.bufferSizeFor (.chunks (pieces.map .text ++ .failure cause :: later))) :
    let text := pieces.flatten
    let broken := parser.parse (.chunks (pieces.map .text ++ .failure cause :: later)) options
    let report := parser.parse (.text text) {}
    let early := ∃ violation place, report.outcome = .error (.violation violation) ∧
      parser.stop (.text text) {} = some place ∧ place.offset < text.length
    (early → broken.outcome = report.outcome ∧
        Notice.commands broken.trace = Notice.commands report.trace ∧
        Notice.diagnostics broken.trace = Notice.diagnostics report.trace) ∧
      (¬ early → broken.outcome = .error (.source cause) ∧
        Notice.commands broken.trace =
          (Notice.commands report.trace).filter (fun entry => entry.2.offset < (text.length : Int)) ∧
        (∃ lost, Notice.commands report.trace = Notice.commands broken.trace ++ lost ∧
          lost.length ≤ 1) ∧
        Notice.diagnostics broken.trace =
          (Notice.diagnostics report.trace).filter (fun entry => entry.1.ofSentence &&
            Text.terminatorFrom text entry.2.offset.toNat + 1 < text.length) ∧
        .noInit ∉ (Notice.diagnostics broken.trace).map Prod.fst) ∧
      broken.parser.reader = none ∧ broken.parser.location = none := by
  intro text broken report early
  have hgives : (Source.ofChunks (pieces.map .text ++ .failure cause :: later)).Gives text
      (some cause) := by
    have hfails : (Source.ofChunks (.failure cause :: later)).Gives [] (some cause) := .broken rfl
    simpa using Source.Gives.pieces hpieces hfails
  obtain ⟨told, last, outcome, hpath, hend, hshows, hstop⟩ :=
    parser.exists_path_stopped hquiet (Input.carries_text text)
      (Options.bufferSizeFor_text_pos text)
  have hgone : broken.parser.reader = none := by
    obtain ⟨reader, hreader, _, _⟩ := Input.reader_of_source rfl hgives hsize
    simp only [broken, parser.parse_of_reader hreader, Report.ofRun, afterRun]
  have hlocation : broken.parser.location = none := by rw [location, hgone, Option.map_none]
  rcases parser.parse_broken hquiet rfl hgives hsize with
    ⟨told', last', violation, hpath', hfailed, hwithin, hbroken⟩ |
      ⟨told', next, hpath', hnext, hkept, hresult, htold⟩
  -- Both parses go the same path. It is broken off at the end of the text, or it ends before.
  · obtain ⟨rfl, rfl⟩ := hpath.unique hend hpath' (.failed hfailed)
    obtain rfl := hend.unique (.failed hfailed)
    have hearly : early :=
      ⟨violation, _, hshows.outcome_violation.mpr rfl, hstop, Int.ofNat_lt.mpr hwithin⟩
    refine ⟨fun _ => ⟨?_, ?_, ?_⟩, fun hlate => absurd hearly hlate, hgone, hlocation⟩
    · exact hbroken.result.trans hshows.result.symm
    · exact hbroken.commands.trans hshows.commands.symm
    · exact hbroken.diagnostics.trans hshows.diagnostics.symm
  · obtain ⟨more, rfl, hmore⟩ := hpath'.continues hpath hend
    have hexplained := hpath'.explained rfl rfl rfl
    have hfilter : (told' ++ more).filter (Notice.beforeEnd text) = told' := by
      have hlost := hmore.filter_beforeEnd_eq_nil hexplained (Nat.le_of_eq hnext.symm)
      rw [List.filter_append, hkept, hlost, List.append_nil]
    have hcommands : Notice.commands broken.trace = Notice.commands told' := by
      rw [← Notice.commands_told, htold]
    have hdiagnostics : Notice.diagnostics broken.trace =
        (Notice.diagnostics report.trace).filter (fun entry => entry.1.ofSentence &&
          Text.terminatorFrom text entry.2.offset.toNat + 1 < text.length) := by
      have hearly := Notice.diagnostics_filter (Notice.beforeEnd text) (told' ++ more)
      rw [hfilter] at hearly
      rw [← Notice.diagnostics_told, htold, hshows.diagnostics]
      exact hearly
    refine ⟨?_, fun _ => ⟨hresult, ?_, ?_, hdiagnostics, ?_⟩, hgone, hlocation⟩
    · rintro ⟨_, place, _, hplace, hbefore⟩
      have hbeyond := hmore.offset_le
      obtain rfl := Option.some.inj (hstop.symm.trans hplace)
      simp only [Location.ofOffset] at hbefore
      omega
    · have hearly := Notice.commands_filter (Notice.beforeEnd text) (told' ++ more)
      rw [hfilter] at hearly
      rw [hcommands, hshows.commands]
      exact hearly
    · refine ⟨Notice.commands more, ?_, length_commands_at_end hmore hnext⟩
      rw [hshows.commands, hcommands, Notice.commands_append]
    · rw [hdiagnostics]
      intro hmember
      obtain ⟨⟨d, place⟩, hentry, rfl⟩ := List.mem_map.mp hmember
      have hsentence := (List.mem_filter.mp hentry).2
      simp [Diagnostic.ofSentence] at hsentence

/-- The last command is lost, and what is not supported is told before it. -/
theorem parse_failing_source_lost :
    let pieces := [['I'], ['N', ';', 'X'], ['Y', ';', 'P', 'U', ';']]
    let cause := ReadFailure.device "gone"
    let broken := Parser.parse {} (.chunks (pieces.map .text ++ [.failure cause])) {}
    (Parser.parse {} (.text pieces.flatten) {}).outcome = .ok 2 ∧
      broken.outcome = .error (.source cause) ∧
      Notice.commands broken.trace = [(.init, ⟨3, 1, 4⟩)] ∧
      Notice.diagnostics broken.trace = [(.unsupported ['X', 'Y'], ⟨3, 1, 4⟩)] := by
  intro pieces cause broken
  let other : Foreign := ⟨'X', 'Y', [], by decide, by decide, by decide⟩
  let d : Drawing :=
    { preamble := []
      first := fun hinit => absurd hinit.length_le (by decide)
      opening := .empty
      sentences := [(.empty, .foreign other), (.empty, .plain .penUp .empty)]
      closing := .empty }
  obtain ⟨_, hshows⟩ := drawing_shows d
  have hok : (Parser.parse {} (.text pieces.flatten) {}).outcome = .ok 2 :=
    hshows.outcome_ok.mpr rfl
  have hcommands : Notice.commands (Parser.parse {} (.text pieces.flatten) {}).trace =
      [(.init, ⟨3, 1, 4⟩), (.penUp, ⟨9, 1, 10⟩)] := hshows.commands.trans (by decide +kernel)
  have hdiagnostics : Notice.diagnostics (Parser.parse {} (.text pieces.flatten) {}).trace =
      [(.unsupported ['X', 'Y'], ⟨3, 1, 4⟩)] := hshows.diagnostics.trans (by decide +kernel)
  have hpieces : ∀ piece ∈ pieces, piece ≠ [] := by decide
  obtain ⟨_, hlate, _, _⟩ := parse_failing_source {} rfl hpieces cause [] {} (by decide)
  have hnever : ¬ ∃ violation place,
      (Parser.parse {} (.text pieces.flatten) {}).outcome = .error (.violation violation) ∧
        Parser.stop {} (.text pieces.flatten) {} = some place ∧
        place.offset < pieces.flatten.length := by
    rintro ⟨violation, _, hviolation, _⟩
    rw [hok] at hviolation
    cases hviolation
  obtain ⟨hresult, hkept, _, htold, _⟩ := hlate hnever
  refine ⟨hok, hresult, ?_, ?_⟩
  · exact hkept.trans (by rw [hcommands]; rfl)
  · exact htold.trans (by rw [hdiagnostics]; rfl)

end Parser

end PlotStream
