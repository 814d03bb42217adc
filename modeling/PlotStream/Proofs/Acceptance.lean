import PlotStream.Proofs.Running
import PlotStream.Proofs.Soundness

/-!
The parser accepts the texts of the grammar and no others, and what it tells of them is what they
mean. Soundness reads an explanation of the whole text off the last step; completeness follows the
grammar to the end of the text. That a text cannot mean two things comes from there being one path.
-/

namespace PlotStream

namespace Scan

variable {text : List Char} {s : Scan} {told : List Notice}

/-- A parse ends well only in front of a command that is not there. -/
theorem phase_of_finished (h : s.step text = .finished) :
    s.phase = .blanks .opcode ∧ (s.view text).lookahead = none := by
  rw [Scan.step, react] at h
  generalize s.phase = phase at h
  cases phase with
  | blanks due =>
      simp only at h
      split at h
      · cases h
      · cases due with
        | opcode =>
            simp only [Scan.afterBlanks] at h
            split at h
            next hnone => exact ⟨rfl, hnone⟩
            next => cases h
        | terminator c =>
            simp only [Scan.afterBlanks] at h
            split at h <;> cases h
        | optionalPen =>
            simp only [Scan.afterBlanks] at h
            split at h <;> cases h
        | integer slot =>
            simp only [Scan.afterBlanks] at h
            split at h <;> cases h
        | separator x =>
            simp only [Scan.afterBlanks] at h
            split at h <;> cases h
  | preamble previous =>
      simp only at h
      split at h
      · cases h
      · split at h <;> cases h
  | leadingDigit slot start =>
      simp only at h
      split at h
      · cases h
      · split at h <;> cases h
  | digits slot start count =>
      simp only at h
      split at h
      · cases h
      · split at h <;> cases h
  | literal slot start =>
      simp only at h
      split at h <;> cases h
  | skipping code start =>
      simp only at h
      split at h
      · cases h
      · split at h <;> cases h
  | secondLetter start => cases h
  | dispatch start => cases h
  | closing c => cases h
  | skipped code start => cases h

/-- The explanation of a text that was read to its end. -/
theorem Explained.finished (h : s.Explained text told) (hend : s.step text = .finished) :
    (Text.WithoutInit text ∧ s.count = 0 ∧
        told = [.diagnostic .noInit (.ofOffset text text.length)]) ∨
      ∃ d : Drawing, d.text = text ∧ s.count = d.sentences.length ∧ told = d.toldIn text := by
  obtain ⟨hopcode, hnone⟩ := phase_of_finished hend
  cases h with
  | searching hphase _ _ _ => rw [hphase] at hopcode; cases hopcode
  | absent _ _ hcount habsent => exact Or.inl ⟨habsent, hcount, rfl⟩
  | opening hphase _ _ _ => rw [hphase] at hopcode; cases hopcode
  | opened hphase _ _ _ => rw [hphase] at hopcode; cases hopcode
  | @between d rest _ hsplits hcount =>
      rw [hsplits.lookahead, List.head?_eq_none_iff] at hnone
      subst hnone
      exact Or.inr ⟨d, by simpa using hsplits.whole.symm, hcount, rfl⟩
  | within hphase _ _ =>
      rw [hopcode] at hphase
      cases hphase with
      | arguments hread => exact hread.elim

end Scan

namespace Report.Shows

variable {report : Report} {told : List Notice} {last : Scan} {outcome : Except Violation Nat}

theorem commands (h : report.Shows told last outcome) :
    Notice.commands report.trace = Notice.commands told := by
  rw [← Notice.commands_told, h.told]
  cases outcome <;> simp [Notice.commands, Notice.closing]

theorem diagnostics (h : report.Shows told last outcome) :
    Notice.diagnostics report.trace = Notice.diagnostics told := by
  rw [← Notice.diagnostics_told, h.told]
  cases outcome <;> simp [Notice.diagnostics, Notice.closing]

theorem outcome_ok {n : Nat} (h : report.Shows told last outcome) :
    report.outcome = .ok n ↔ outcome = .ok n := by
  rw [h.result]
  cases outcome <;> simp [Except.mapError]

theorem outcome_violation {violation : Violation} (h : report.Shows told last outcome) :
    report.outcome = .error (.violation violation) ↔ outcome = .error violation := by
  rw [h.result]
  cases outcome <;> simp [Except.mapError]

end Report.Shows

/-- A text in memory is read whole with the buffer that it gets by itself. -/
theorem Input.carries_text (text : List Char) :
    (Input.text text).Carries text (Options.bufferSizeFor {} (.text text)) := by
  apply Carries.text
  have hmax : (1024 : Int) ≤ maxRequest := by decide
  simp only [Options.bufferSizeFor, Options.minBufferSize, Options.defaultBufferSize]
  omega

theorem Options.bufferSizeFor_text_pos (text : List Char) :
    0 < Options.bufferSizeFor {} (.text text) := by
  simp only [bufferSizeFor, minBufferSize]
  omega

namespace Parser

theorem scan_arrives (parser : Parser) (text : List Char) :
    Scan.Arrives text parser.scan [] (.preamble none) 0 [] text :=
  ⟨parser.scan, .refl _, rfl, rfl, rfl, rfl⟩

theorem arrives_absent (parser : Parser) {text : List Char} (habsent : Text.WithoutInit text) :
    Scan.Arrives text parser.scan [.diagnostic .noInit (.ofOffset text text.length)]
      (.blanks .opcode) 0 text [] := by
  have hstart : Scan.Arrives text parser.scan [] (.preamble ([] : List Char).getLast?) 0 []
      (text ++ []) := by
    simpa using parser.scan_arrives text
  exact (hstart.search (by simpa using habsent)).absent

theorem arrives_drawing (parser : Parser) (d : Drawing) (rest : List Char) :
    Scan.Arrives (d.text ++ rest) parser.scan (d.toldIn (d.text ++ rest)) (.blanks .opcode)
      d.sentences.length d.text rest :=
  (parser.scan_arrives (d.text ++ rest)).drawing d

/-- Every text in memory has a path to its end. -/
theorem exists_text_path [Encoding.Registry] (text : List Char) :
    ∃ told last outcome, Scan.Path text (Parser.scan {}) told last ∧ last.Ends text outcome ∧
      (Parser.parse {} (.text text) {}).Shows told last outcome :=
  exists_path_shown {} rfl (Input.carries_text text) (Options.bufferSizeFor_text_pos text)

theorem text_shows [Encoding.Registry] {text : List Char} {told : List Notice} {last : Scan}
    {outcome : Except Violation Nat} (hpath : Scan.Path text (Parser.scan {}) told last)
    (hend : last.Ends text outcome) :
    (Parser.parse {} (.text text) {}).Shows told last outcome :=
  parse_shows rfl (Input.carries_text text) (Options.bufferSizeFor_text_pos text) hpath hend

theorem drawing_shows [Encoding.Registry] (d : Drawing) :
    ∃ last, (Parser.parse {} (.text d.text) {}).Shows (d.toldIn d.text) last
      (.ok d.sentences.length) := by
  have hdrawing := Parser.arrives_drawing {} d []
  rw [List.append_nil] at hdrawing
  obtain ⟨last, hpath, hend⟩ := hdrawing.finish
  exact ⟨last, text_shows hpath hend⟩

/-- A text is accepted if it never starts a drawing, or if it is a drawing. The commands and
diagnostics are those of the drawing, in order and with their places, and the result is the number
of its sentences. -/
theorem parse_ok_iff_grammar [Encoding.Registry] (text : List Char) (n : Nat)
    (commands : List (Command × Location)) (diagnostics : List (Diagnostic × Location)) :
    let report := Parser.parse {} (.text text) {}
    report.outcome = .ok n ∧ Notice.commands report.trace = commands ∧
        Notice.diagnostics report.trace = diagnostics ↔
      (Text.WithoutInit text ∧ n = 0 ∧ commands = [] ∧
          diagnostics = [(.noInit, .ofOffset text text.length)]) ∨
        ∃ d : Drawing, d.text = text ∧ n = d.sentences.length ∧
          commands = Notice.commands (d.toldIn text) ∧
          diagnostics = Notice.diagnostics (d.toldIn text) := by
  intro report
  constructor
  · rintro ⟨hok, rfl, rfl⟩
    obtain ⟨told, last, outcome, hpath, hend, hshows⟩ := exists_text_path text
    obtain rfl := hshows.outcome_ok.mp hok
    have hexplained := hpath.explained rfl rfl rfl
    rw [hshows.commands, hshows.diagnostics]
    cases hend with
    | finished hfinished =>
        rcases hexplained.finished hfinished with ⟨habsent, hcount, rfl⟩ | ⟨d, htext, hcount, rfl⟩
        · exact Or.inl ⟨habsent, hcount, rfl, rfl⟩
        · exact Or.inr ⟨d, htext, hcount, rfl, rfl⟩
  · rintro (⟨habsent, rfl, rfl, rfl⟩ | ⟨d, rfl, rfl, rfl, rfl⟩)
    · obtain ⟨last, hpath, hend⟩ := (Parser.arrives_absent {} habsent).finish
      have hshows := text_shows hpath hend
      exact ⟨hshows.outcome_ok.mpr rfl, hshows.commands, hshows.diagnostics⟩
    · obtain ⟨last, hshows⟩ := drawing_shows d
      exact ⟨hshows.outcome_ok.mpr rfl, hshows.commands, hshows.diagnostics⟩

end Parser

end PlotStream
