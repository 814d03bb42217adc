import PlotStream.Proofs.Acceptance
import PlotStream.Proofs.TextEnd

/-!
A text that goes on only adds to the account. What is told of sentences within the first part is
told again, at the same places, whatever follows. The last sentence of the first part needs a look:
there it is told at the end of the text, and now in front of a character.
-/

namespace PlotStream

namespace Scan

variable {text : List Char} {s last : Scan} {told : List Notice}

/-- The owed sentence is told alike where the text ends and where it goes on. -/
theorem Explained.tell_append (h : s.Explained text told) (hend : s.offset = text.length)
    (more : List Char) {n : Notice} (howes : s.phase.owes = true) (htell : s.step text = s.tell n) :
    s.step (text ++ more) = s.tell n := by
  obtain ⟨read, rest, hsplits⟩ := h.terminator_behind howes
  have hrest : rest = [] := by
    have hlength := congrArg List.length hsplits.whole
    rw [List.length_append, ← hsplits.offset, hend] at hlength
    exact List.eq_nil_of_length_eq_zero (by omega)
  have htext : text = read ++ [';'] := by simpa [hrest] using hsplits.whole
  have hplace : (s.view (text ++ more)).place = (s.view text).place := by
    simp only [view, hend, htext]
    exact (Location.ofOffset_end_congr read (by decide) more).symm
  rw [Scan.step, react] at htell ⊢
  generalize hphase : s.phase = phase at htell howes
  cases phase with
  | closing c =>
      simp only at htell ⊢
      rw [hplace, htell]
  | skipped code start => exact htell
  | _ => cases howes

/-- What a path tells of sentences is told by a path through the longer text, too. -/
theorem Path.append_sentences {start : Scan} (h : Path text start told last)
    (hphase : start.phase = .preamble none) (hoffset : start.offset = 0) (hcount : start.count = 0)
    (more : List Char) :
    ∃ told' last', Path (text ++ more) start told' last' ∧
      Notice.sentences told' = Notice.sentences told := by
  have hexplained := h.explained hphase hoffset hcount
  rcases Nat.lt_or_ge last.offset text.length with hwithin | hend
  · exact ⟨told, last, h.congr (.append hwithin more) (Nat.le_refl _), rfl⟩
  rcases Nat.eq_zero_or_pos text.length with hempty | hpos
  · have hnone := h.sentences_of_idle (hoffset.trans hempty.symm) (by rw [hphase]; rfl)
    exact ⟨[], start, .refl start, hnone.symm⟩
  obtain ⟨before, next, earlier, later, hpath, hbefore, hmove, hnext, hlater, rfl⟩ :=
    h.to_end (by omega) hend
  have hsame : Text.SameThrough before.offset text (text ++ more) := .append (by omega) more
  have hmove' : before.step (text ++ more) = .moved next none := by
    rw [← step_congr (view_congr hsame (Nat.le_refl _)), hmove]
  have hpath' : Path (text ++ more) start earlier next := by
    simpa using (hpath.congr hsame (Nat.le_refl _)).trans (.single hmove')
  rcases hlater.sentences_at_end hnext with hnone | ⟨n, howes, htell, hone⟩
  · refine ⟨earlier, next, hpath', ?_⟩
    rw [Notice.sentences_append, hnone, List.append_nil]
  · have hthere : Path text start earlier next := by
      simpa using hpath.trans (.single hmove)
    have htell' := (hthere.explained hphase hoffset hcount).tell_append hnext more howes htell
    obtain ⟨n', hagain, hkind⟩ := exists_tell_of_owes text howes
    rw [htell, tell, tell, Move.moved.injEq] at hagain
    obtain ⟨_, hn⟩ := hagain
    obtain rfl := Option.some.inj hn
    refine ⟨earlier ++ [n], _, hpath'.trans (.single htell'), ?_⟩
    rw [Notice.sentences_append, Notice.sentences_append, hone]
    simp [Notice.sentences, hkind]

/-- The commands on a path come first in the longer text, however far the path goes. -/
theorem Path.commands_begin {start final : Scan} {all : List Notice}
    {outcome : Except Violation Nat} (h : Path text start told last)
    (hphase : start.phase = .preamble none) (hoffset : start.offset = 0) (hcount : start.count = 0)
    {more : List Char} (hall : Path (text ++ more) start all final)
    (hend : final.Ends (text ++ more) outcome) :
    Notice.commands told <+: Notice.commands all := by
  obtain ⟨told', last', hpath, hsame⟩ := h.append_sentences hphase hoffset hcount more
  obtain ⟨rest, rfl, _⟩ := hpath.continues hall hend
  have hequal : Notice.commands told' = Notice.commands told := by
    rw [← Notice.commands_sentences told', hsame, Notice.commands_sentences]
  rw [Notice.commands_append, hequal]
  exact List.prefix_append _ _

end Scan

namespace Parser

/-- A text that goes on gives the commands of its first part and then more, and likewise for the
commands that are not supported. The places are the same, and it does not matter how either parse
ends. -/
theorem parse_append_extends [Encoding.Registry] (text more : List Char) :
    let report := Parser.parse {} (.text text) {}
    let longer := Parser.parse {} (.text (text ++ more)) {}
    Notice.commands report.trace <+: Notice.commands longer.trace ∧
      (Notice.diagnostics report.trace).filter (fun entry => entry.1.ofSentence) <+:
        (Notice.diagnostics longer.trace).filter (fun entry => entry.1.ofSentence) := by
  intro report longer
  obtain ⟨told, last, outcome, hpath, hend, hshows⟩ := exists_text_path text
  obtain ⟨all, final, _, hall, hfinal, hshows'⟩ := exists_text_path (text ++ more)
  obtain ⟨told', last', hpath', hsame⟩ := hpath.append_sentences rfl rfl rfl more
  obtain ⟨rest, rfl, _⟩ := hpath'.continues hall hfinal
  have hprefix : Notice.sentences told <+: Notice.sentences (told' ++ rest) := by
    rw [Notice.sentences_append, hsame]
    exact List.prefix_append _ _
  constructor
  · have hcommands : Notice.commands (Notice.sentences told) <+:
        Notice.commands (Notice.sentences (told' ++ rest)) := hprefix.filterMap _
    rwa [Notice.commands_sentences, Notice.commands_sentences, ← hshows.commands,
      ← hshows'.commands] at hcommands
  · have hdiagnostics : Notice.diagnostics (Notice.sentences told) <+:
        Notice.diagnostics (Notice.sentences (told' ++ rest)) := hprefix.filterMap _
    rwa [Notice.diagnostics_sentences, Notice.diagnostics_sentences, ← hshows.diagnostics,
      ← hshows'.diagnostics] at hdiagnostics

end Parser

end PlotStream
