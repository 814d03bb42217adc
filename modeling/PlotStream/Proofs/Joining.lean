import PlotStream.Proofs.Acceptance
import PlotStream.Proofs.Shift

/-!
Texts joined end to end. Between two commands a parse remembers nothing of the text but how many
commands it has counted. So what follows a drawing is decoded as it would be behind any other
drawing, and in particular behind the shortest one, which is a first command and nothing else.
-/

namespace PlotStream

/-- The shortest drawing. -/
def Drawing.least : Drawing where
  preamble := []
  first := by
    intro hinit
    have hle := hinit.length_le
    simp at hle
  opening := .empty
  sentences := []
  closing := .empty

theorem Drawing.text_least : Drawing.least.text = ['I', 'N', ';'] := rfl

namespace Scan

/-- The scan of a text that begins between two commands. -/
def between : Scan := { phase := .blanks .opcode }

theorem resume_between {earlier : Scan} (hphase : earlier.phase = .blanks .opcode)
    (f : Location → Location) : earlier.resume f between = earlier := by
  obtain ⟨offset, phase, count, opcode, opcodePlace⟩ := earlier
  obtain rfl : phase = .blanks .opcode := hphase
  cases opcode <;> cases opcodePlace <;> rfl

/-- Where a parse stands between two commands, the rest of the text decides how it goes on. -/
theorem Arrives.splits_end {text read rest : List Char} {start last : Scan}
    {told all : List Notice} {count : Nat} {outcome : Except Violation Nat}
    (h : Arrives text start told (.blanks .opcode) count read rest)
    (hall : Path text start all last) (hend : last.Ends text outcome) :
    ∃ more final ending, Path rest between more final ∧ final.Ends rest ending ∧
      all = told ++ more.map (Notice.mapPlace (.behind read rest)) ∧
      outcome = endAfter count (.behind read rest) ending := by
  obtain ⟨earlier, hpath, hphase, rfl, hsplits⟩ := h
  obtain rfl := hsplits.whole
  obtain ⟨later, rfl, hlater⟩ := hpath.continues hall hend
  rw [← resume_between hphase (.behind read rest)] at hlater
  obtain ⟨more, final, hmore, rfl, rfl⟩ := hlater.exists_resumed hsplits.offset
  obtain ⟨ending, hending, rfl⟩ := hend.exists_resumed hsplits.offset
  exact ⟨more, final, ending, hmore, hending, rfl, rfl⟩

end Scan

/-- The account of a drawing and of what is decoded behind it. -/
def Drawing.toldBefore (d : Drawing) (rest : List Char) (more : List Notice) : List Notice :=
  d.toldIn (d.text ++ rest) ++ more.map (Notice.mapPlace (.behind d.text rest))

namespace Drawing

variable (d : Drawing) (text rest : List Char) (more : List Notice)

theorem commands_toldBefore :
    (Notice.commands (d.toldBefore rest more)).map Prod.fst =
      (Notice.commands (d.toldIn text)).map Prod.fst ++ (Notice.commands more).map Prod.fst := by
  have hdrawing := (d.commands_toldIn (d.text ++ rest)).trans (d.commands_toldIn text).symm
  have hmore := Notice.commands_mapPlace (.behind d.text rest) more
  rw [toldBefore, Notice.commands_append, List.map_append, hdrawing, hmore, List.map_map]
  rfl

theorem diagnostics_toldBefore :
    (Notice.diagnostics (d.toldBefore rest more)).map Prod.fst =
      (Notice.diagnostics (d.toldIn text)).map Prod.fst ++
        (Notice.diagnostics more).map Prod.fst := by
  have hdrawing := (d.diagnostics_toldIn (d.text ++ rest)).trans (d.diagnostics_toldIn text).symm
  have hmore := Notice.diagnostics_mapPlace (.behind d.text rest) more
  rw [toldBefore, Notice.diagnostics_append, List.map_append, hdrawing, hmore, List.map_map]
  rfl

end Drawing

namespace Parser

/-- What a parse shows of a drawing with something behind it: the drawing, and what a parse of the
rest alone would go on with. -/
theorem exists_shown_behind [Encoding.Registry] (d : Drawing) (rest : List Char) :
    ∃ more final ending last, Scan.Path rest .between more final ∧ final.Ends rest ending ∧
      (Parser.parse {} (.text (d.text ++ rest)) {}).Shows
        (d.toldBefore rest more) last
        (Scan.endAfter d.sentences.length (.behind d.text rest) ending) := by
  obtain ⟨all, last, outcome, hall, hend, hshows⟩ := exists_text_path (d.text ++ rest)
  obtain ⟨more, final, ending, hmore, hending, rfl, rfl⟩ :=
    (arrives_drawing {} d rest).splits_end hall hend
  exact ⟨more, final, ending, last, hmore, hending, hshows⟩

/-- A text that is accepted and starts a drawing is one. -/
theorem exists_drawing_of_ok [Encoding.Registry] {text : List Char} {n : Nat}
    (hinit : ['I', 'N'] <:+: text) (hok : (Parser.parse {} (.text text) {}).outcome = .ok n) :
    ∃ d : Drawing, d.text = text ∧ n = d.sentences.length ∧
      Notice.commands (Parser.parse {} (.text text) {}).trace = Notice.commands (d.toldIn text) ∧
      Notice.diagnostics (Parser.parse {} (.text text) {}).trace =
        Notice.diagnostics (d.toldIn text) := by
  obtain ⟨told, last, outcome, hpath, hend, hshows⟩ := exists_text_path text
  obtain rfl := hshows.outcome_ok.mp hok
  cases hend with
  | finished hfinished =>
      rcases (hpath.explained rfl rfl rfl).finished hfinished with
        ⟨habsent, _, _⟩ | ⟨d, htext, hcount, rfl⟩
      · exact absurd hinit habsent
      · exact ⟨d, htext, hcount, hshows.commands, hshows.diagnostics⟩

/-- Behind an accepted drawing a text is decoded as behind a first command that stands alone: the
commands and the diagnostics are appended, the counts are added, and a violation is found at the
same character. -/
theorem parse_append_joins [Encoding.Registry] (text more : List Char) {n : Nat}
    (hinit : ['I', 'N'] <:+: text) (hok : (Parser.parse {} (.text text) {}).outcome = .ok n) :
    let report := Parser.parse {} (.text text) {}
    let rest := Parser.parse {} (.text (['I', 'N', ';'] ++ more)) {}
    let joined := Parser.parse {} (.text (text ++ more)) {}
    (∃ commands, (Notice.commands rest.trace).map Prod.fst = .init :: commands ∧
        (Notice.commands joined.trace).map Prod.fst =
          (Notice.commands report.trace).map Prod.fst ++ commands) ∧
      (Notice.diagnostics joined.trace).map Prod.fst =
        (Notice.diagnostics report.trace).map Prod.fst ++
          (Notice.diagnostics rest.trace).map Prod.fst ∧
      (∀ k, joined.outcome = .ok k ↔ ∃ m, rest.outcome = .ok m ∧ k = n + m) ∧
      ∀ violation : Violation, rest.outcome = .error (.violation violation) →
        ∃ violation' : Violation, joined.outcome = .error (.violation violation') ∧
          violation'.expected = violation.expected ∧
          violation'.place.offset = violation.place.offset + text.length - 3 := by
  intro report rest joined
  obtain ⟨d, rfl, rfl, hcommands, hdiagnostics⟩ := exists_drawing_of_ok hinit hok
  obtain ⟨told, final, ending, last, hpath, hend, hjoined⟩ := exists_shown_behind d more
  obtain ⟨told', final', ending', last', hpath', hend', hrest⟩ :=
    exists_shown_behind .least more
  obtain ⟨rfl, rfl⟩ := hpath.unique hend hpath' hend'
  obtain rfl := hend.unique hend'
  replace hrest : rest.Shows _ _ _ := hrest
  replace hjoined : joined.Shows _ _ _ := hjoined
  have hleast := Drawing.commands_toldBefore .least Drawing.least.text more told
  refine ⟨⟨(Notice.commands told).map Prod.fst, ?_, ?_⟩, ?_, ?_, ?_⟩
  · rw [hrest.commands]
    exact hleast
  · rw [hjoined.commands, hcommands]
    exact d.commands_toldBefore d.text more told
  · have hnone := Drawing.diagnostics_toldBefore .least Drawing.least.text more told
    rw [hjoined.diagnostics, hdiagnostics, d.diagnostics_toldBefore d.text more told,
      hrest.diagnostics, hnone]
    rfl
  · intro k
    rw [hjoined.outcome_ok]
    simp only [hrest.outcome_ok]
    cases ending with
    | ok count => simp [Scan.endAfter, Drawing.least, eq_comm]
    | error violation => simp [Scan.endAfter]
  · intro violation hviolation
    rw [hrest.outcome_violation] at hviolation
    cases ending with
    | ok count => cases hviolation
    | error found =>
        obtain rfl := Except.error.inj hviolation
        refine ⟨found.mapPlace (.behind d.text more), hjoined.outcome_violation.mpr rfl, rfl, ?_⟩
        simp only [Violation.mapPlace, Location.behind, Location.ofOffset, Drawing.text_least,
          List.length_cons, List.length_nil]
        omega

/-- Behind a drawing that ends in a blank comes a command that is not supported. -/
theorem parse_append_joins_foreign :
    let text := ['I', 'N', ';', 'P', 'U', ';', ' ']
    let more := ['X', 'Y', 'Z', ';', 'P', 'D', ';']
    let joined := Parser.parse {} (.text (text ++ more)) {}
    ['I', 'N'] <:+: text ∧ (Parser.parse {} (.text text) {}).outcome = .ok 1 ∧
      (Notice.commands joined.trace).map Prod.fst = [.init, .penUp, .penDown] ∧
      (Notice.diagnostics joined.trace).map Prod.fst = [.unsupported ['X', 'Y']] ∧
      joined.outcome = .ok 3 := by
  intro text more joined
  let drawn : Drawing := { Drawing.least with
    sentences := [(.empty, .plain .penUp .empty)]
    closing := Gap.empty.snoc ' ' (by decide) }
  let other : Foreign := ⟨'X', 'Y', ['Z'], by decide, by decide, by decide⟩
  let behind : Drawing := { Drawing.least with
    sentences := [(.empty, .foreign other), (.empty, .plain .penDown .empty)] }
  have hinit : ['I', 'N'] <:+: text := ⟨[], text.drop 2, rfl⟩
  obtain ⟨_, hdrawn⟩ := drawing_shows drawn
  obtain ⟨_, hbehind⟩ := drawing_shows behind
  have hok : (Parser.parse {} (.text text) {}).outcome = .ok 1 := hdrawn.outcome_ok.mpr rfl
  have hrest : (Parser.parse {} (.text (['I', 'N', ';'] ++ more)) {}).outcome = .ok 2 :=
    hbehind.outcome_ok.mpr rfl
  obtain ⟨⟨commands, hinitial, hcommands⟩, hdiagnostics, houtcome, _⟩ :=
    parse_append_joins text more hinit hok
  have hfirst := congrArg (List.map Prod.fst) hdrawn.commands
  have hsecond := congrArg (List.map Prod.fst) hbehind.commands
  have hnone : (Notice.diagnostics (Parser.parse {} (.text text) {}).trace).map Prod.fst = [] :=
    congrArg (List.map Prod.fst) hdrawn.diagnostics
  have hone := congrArg (List.map Prod.fst) hbehind.diagnostics
  obtain rfl : commands = [.penDown] := (List.cons.inj (hinitial.symm.trans hsecond)).2
  refine ⟨hinit, hok, ?_, ?_, (houtcome 3).mpr ⟨2, hrest, rfl⟩⟩
  · exact hcommands.trans (congrArg (· ++ [Command.penDown]) hfirst)
  · rw [hdiagnostics, hnone, List.nil_append]
    exact hone

end Parser

end PlotStream
