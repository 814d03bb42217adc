import PlotStream.Proofs.Following

/-!
Runs of a machine that follows a scan. A listener is told commands and diagnostics; what the
account holds besides is about reading and never reaches it. With a listener that never refuses,
a run is the path of its scan to the end, so what is shown of paths holds of every parse.
-/

namespace PlotStream

/-- The part of an account that is not about the reading of chunks. -/
def Notice.told (trace : List Notice) : List Notice :=
  trace.filter fun n => !n.aboutReading

theorem Notice.told_cons {notice : Notice} (h : (!notice.aboutReading) = true)
    (more : List Notice) : told (notice :: more) = notice :: told more :=
  List.filter_cons_of_pos h

/-- Commands and diagnostics are read off the account without the notices about reading. -/
theorem Notice.commands_told (trace : List Notice) : commands (told trace) = commands trace := by
  rw [told, commands_filter]
  exact List.filter_eq_self.mpr fun _ _ => rfl

theorem Notice.diagnostics_told (trace : List Notice) :
    diagnostics (told trace) = diagnostics trace := by
  rw [told, diagnostics_filter]
  exact List.filter_eq_self.mpr fun _ _ => rfl

/-- Notices about reading are not for the listener. -/
theorem Listener.hear_aboutReading (listener : Listener) {notice : Notice}
    (h : notice.aboutReading = true) : listener.hear notice = (listener, none) := by
  cases notice <;> simp_all [Notice.aboutReading, Listener.hear]

namespace Machine

variable {m next last : Machine} {listener : Listener} {told : List Notice}

section Unfolding

theorem runFrom_finished (h : m.step = .finished last) :
    m.runFrom listener told =
      ⟨last, listener, (.finished last.count :: told).reverse, .ok last.count⟩ := by
  rw [runFrom]
  split <;> simp_all

theorem runFrom_failed {fault : Fault} (h : m.step = .failed last fault) :
    m.runFrom listener told = ⟨last, listener, told.reverse, .error fault⟩ := by
  rw [runFrom]
  split <;> simp_all

theorem runFrom_moved (h : m.step = .moved next none) :
    m.runFrom listener told = next.runFrom listener told := by
  rw [runFrom]
  split <;> simp_all

theorem runFrom_heard {notice : Notice} {after : Listener}
    (h : m.step = .moved next (some notice)) (hhear : listener.hear notice = (after, none)) :
    m.runFrom listener told = next.runFrom after (notice :: told) := by
  rw [runFrom]
  split <;> simp_all

theorem runFrom_refused {notice : Notice} {after : Listener} {fault : Fault}
    (h : m.step = .moved next (some notice)) (hhear : listener.hear notice = (after, some fault)) :
    m.runFrom listener told = ⟨next, after, told.reverse, .error fault⟩ := by
  rw [runFrom]
  split <;> simp_all

/-- A step that tells nothing but the progress of reading leaves the listener alone. -/
theorem runFrom_silent {notice : Option Notice} (h : m.step = .moved next notice)
    (hsilent : notice.filter (fun n => !n.aboutReading) = none) (listener : Listener)
    (told : List Notice) :
    ∃ more, Notice.told more = Notice.told told ∧
      m.runFrom listener told = next.runFrom listener more := by
  cases notice with
  | none => exact ⟨told, rfl, runFrom_moved h⟩
  | some notice =>
      have hreading : notice.aboutReading = true := by simpa using hsilent
      refine ⟨notice :: told, ?_, runFrom_heard h (listener.hear_aboutReading hreading)⟩
      simp [Notice.told, hreading]

end Unfolding

end Machine

/-- The scan that a parse begins with, once the first character has been loaded. -/
def Parser.scan (parser : Parser) : Scan :=
  { opcode := parser.opcode, opcodePlace := parser.opcodePlace }

/-- The first step of a parse loads the first character and tells nothing, or the source fails
before it has given any. -/
theorem Parser.first_step (parser : Parser) {reader : Reader} {text : List Char}
    {ending : Option ReadFailure} (hloaded : reader.Loaded text ending 0)
    (hcapture : reader.Captures text none) :
    (∃ next notice, (parser.start reader).step = .moved next notice ∧
        notice.filter (fun n => !n.aboutReading) = none ∧
        next.Follows text ending parser.scan) ∨
      ∃ last cause, (parser.start reader).step = .failed last (.source cause) ∧
        text = [] ∧ ending = some cause ∧ last.SameRecord parser.scan := by
  have hcurrent : reader.current = none := by simpa using hloaded.current
  have hstep : (parser.start reader).step =
      (parser.start reader).advance (.preamble none) := by
    simp [Machine.step, Parser.start, hloaded.running, hcurrent]
  have hkept : reader.advance.1.Captures text none :=
    hcapture.advance hloaded.buffer (by simp)
  rw [hstep, Machine.advance]
  rcases Nat.eq_zero_or_pos text.length with hempty | hpos
  · rcases hloaded.advance_of_eq hempty.symm with ⟨hnone, hspent, hended⟩ | ⟨cause, hcause, hfailed⟩
    · refine Or.inl ⟨{ parser.start reader with
        reader := reader.advance.1, phase := .preamble none }, some (.endOfText 0), ?_, rfl, ?_⟩
      · simp [Parser.start, hended, Intake.failure?, Intake.notice?]
      · exact ⟨⟨rfl, rfl, rfl⟩, Or.inr ⟨hempty.symm, hnone, hspent⟩, hkept,
          by simp [Phase.mark, scan], rfl⟩
    · refine Or.inr ⟨{ parser.start reader with reader := reader.advance.1 }, cause, ?_,
        List.eq_nil_of_length_eq_zero hempty, hcause, rfl, rfl, rfl⟩
      simp [Parser.start, hfailed, Intake.failure?]
  · obtain ⟨hnext, hindex, hfine⟩ := hloaded.advance_of_lt hpos
    refine Or.inl ⟨{ parser.start reader with
      reader := reader.advance.1, phase := .preamble none },
      reader.advance.2.bind Intake.notice?, ?_, ?_, ?_⟩
    · simp [Parser.start, hfine]
    · exact Intake.notice?_aboutReading reader.advance.2
    · exact ⟨⟨rfl, rfl, rfl⟩, Or.inl ⟨hnext, hindex⟩, hkept, by simp [Phase.mark, scan], rfl⟩

/-- The notice with which an account ends. -/
def Notice.closing : Except Violation Nat → List Notice
  | .ok count => [.finished count]
  | .error _ => []

/-- What a report makes known, when a scan has told this much and ended so. -/
structure Report.Shows (report : Report) (told : List Notice) (last : Scan)
    (outcome : Except Violation Nat) : Prop where
  result : report.outcome = outcome.mapError .violation
  told : Notice.told report.trace = told ++ Notice.closing outcome
  opcode : report.parser.opcode = last.opcode
  opcodePlace : report.parser.opcodePlace = last.opcodePlace

namespace Machine.SameRecord

variable {s : Scan} {last : Machine}

/-- What comes of a run that ends as its scan does. -/
theorem finished_shows (h : last.SameRecord s) (listener : Listener) (before : List Notice) :
    (Report.ofRun ⟨last, listener, (.finished last.count :: before).reverse,
      .ok last.count⟩).Shows (Notice.told before).reverse s (.ok s.count) where
  result := congrArg Except.ok h.count
  told := by simp [Report.ofRun, Notice.told, Notice.closing, Notice.aboutReading, h.count]
  opcode := h.opcode
  opcodePlace := h.opcodePlace

theorem failed_shows (h : last.SameRecord s) (violation : Violation) (listener : Listener)
    (before : List Notice) :
    (Report.ofRun ⟨last, listener, before.reverse, .error (.violation violation)⟩).Shows
      (Notice.told before).reverse s (.error violation) where
  result := rfl
  told := by simp [Report.ofRun, Notice.told, Notice.closing]
  opcode := h.opcode
  opcodePlace := h.opcodePlace

end Machine.SameRecord

theorem Listener.hear_quiet (notice : Notice) : Listener.hear {} notice = ({}, none) := by
  cases notice <;> rfl

/-- How a run ends that follows a scan: as the scan does, or because the source fails when the scan
goes on to the end of the text. -/
inductive Run.Follows (text : List Char) (ending : Option ReadFailure) (start : Scan)
    (before : List Notice) (run : Run) : Prop where
  | ended {path : List Notice} {last : Scan} {outcome : Except Violation Nat}
      (hpath : Scan.Path text start path last) (hend : last.Ends text outcome)
      (hshows : (Report.ofRun run).Shows (before ++ path) last outcome)
      (hreader : run.last.reader.At text ending last.offset) :
      Follows text ending start before run
  | broken {path : List Notice} {last next : Scan} {cause : ReadFailure}
      (hending : ending = some cause) (hpath : Scan.Path text start path last)
      (hmove : last.step text = .moved next none) (hoffset : last.offset + 1 = text.length)
      (hnext : next.offset = text.length) (hresult : run.outcome = .error (.source cause))
      (htold : Notice.told run.trace = before ++ path) : Follows text ending start before run

/-- A run whose scan goes on by a step follows that scan from the step on. -/
theorem Run.Follows.of_step {text : List Char} {ending : Option ReadFailure} {s next : Scan}
    {notice : Option Notice} {before : List Notice} {run : Run}
    (hmove : s.step text = .moved next notice)
    (h : run.Follows text ending next (before ++ notice.toList)) :
    run.Follows text ending s before := by
  cases h with
  | ended hpath hend hshows hreader =>
      rw [List.append_assoc] at hshows
      exact .ended (.step hmove hpath) hend hshows hreader
  | broken hending hpath hlast hoffset hnext hresult htold =>
      rw [List.append_assoc] at htold
      exact .broken hending (.step hmove hpath) hlast hoffset hnext hresult htold

/-- With nobody who objects, a run follows the scan of its machine to the end. -/
theorem Machine.Follows.run_follows {text : List Char} {ending : Option ReadFailure} {s : Scan}
    {m : Machine} (h : m.Follows text ending s) (before : List Notice) :
    (m.runFrom {} before).Follows text ending s (Notice.told before).reverse := by
  induction heffort : m.effort using Nat.strongRecOn generalizing m s before with
  | ind effort ih =>
      have hstep := h.step
      generalize hmove : s.step text = move at hstep
      generalize hmachine : m.step = step at hstep
      cases hstep with
      | @moved next next' notice notice' hnext hnotice =>
          have hlt := heffort ▸ Machine.effort_step_lt hmachine
          cases notice with
          | none =>
              obtain ⟨more, hmore, hrun⟩ := Machine.runFrom_silent hmachine hnotice {} before
              apply Run.Follows.of_step hmove
              rw [hrun, ← hmore]
              simpa using ih _ hlt hnext more rfl
          | some told =>
              obtain ⟨rfl, hkept⟩ := Option.filter_eq_some_iff.mp hnotice
              have hquiet := Listener.hear_quiet told
              apply Run.Follows.of_step hmove
              rw [Machine.runFrom_heard hmachine hquiet]
              simpa [Notice.told_cons hkept] using ih _ hlt hnext (told :: before) rfl
      | @broken _ last cause hending hoffset hnext hlast =>
          rw [Machine.runFrom_failed hmachine]
          refine .broken hending (.refl s) hmove hoffset hnext rfl ?_
          simp [Notice.told]
      | @finished last hlast hreader =>
          rw [Machine.runFrom_finished hmachine]
          refine .ended (.refl s) (.finished hmove) ?_ hreader
          rw [List.append_nil]
          exact hlast.finished_shows {} before
      | @failed last violation hlast hreader =>
          rw [Machine.runFrom_failed hmachine]
          refine .ended (.refl s) (.failed hmove) ?_ hreader
          rw [List.append_nil]
          exact hlast.failed_shows violation {} before

/-- An input whose source gives a text has a reader that gives it. -/
theorem Input.reader_of_source [Encoding.Registry] {input : Input} {options : Options}
    {source : Nat → Source} {text : List Char} {ending : Option ReadFailure}
    (hsource : input.source options.encoding = .ok source)
    (hgives : (source (options.bufferSizeFor input).toNat).Gives text ending)
    (hsize : 0 < options.bufferSizeFor input) :
    ∃ reader, input.reader options = .ok reader ∧ reader.Loaded text ending 0 ∧
      reader.Captures text none := by
  refine ⟨_, ?_, Reader.loaded_zero hgives (options.bufferSizeFor input).toNat, rfl, rfl⟩
  simp only [Input.reader, hsource, Reader.ofSource, Int.not_le.mpr hsize, if_false, bind,
    Except.bind]

theorem Input.Carries.reader [Encoding.Registry] {text : List Char} {input : Input}
    {options : Options} (hinput : input.Carries text (options.bufferSizeFor input))
    (hsize : 0 < options.bufferSizeFor input) :
    ∃ reader, input.reader options = .ok reader ∧ reader.Loaded text none 0 ∧
      reader.Captures text none := by
  obtain ⟨source, hsource, hgives⟩ := hinput.source options.encoding
  exact Input.reader_of_source hsource hgives hsize

namespace Parser

/-- Where the lookahead stands when a parse ends, before the reader is given up. -/
def stop [Encoding.Registry] (parser : Parser) (input : Input) (options : Options) :
    Option Location :=
  (input.reader options).toOption.map fun reader =>
    ((parser.start reader).run parser.listener).last.reader.location

/-- The run of a parse follows its scan, unless the source fails before it has given anything. -/
theorem run_follows (parser : Parser) (hquiet : parser.listener = {}) {reader : Reader}
    {text : List Char} {ending : Option ReadFailure} (hloaded : reader.Loaded text ending 0)
    (hcapture : reader.Captures text none) :
    ((parser.start reader).run parser.listener).Follows text ending parser.scan [] ∨
      ∃ last cause, text = [] ∧ ending = some cause ∧
        (parser.start reader).run parser.listener = ⟨last, {}, [], .error (.source cause)⟩ := by
  rw [Machine.run, hquiet]
  rcases parser.first_step hloaded hcapture with
    ⟨next, notice, hstep, hsilent, hnext⟩ | ⟨last, cause, hstep, htext, hending, _⟩
  · obtain ⟨more, hmore, hrun⟩ := Machine.runFrom_silent hstep hsilent {} []
    have hfollows := hnext.run_follows more
    rw [hmore] at hfollows
    rw [hrun]
    exact Or.inl hfollows
  · exact Or.inr ⟨last, cause, htext, hending, Machine.runFrom_failed hstep⟩

theorem parse_of_reader [Encoding.Registry] (parser : Parser) {input : Input} {options : Options}
    {reader : Reader} (hreader : input.reader options = .ok reader) :
    parser.parse input options = .ofRun ((parser.start reader).run parser.listener) := by
  rw [parse, hreader]

/-- Every text has a path to its end. With nobody who objects a parse shows just that, and it stops
where the path does. -/
theorem exists_path_stopped [Encoding.Registry] (parser : Parser) (hquiet : parser.listener = {})
    {text : List Char} {input : Input} {options : Options}
    (hinput : input.Carries text (options.bufferSizeFor input))
    (hsize : 0 < options.bufferSizeFor input) :
    ∃ told last outcome, Scan.Path text parser.scan told last ∧ last.Ends text outcome ∧
      (parser.parse input options).Shows told last outcome ∧
      parser.stop input options = some (.ofOffset text last.offset) := by
  obtain ⟨reader, hreader, hloaded, hcapture⟩ := hinput.reader hsize
  rw [parser.parse_of_reader hreader]
  rcases parser.run_follows hquiet hloaded hcapture with hfollows | ⟨_, _, _, hending, _⟩
  · cases hfollows with
    | ended hpath hend hshows hstopped =>
        refine ⟨_, _, _, hpath, hend, hshows, ?_⟩
        rw [stop, hreader, ← hstopped.location]
        rfl
    | broken hending _ _ _ _ _ _ => cases hending
  · cases hending

theorem exists_path_shown [Encoding.Registry] (parser : Parser) (hquiet : parser.listener = {})
    {text : List Char} {input : Input} {options : Options}
    (hinput : input.Carries text (options.bufferSizeFor input))
    (hsize : 0 < options.bufferSizeFor input) :
    ∃ told last outcome, Scan.Path text parser.scan told last ∧ last.Ends text outcome ∧
      (parser.parse input options).Shows told last outcome := by
  obtain ⟨told, last, outcome, hpath, hend, hshows, _⟩ :=
    parser.exists_path_stopped hquiet hinput hsize
  exact ⟨told, last, outcome, hpath, hend, hshows⟩

/-- The path of a text to its end settles what every parse of it shows. -/
theorem parse_shows [Encoding.Registry] {parser : Parser} (hquiet : parser.listener = {})
    {text : List Char} {input : Input} {options : Options}
    (hinput : input.Carries text (options.bufferSizeFor input))
    (hsize : 0 < options.bufferSizeFor input) {told : List Notice} {last : Scan}
    {outcome : Except Violation Nat} (hpath : Scan.Path text parser.scan told last)
    (hend : last.Ends text outcome) : (parser.parse input options).Shows told last outcome := by
  obtain ⟨told', last', outcome', hpath', hend', hshows⟩ :=
    parser.exists_path_shown hquiet hinput hsize
  obtain ⟨rfl, rfl⟩ := hpath.unique hend hpath' hend'
  obtain rfl := hend.unique hend'
  exact hshows

end Parser

end PlotStream
