import PlotStream.Log
import PlotStream.Proofs.Running

/-!
The way a text arrives makes no difference. Two machines that follow one scan are in step with
each other, although one may refill while the other does not. So they tell the same listener the
same, are refused at the same notice, and end alike. Only the progress of reading differs, which
is what debug records are about.
-/

namespace PlotStream

/-- The runs differ at most in what they tell about reading. -/
structure Run.Agrees (run other : Run) : Prop where
  record : run.last.opcode = other.last.opcode ∧ run.last.opcodePlace = other.last.opcodePlace
  listener : run.listener = other.listener
  told : Notice.told run.trace = Notice.told other.trace
  outcome : run.outcome = other.outcome

/-- The reports differ at most in what they tell about reading and in the sizes of requests. -/
structure Report.Agrees (report other : Report) : Prop where
  parser : report.parser = other.parser
  told : Notice.told report.trace = Notice.told other.trace
  outcome : report.outcome = other.outcome

theorem Report.Agrees.commands {report other : Report} (h : report.Agrees other) :
    Notice.commands report.trace = Notice.commands other.trace := by
  rw [← Notice.commands_told, h.told, Notice.commands_told]

theorem Report.Agrees.diagnostics {report other : Report} (h : report.Agrees other) :
    Notice.diagnostics report.trace = Notice.diagnostics other.trace := by
  rw [← Notice.diagnostics_told, h.told, Notice.diagnostics_told]

theorem Run.Agrees.report {run other : Run} (h : run.Agrees other) :
    (Report.ofRun run).Agrees (Report.ofRun other) where
  parser := by simp only [Report.ofRun, Parser.afterRun, h.record, h.listener]
  told := h.told
  outcome := h.outcome

/-- A record for debugging is about reading, and no other record is. -/
theorem Notice.record?_filter (reporting : Reporting) (notice : Notice) :
    (notice.record? reporting).filter (fun record => record.severity ≠ .debug) =
      if (!notice.aboutReading) = true then notice.record? reporting else none := by
  cases notice with
  | command c place => cases hshown : reporting.commands <;> simp [record?, aboutReading, hshown]
  | diagnostic d place =>
      cases hshown : reporting.diagnostics <;> simp [record?, aboutReading, hshown]
  | refilled size offset => simp [record?, aboutReading]
  | endOfText offset => simp [record?, aboutReading]
  | finished count => simp [record?, aboutReading]

theorem Notice.records_told (reporting : Reporting) (trace : List Notice) :
    (records reporting trace).filter (fun record => record.severity ≠ .debug) =
      records reporting (told trace) := by
  simp only [records, told, List.filter_filterMap, List.filterMap_filter, record?_filter]

theorem Notice.told_reverse (trace : List Notice) : told trace.reverse = (told trace).reverse :=
  List.filter_reverse

namespace Machine

variable {text : List Char} {s : Scan} {m m' : Machine}

theorem SameRecord.agree {last last' : Machine} (h : last.SameRecord s) (h' : last'.SameRecord s) :
    last.opcode = last'.opcode ∧ last.opcodePlace = last'.opcodePlace :=
  ⟨h.opcode.trans h'.opcode.symm, h.opcodePlace.trans h'.opcodePlace.symm⟩

/-- Two machines at one scan run alike in front of the same listener. -/
theorem Follows.run_agrees (h : m.Follows text none s) (h' : m'.Follows text none s)
    (listener : Listener) {before before' : List Notice}
    (htold : Notice.told before = Notice.told before') :
    (m.runFrom listener before).Agrees (m'.runFrom listener before') := by
  induction heffort : m.effort using Nat.strongRecOn
    generalizing s m m' listener before before' with
  | ind effort ih =>
      have hstep := h.step
      have hstep' := h'.step
      generalize hmove : s.step text = move at hstep hstep'
      generalize hmachine : m.step = step at hstep
      generalize hmachine' : m'.step = step' at hstep'
      cases hstep with
      | @moved next n noticed notice hnext hnotice =>
          cases hstep' with
          | @moved _ n' _ notice' hnext' hnotice' =>
              have hlt := heffort ▸ Machine.effort_step_lt hmachine
              cases noticed with
              | none =>
                  obtain ⟨more, hmore, hrun⟩ := runFrom_silent hmachine hnotice listener before
                  obtain ⟨more', hmore', hrun'⟩ :=
                    runFrom_silent hmachine' hnotice' listener before'
                  rw [hrun, hrun']
                  exact ih _ hlt hnext hnext' listener (by rw [hmore, hmore', htold]) rfl
              | some told =>
                  obtain ⟨rfl, hkept⟩ := Option.filter_eq_some_iff.mp hnotice
                  obtain ⟨rfl, _⟩ := Option.filter_eq_some_iff.mp hnotice'
                  rcases hhear : listener.hear told with ⟨after, refusal⟩
                  cases refusal with
                  | none =>
                      rw [runFrom_heard hmachine hhear, runFrom_heard hmachine' hhear]
                      refine ih _ hlt hnext hnext' after ?_ rfl
                      rw [Notice.told_cons hkept, Notice.told_cons hkept, htold]
                  | some fault =>
                      rw [runFrom_refused hmachine hhear, runFrom_refused hmachine' hhear]
                      exact {
                        record := hnext.toSameRecord.agree hnext'.toSameRecord
                        listener := rfl
                        told := by simp only [Notice.told_reverse, htold]
                        outcome := rfl }
          | broken hending _ _ _ => cases hending
      | broken hending _ _ _ => cases hending
      | finished hlast _ =>
          cases hstep' with
          | finished hlast' _ =>
              rw [runFrom_finished hmachine, runFrom_finished hmachine']
              have hcount := hlast.count.trans hlast'.count.symm
              exact {
                record := hlast.agree hlast'
                listener := rfl
                told := by
                  rw [Notice.told_reverse, Notice.told_reverse, Notice.told_cons rfl,
                    Notice.told_cons rfl, htold, hcount]
                outcome := by rw [hcount] }
      | failed hlast _ =>
          cases hstep' with
          | failed hlast' _ =>
              rw [runFrom_failed hmachine, runFrom_failed hmachine']
              exact {
                record := hlast.agree hlast'
                listener := rfl
                told := by simp only [Notice.told_reverse, htold]
                outcome := rfl }

end Machine

namespace Parser

/-- Two sources that give the same text are parsed alike. -/
theorem parse_agrees_of_sources [Encoding.Registry] (parser : Parser) {text : List Char}
    {input input' : Input} {options options' : Options} {source source' : Nat → Source}
    (hsource : input.source options.encoding = .ok source)
    (hgives : (source (options.bufferSizeFor input).toNat).Gives text none)
    (hsize : 0 < options.bufferSizeFor input)
    (hsource' : input'.source options'.encoding = .ok source')
    (hgives' : (source' (options'.bufferSizeFor input').toNat).Gives text none)
    (hsize' : 0 < options'.bufferSizeFor input') :
    (parser.parse input options).Agrees (parser.parse input' options') := by
  obtain ⟨reader, hreader, hloaded, hcapture⟩ := Input.reader_of_source hsource hgives hsize
  obtain ⟨reader', hreader', hloaded', hcapture'⟩ := Input.reader_of_source hsource' hgives' hsize'
  rcases parser.first_step hloaded hcapture with
    ⟨next, notice, hstep, hsilent, hnext⟩ | ⟨_, _, _, _, hending, _⟩
  · rcases parser.first_step hloaded' hcapture' with
      ⟨next', notice', hstep', hsilent', hnext'⟩ | ⟨_, _, _, _, hending, _⟩
    · obtain ⟨more, hmore, hrun⟩ := Machine.runFrom_silent hstep hsilent parser.listener []
      obtain ⟨more', hmore', hrun'⟩ := Machine.runFrom_silent hstep' hsilent' parser.listener []
      simp only [parse, hreader, hreader', Machine.run, hrun, hrun']
      exact (hnext.run_agrees hnext' parser.listener (hmore.trans hmore'.symm)).report
    · cases hending
  · cases hending

/-- Whichever two ways a text takes to a parser, the reports agree. -/
theorem parse_agrees [Encoding.Registry] (parser : Parser) {text : List Char} {input input' : Input}
    {options options' : Options} (hinput : input.Carries text (options.bufferSizeFor input))
    (hsize : 0 < options.bufferSizeFor input)
    (hinput' : input'.Carries text (options'.bufferSizeFor input'))
    (hsize' : 0 < options'.bufferSizeFor input') :
    (parser.parse input options).Agrees (parser.parse input' options') := by
  obtain ⟨source, hsource, hgives⟩ := hinput.source options.encoding
  obtain ⟨source', hsource', hgives'⟩ := hinput'.source options'.encoding
  exact parser.parse_agrees_of_sources hsource hgives hsize hsource' hgives' hsize'

/-- However a text is cut on its way and however large the buffer, a parse is the same as when the
text arrives in one piece: the same commands and diagnostics at the same places, the same end,
and the same parser afterwards. The records that may differ are those for debugging. -/
theorem parse_independent_of_delivery [Encoding.Registry] (parser : Parser) {text : List Char}
    {input : Input} {options : Options} (hinput : input.Carries text (options.bufferSizeFor input))
    (hsize : 0 < options.bufferSizeFor input) :
    let report := parser.parse input options
    let whole := parser.parse (.chunks [.text text]) {}
    Notice.commands report.trace = Notice.commands whole.trace ∧
      Notice.diagnostics report.trace = Notice.diagnostics whole.trace ∧
      Notice.told report.trace = Notice.told whole.trace ∧
      report.outcome = whole.outcome ∧
      report.parser = whole.parser ∧
      ∀ reporting : Reporting,
        (Notice.records reporting report.trace).filter (fun r => r.severity ≠ .debug) =
          (Notice.records reporting whole.trace).filter (fun r => r.severity ≠ .debug) := by
  have hwhole := Input.carries_whole text (Options.bufferSizeFor {} (.chunks [.text text]))
  have hagrees := parser.parse_agrees hinput hsize hwhole (Int.natCast_pos.mpr (by decide))
  refine ⟨?_, ?_, hagrees.told, hagrees.outcome, hagrees.parser, fun reporting => ?_⟩
  · rw [← Notice.commands_told, hagrees.told, Notice.commands_told]
  · rw [← Notice.diagnostics_told, hagrees.told, Notice.diagnostics_told]
  · rw [Notice.records_told, hagrees.told, ← Notice.records_told]

/-- Every token of this text is cut somewhere, and the buffer holds a single character. -/
theorem parse_independent_of_delivery_torn :
    let pieces := [['I'], ['N', ';', 'P'], ['A', '-', '1'], ['2', ',', '3', ';', 'X'], ['Y', ';']]
    let torn := Input.chunks (pieces.map .text ++ [.text []])
    let report := Parser.parse {} torn { bufferSize := some 1 }
    let whole := Parser.parse {} (.chunks [.text pieces.flatten]) {}
    0 < Options.bufferSizeFor { bufferSize := some 1 } torn ∧
      torn.Carries pieces.flatten (Options.bufferSizeFor { bufferSize := some 1 } torn) ∧
      Notice.commands report.trace = Notice.commands whole.trace ∧
      Notice.diagnostics report.trace = Notice.diagnostics whole.trace ∧
      report.outcome = whole.outcome ∧ report.parser = whole.parser := by
  intro pieces torn report whole
  have hsize : 0 < Options.bufferSizeFor { bufferSize := some 1 } torn := by decide
  have hcarries : torn.Carries pieces.flatten
      (Options.bufferSizeFor { bufferSize := some 1 } torn) :=
    .chunks (by decide) rfl (Or.inr rfl)
  have hsame := parse_independent_of_delivery {} hcarries hsize
  exact ⟨hsize, hcarries, hsame.1, hsame.2.1, hsame.2.2.2.1, hsame.2.2.2.2.1⟩

end Parser

end PlotStream
