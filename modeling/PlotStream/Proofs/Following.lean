import PlotStream.Parser
import PlotStream.Proofs.ReaderView
import PlotStream.Proofs.Scan

/-!
The machine decodes as a scan of the text that its source gives. A machine follows a scan when
its reader stands at the offset of the scan, keeps the token of its phase, and the rest is equal;
one step of the machine is then one step of the scan. Refills do not show: they tell notices
about reading only.

A source that ends in a failure is followed as well, up to the step that wants the character
behind the last one.
-/

namespace PlotStream

/-- Whether a notice is about the reading of chunks and not about what they hold. -/
def Notice.aboutReading : Notice → Bool
  | .refilled _ _ => true
  | .endOfText _ => true
  | _ => false

/-- What a request has to tell is about reading. -/
theorem Intake.notice?_aboutReading (intake : Option Intake) :
    (intake.bind Intake.notice?).filter (fun n => !n.aboutReading) = none := by
  rcases intake with _ | ⟨_, _⟩ | _ | _ <;> rfl

namespace Machine

/-- The fields that outlive a parse agree. -/
structure SameRecord (s : Scan) (m : Machine) : Prop where
  count : m.count = s.count
  opcode : m.opcode = s.opcode
  opcodePlace : m.opcodePlace = s.opcodePlace

structure Follows (text : List Char) (ending : Option ReadFailure) (s : Scan) (m : Machine) :
    Prop extends SameRecord s m where
  reader : m.reader.At text ending s.offset
  capture : m.reader.Captures text s.phase.mark
  mark_le : ∀ start ∈ s.phase.mark, start ≤ s.offset
  phase : m.phase = s.phase

end Machine

/-- What a step of the machine has to do with the move of the scan `s` that it follows. -/
inductive Step.Follows (text : List Char) (ending : Option ReadFailure) (s : Scan) :
    Scan.Move → Step → Prop where
  | moved {next : Scan} {next' : Machine} {notice notice' : Option Notice}
      (hnext : next'.Follows text ending next)
      (hnotice : notice'.filter (fun n => !n.aboutReading) = notice) :
      Follows text ending s (.moved next notice) (.moved next' notice')
  /-- The scan goes on to the end of the text, where the source fails. -/
  | broken {next : Scan} {last : Machine} {cause : ReadFailure} (hending : ending = some cause)
      (hoffset : s.offset + 1 = text.length) (hnext : next.offset = text.length)
      (hlast : last.SameRecord next) :
      Follows text ending s (.moved next none) (.failed last (.source cause))
  | finished {last : Machine} (hlast : last.SameRecord s)
      (hreader : last.reader.At text ending s.offset) :
      Follows text ending s .finished (.finished last)
  | failed {last : Machine} {violation : Violation} (hlast : last.SameRecord s)
      (hreader : last.reader.At text ending s.offset) :
      Follows text ending s (.failed violation) (.failed last (.violation violation))

theorem Step.Follows.ofOffset {text : List Char} {ending : Option ReadFailure}
    {other next : Scan} {notice : Option Notice} {step : Step}
    (h : Step.Follows text ending other (.moved next notice) step) (s : Scan)
    (hoffset : other.offset = s.offset) :
    Step.Follows text ending s (.moved next notice) step := by
  cases h with
  | moved hnext hnotice => exact .moved hnext hnotice
  | broken hending hlast hnext hrecord => exact .broken hending (hoffset ▸ hlast) hnext hrecord

namespace Machine

variable {text : List Char} {ending : Option ReadFailure} {s : Scan} {m : Machine} {phase : Phase}

namespace Follows

theorem lookahead (h : m.Follows text ending s) :
    m.reader.lookahead = (s.view text).lookahead := h.reader.lookahead

theorem place (h : m.Follows text ending s) : m.reader.location = (s.view text).place :=
  h.reader.location

theorem token (h : m.Follows text ending s) {mark : Nat} (hmark : s.phase.mark = some mark) :
    m.reader.endCapture.1 = (s.view text).token := by
  have hcapture := h.capture
  rw [hmark] at hcapture
  rw [hcapture.endCapture h.reader (h.mark_le mark hmark)]
  simp [Scan.view, Scan.token, hmark]

theorem withPhase (h : m.Follows text ending s) (hmark : phase.mark = s.phase.mark) :
    Follows text ending { s with phase } { m with phase } where
  toSameRecord := { h.toSameRecord with }
  reader := h.reader
  capture := by
    rw [hmark]
    exact h.capture
  mark_le := by
    rw [hmark]
    exact h.mark_le
  phase := rfl

theorem startCapture (h : m.Follows text ending s) (hnone : s.phase.mark = none)
    (hmark : phase.mark = some s.offset) :
    Follows text ending { s with phase } { m with reader := m.reader.startCapture, phase } where
  toSameRecord := { h.toSameRecord with }
  reader := h.reader.startCapture
  capture := by
    have hcapture := h.capture
    rw [hnone] at hcapture
    rw [hmark]
    exact hcapture.startCapture h.reader
  mark_le := by
    rw [hmark]
    rintro start ⟨⟩
    exact Nat.le_refl _
  phase := rfl

theorem endCapture (h : m.Follows text ending s) (hmark : phase.mark = none) :
    Follows text ending { s with phase } { m with reader := m.reader.endCapture.2, phase } where
  toSameRecord := { h.toSameRecord with }
  reader := h.reader.endCapture
  capture := by
    rw [hmark]
    exact Reader.captures_none_endCapture text m.reader
  mark_le := by simp [hmark]
  phase := rfl

/-- Loading a character keeps a machine with its scan, or the source fails at the end. The phase
that the machine comes from does not matter. -/
theorem advanceFrom (h : m.Follows text ending s) (hmark : phase.mark = s.phase.mark)
    (previous : Phase) :
    Step.Follows text ending s (s.advance (s.view text) phase)
      (Machine.advance { m with phase := previous } phase) := by
  have hcapture := h.capture.advance h.reader.buffered fun start hstart =>
    Nat.le_trans (h.mark_le start hstart) h.reader.le_buffer
  have hrecord := h.toSameRecord
  rcases h.reader.advance with ⟨hreader, hfine⟩ | ⟨cause, hending, hoffset, hfailed⟩
  · rw [Machine.advance, hfine]
    refine Step.Follows.moved ?_ ?_
    · exact {
        toSameRecord := { hrecord with }
        reader := hreader
        capture := by
          rw [hmark]
          exact hcapture
        mark_le := by
          rw [hmark]
          intro start hstart
          have hle := h.mark_le start hstart
          dsimp only
          split <;> omega
        phase := rfl }
    · exact Intake.notice?_aboutReading m.reader.advance.2
  · have hsome : (s.view text).lookahead.isSome = true := by
      simp only [Scan.view, List.getElem?_eq_getElem (show s.offset < text.length by omega),
        Option.isSome_some]
    rw [Machine.advance, hfailed, Scan.advance, if_pos hsome]
    exact .broken hending hoffset hoffset { hrecord with }

theorem advance (h : m.Follows text ending s) (hmark : phase.mark = s.phase.mark) :
    Step.Follows text ending s (s.advance (s.view text) phase) (m.advance phase) :=
  h.advanceFrom hmark m.phase

theorem become (h : m.Follows text ending s) (hmark : phase.mark = s.phase.mark) :
    Step.Follows text ending s (s.become phase) (m.become phase) :=
  .moved (h.withPhase hmark) rfl

theorem tell (h : m.Follows text ending s) (hnone : s.phase.mark = none) {notice : Notice}
    (hnotice : notice.aboutReading = false) :
    Step.Follows text ending s (s.tell notice) (m.tell notice) :=
  .moved (h.withPhase hnone.symm) (by simp [hnotice])

theorem reject (h : m.Follows text ending s) (expected : Expectation) :
    Step.Follows text ending s (.failed ⟨expected, (s.view text).place⟩) (m.reject expected) := by
  rw [Machine.reject, h.place]
  exact .failed h.toSameRecord h.reader

theorem afterBlanks (h : m.Follows text ending s) {due : Due} (hphase : s.phase = .blanks due) :
    Step.Follows text ending s (s.afterBlanks (s.view text) due) (m.afterBlanks due) := by
  have hnone : s.phase.mark = none := by rw [hphase]; rfl
  have hmark (slot : Slot) : (Phase.leadingDigit slot (s.view text).place).mark = some s.offset := by
    simp [Phase.mark, Scan.view, Location.ofOffset]
  cases due with
  | opcode =>
      have hexhausted : m.reader.exhausted = (s.view text).lookahead.isNone := h.reader.exhausted
      simp only [Machine.afterBlanks, Scan.afterBlanks, hexhausted, Option.isNone_iff_eq_none,
        h.place]
      split
      · exact .finished h.toSameRecord h.reader
      · have hplaced : Follows text ending { s with opcodePlace := some (s.view text).place }
            { m with opcodePlace := some (s.view text).place } :=
          { h with toSameRecord := { h.toSameRecord with opcodePlace := rfl } }
        have hletter : (Phase.secondLetter (s.view text).place).mark = some s.offset := hmark .pen
        exact ((hplaced.startCapture hnone hletter).advanceFrom rfl m.phase).ofOffset s rfl
  | terminator c =>
      simp only [Machine.afterBlanks, Scan.afterBlanks, h.lookahead]
      split
      · exact h.advance hnone.symm
      · exact h.reject .terminator
  | optionalPen =>
      simp only [Machine.afterBlanks, Scan.afterBlanks, h.lookahead]
      split <;> exact h.become hnone.symm
  | integer slot =>
      simp only [Machine.afterBlanks, Scan.afterBlanks, h.lookahead, h.place]
      have hstarted := h.startCapture hnone (hmark slot)
      split
      · exact (hstarted.advanceFrom rfl m.phase).ofOffset s rfl
      · exact (hstarted.become rfl).ofOffset s rfl
  | separator x =>
      simp only [Machine.afterBlanks, Scan.afterBlanks, h.lookahead]
      split
      · exact h.advance hnone.symm
      · exact h.reject .separator

/-- One step of a machine is one step of the scan that it follows. -/
theorem step (h : m.Follows text ending s) :
    Step.Follows text ending s (s.step text) m.step := by
  have hexhausted : m.reader.exhausted = (s.view text).lookahead.isNone := h.reader.exhausted
  have hcurrent : m.reader.current = (s.view text).lookahead := h.reader.current
  rw [Machine.step, Scan.step, Scan.react, h.phase]
  cases hphase : s.phase with
  | preamble previous =>
      have hnone : s.phase.mark = none := by rw [hphase]; rfl
      simp only [h.lookahead, hexhausted, hcurrent, Option.isNone_iff_eq_none, h.place]
      split
      · exact h.advance hnone.symm
      split
      · exact h.tell hnone rfl
      · exact h.advance hnone.symm
  | blanks due =>
      have hnone : s.phase.mark = none := by rw [hphase]; rfl
      simp only [h.lookahead]
      split
      · exact h.advance hnone.symm
      · exact h.afterBlanks hphase
  | secondLetter start =>
      exact h.advance (by rw [hphase]; rfl)
  | dispatch start =>
      have hmark : s.phase.mark = some start.offset.toNat := by rw [hphase]; rfl
      have hnone : (argumentsOf (s.view text).token start).mark = none := by
        unfold argumentsOf
        split <;> rfl
      change Step.Follows text ending s _ (Machine.become { m with
        reader := m.reader.endCapture.2
        opcode := some m.reader.endCapture.1
        count := m.count + 1 } (argumentsOf m.reader.endCapture.1 start))
      rw [h.token hmark]
      have hended := h.endCapture hnone
      refine .moved { hended with toSameRecord := ?_ } rfl
      exact {
        count := congrArg (· + 1) h.count
        opcode := rfl
        opcodePlace := h.opcodePlace }
  | leadingDigit slot start =>
      simp only [h.lookahead]
      rcases hlook : (s.view text).lookahead with _ | c
      · simp only [reduceCtorEq, if_false, Option.any_none, Bool.false_eq_true]
        exact h.reject .digit
      by_cases hzero : c = '0'
      · subst hzero
        rw [if_pos rfl]
        exact h.advance (by rw [hphase]; rfl)
      · rw [if_neg (by simpa using hzero)]
        simp only [Option.any_some]
        split
        · exact h.advance (by rw [hphase]; rfl)
        · exact h.reject .digit
  | digits slot start count =>
      simp only [h.lookahead]
      split
      · exact .failed { h.toSameRecord with } h.reader.endCapture
      split
      · exact h.advance (by rw [hphase]; rfl)
      · exact h.become (by rw [hphase]; rfl)
  | literal slot start =>
      have hmark : s.phase.mark = some start.offset.toNat := by rw [hphase]; rfl
      have hclose : m.closeLiteral slot start =
          if Numeral.inRange (Numeral.value m.reader.endCapture.1) then
            Machine.become { m with reader := m.reader.endCapture.2 }
              (.blanks (afterInteger slot (Numeral.value m.reader.endCapture.1)))
          else .failed { m with reader := m.reader.endCapture.2 }
            (.violation ⟨.integer m.reader.endCapture.1, start⟩) := rfl
      simp only [hclose, h.token hmark]
      split
      · exact .moved (h.endCapture rfl) rfl
      · exact .failed { h.toSameRecord with } h.reader.endCapture
  | closing c =>
      rw [h.place]
      exact h.tell (by rw [hphase]; rfl) rfl
  | skipping code start =>
      have hnone : s.phase.mark = none := by rw [hphase]; rfl
      simp only [h.lookahead, hexhausted, Option.isNone_iff_eq_none]
      split
      · exact h.advance hnone.symm
      split
      · exact h.reject .terminator
      · exact h.advance hnone.symm
  | skipped code start =>
      exact h.tell (by rw [hphase]; rfl) rfl

end Follows

end Machine

end PlotStream
