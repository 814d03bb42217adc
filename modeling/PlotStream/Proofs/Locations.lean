import Mathlib.Logic.Relation
import PlotStream.Proofs.Running

/-!
Every place that is ever made known is a place of the text: of one of its characters, or of its
end. The reader counts lines while it loads, so the only invariant to carry is that the places
which a phase remembers were places of the text when they were taken.
-/

namespace PlotStream

/-- The place is that of a character of the text or of its end. A line begins with the character
after a line feed; a line feed at the very end begins no line. -/
def Location.Standard (text : List Char) (place : Location) : Prop :=
  ∃ offset start : Nat,
    let before := text.take (min offset (text.length - 1))
    offset ≤ text.length ∧ place.offset = offset ∧ place.line = 1 + before.count '\n' ∧
      Text.IsLineStart before start ∧ place.column = offset - start + 1

theorem Location.standard_ofOffset {text : List Char} {offset : Nat}
    (h : offset ≤ text.length) : (ofOffset text offset).Standard text :=
  ⟨offset, _, h, rfl, rfl, Text.isLineStart_lineStart _, rfl⟩

/-- The place that a notice is about. -/
def Notice.place? : Notice → Option Location
  | .command _ place => some place
  | .diagnostic _ place => some place
  | _ => none

/-- The place that a phase remembers. -/
def Phase.start? : Phase → Option Location
  | .secondLetter start => some start
  | .dispatch start => some start
  | .leadingDigit _ start => some start
  | .digits _ start _ => some start
  | .literal _ start => some start
  | .skipping _ start => some start
  | .skipped _ start => some start
  | .preamble _ => none
  | .blanks _ => none
  | .closing _ => none

def Notice.Placed (text : List Char) (notice : Notice) : Prop :=
  ∀ place ∈ notice.place?, place.Standard text

theorem Notice.placed_of_aboutReading {text : List Char} {notice : Notice}
    (h : notice.aboutReading = true) : notice.Placed text := by
  cases notice <;> simp_all [aboutReading, Placed, place?]

/-- The place of the last operation code: as it was before the parse, or one of the text. -/
def Location.Recorded (text : List Char) (previous place : Option Location) : Prop :=
  place = previous ∨ ∃ found, place = some found ∧ found.Standard text

namespace Scan

variable {text : List Char} {previous : Option Location} {s : Scan} {phase : Phase}

structure Placed (text : List Char) (previous : Option Location) (s : Scan) : Prop where
  offset_le : s.offset ≤ text.length
  start : ∀ place ∈ s.phase.start?, place.Standard text
  opcodePlace : Location.Recorded text previous s.opcodePlace

inductive Move.Placed (text : List Char) (previous : Option Location) : Move → Prop where
  | moved {next : Scan} {notice : Option Notice} (hnext : next.Placed text previous)
      (hnotice : ∀ n ∈ notice, n.Placed text) : Placed text previous (.moved next notice)
  | finished : Placed text previous .finished
  | failed {violation : Violation} (hplace : violation.place.Standard text) :
      Placed text previous (.failed violation)

namespace Placed

theorem place (h : s.Placed text previous) : (s.view text).place.Standard text :=
  Location.standard_ofOffset h.offset_le

theorem advance (h : s.Placed text previous) (hphase : ∀ place ∈ phase.start?, place.Standard text)
    : (s.advance (s.view text) phase).Placed text previous := by
  refine .moved { h with offset_le := ?_, start := hphase } (by simp)
  have hle := h.offset_le
  by_cases hlt : s.offset < text.length
  · simp only [view, List.getElem?_eq_getElem hlt, Option.isSome_some, if_true]
    omega
  · simpa [view, hlt] using hle

theorem become (h : s.Placed text previous) (hphase : ∀ place ∈ phase.start?, place.Standard text) :
    (s.become phase).Placed text previous :=
  .moved { h with start := hphase } (by simp)

theorem tell (h : s.Placed text previous) {notice : Notice} (hnotice : notice.Placed text) :
    (s.tell notice).Placed text previous := by
  refine .moved { h with start := by simp [Phase.start?] } ?_
  rintro n ⟨⟩
  exact hnotice

theorem afterBlanks (h : s.Placed text previous) (due : Due) :
    (s.afterBlanks (s.view text) due).Placed text previous := by
  have hplace := h.place
  have hblanks (due : Due) : ∀ place ∈ (Phase.blanks due).start?, place.Standard text := by
    simp [Phase.start?]
  have hstart {phase : Phase} (hphase : phase.start? = some (s.view text).place) :
      ∀ place ∈ phase.start?, place.Standard text := by
    rw [hphase]
    rintro place ⟨⟩
    exact hplace
  cases due with
  | opcode =>
      rw [Scan.afterBlanks]
      split
      · exact .finished
      · have hrecorded : Placed text previous { s with opcodePlace := some (s.view text).place } :=
          { h with opcodePlace := Or.inr ⟨_, rfl, hplace⟩ }
        exact hrecorded.advance (hstart rfl)
  | terminator c =>
      rw [Scan.afterBlanks]
      split
      · exact h.advance (by simp [Phase.start?])
      · exact .failed hplace
  | optionalPen =>
      rw [Scan.afterBlanks]
      split
      · exact h.become (hblanks _)
      · exact h.become (hblanks _)
  | integer slot =>
      rw [Scan.afterBlanks]
      split
      · exact h.advance (hstart rfl)
      · exact h.become (hstart rfl)
  | separator x =>
      rw [Scan.afterBlanks]
      split
      · exact h.advance (hblanks _)
      · exact .failed hplace

/-- A step keeps to places of the text. -/
theorem step (h : s.Placed text previous) : (s.step text).Placed text previous := by
  have hplace := h.place
  have hstart := h.start
  rw [Scan.step, react]
  cases hphase : s.phase with
  | preamble before =>
      dsimp only
      split
      · exact h.advance (by simp [Phase.start?])
      split
      · refine h.tell ?_
        rintro place ⟨⟩
        exact hplace
      · exact h.advance (by simp [Phase.start?])
  | blanks due =>
      dsimp only
      split
      · exact h.advance (by simp [Phase.start?])
      · exact h.afterBlanks due
  | secondLetter start =>
      rw [hphase] at hstart
      exact h.advance hstart
  | dispatch start =>
      rw [hphase] at hstart
      have harguments : ∀ place ∈ (Machine.argumentsOf (s.view text).token start).start?,
          place.Standard text := by
        unfold Machine.argumentsOf
        split <;> first | exact hstart | simp [Phase.start?]
      exact .moved { h with start := harguments } (by simp)
  | leadingDigit slot start =>
      rw [hphase] at hstart
      dsimp only
      split
      · exact h.advance hstart
      split
      · exact h.advance hstart
      · exact .failed hplace
  | digits slot start count =>
      rw [hphase] at hstart
      dsimp only
      split
      · exact .failed (hstart start rfl)
      split
      · exact h.advance hstart
      · exact h.become hstart
  | literal slot start =>
      rw [hphase] at hstart
      dsimp only
      split
      · exact h.become (by simp [Phase.start?])
      · exact .failed (hstart start rfl)
  | closing c =>
      refine h.tell ?_
      rintro place ⟨⟩
      exact hplace
  | skipping code start =>
      rw [hphase] at hstart
      dsimp only
      split
      · exact h.advance hstart
      split
      · exact .failed hplace
      · exact h.advance hstart
  | skipped code start =>
      rw [hphase] at hstart
      exact h.tell hstart

/-- What is violated at the end of a path is at a place of the text. -/
theorem violation {told : List Notice} {last : Scan} {violation : Violation}
    (h : s.Placed text previous) (hpath : Path text s told last)
    (hfailed : last.step text = .failed violation) : violation.place.Standard text := by
  induction hpath with
  | refl s =>
      have hmove := h.step
      rw [hfailed] at hmove
      cases hmove with
      | failed hplace => exact hplace
  | step hnext _ ih =>
      have hmove := h.step
      rw [hnext] at hmove
      cases hmove with
      | moved hplaced _ => exact ih hplaced hfailed

end Placed

end Scan

namespace Machine

/-- One step that does not end the parse leads from one machine to the other. -/
def Next (m next : Machine) : Prop :=
  ∃ notice, m.step = .moved next notice

/-- The machines of a parse, from the given one on. -/
def Reaches : Machine → Machine → Prop :=
  Relation.ReflTransGen Next

/-- Every place that a machine shows, now or by its next step, is a place of the text. -/
structure ShowsPlaces (text : List Char) (previous : Option Location) (m : Machine) : Prop where
  lookahead : m.reader.location.Standard text
  opcodePlace : Location.Recorded text previous m.opcodePlace
  told : ∀ {next : Machine} {notice : Notice},
    m.step = .moved next (some notice) → notice.Placed text
  violation : ∀ {last : Machine} {violation : Violation},
    m.step = .failed last (.violation violation) → violation.place.Standard text

variable {text : List Char} {previous : Option Location} {s : Scan} {m m' : Machine}

theorem Follows.showsPlaces (h : m.Follows text none s) (hplaced : s.Placed text previous) :
    m.ShowsPlaces text previous := by
  have hstep := h.step
  have hmove := hplaced.step
  refine ⟨?_, ?_, ?_, ?_⟩
  · rw [h.place]
    exact hplaced.place
  · rw [h.opcodePlace]
    exact hplaced.opcodePlace
  · intro next notice hmachine
    rw [hmachine] at hstep
    generalize s.step text = move at hstep hmove
    cases hstep with
    | @moved _ _ noticed _ _ hnotice =>
        cases hmove with
        | moved _ hnoticed =>
            cases hreading : notice.aboutReading with
            | true => exact Notice.placed_of_aboutReading hreading
            | false =>
                refine hnoticed notice ?_
                rw [← hnotice, Option.filter_some_pos (by simp [hreading])]
                rfl
  · intro last violation hmachine
    rw [hmachine] at hstep
    generalize s.step text = move at hstep hmove
    cases hstep with
    | failed _ =>
        cases hmove with
        | failed hplace => exact hplace

theorem Follows.next (h : m.Follows text none s) (hplaced : s.Placed text previous)
    (hnext : m.Next m') : ∃ s', m'.Follows text none s' ∧ s'.Placed text previous := by
  obtain ⟨notice, hmachine⟩ := hnext
  have hstep := h.step
  have hmove := hplaced.step
  rw [hmachine] at hstep
  generalize s.step text = move at hstep hmove
  cases hstep with
  | moved hfollows _ =>
      cases hmove with
      | moved hkept _ => exact ⟨_, hfollows, hkept⟩

theorem Follows.opcodePlace_of_finished (h : m.Follows text none s)
    (hmachine : m.step = .finished m') : m'.opcodePlace = m.opcodePlace := by
  have hstep := h.step
  rw [hmachine] at hstep
  generalize s.step text = move at hstep
  cases hstep with
  | finished hlast => rw [hlast.opcodePlace, h.opcodePlace]

theorem Follows.opcodePlace_of_failed (h : m.Follows text none s) {fault : Fault}
    (hmachine : m.step = .failed m' fault) : m'.opcodePlace = m.opcodePlace := by
  have hstep := h.step
  rw [hmachine] at hstep
  generalize s.step text = move at hstep
  cases hstep with
  | broken hending _ _ _ => cases hending
  | failed hlast => rw [hlast.opcodePlace, h.opcodePlace]

theorem Follows.reaches (h : m.Follows text none s) (hplaced : s.Placed text previous)
    (hreaches : m.Reaches m') : ∃ s', m'.Follows text none s' ∧ s'.Placed text previous := by
  induction hreaches with
  | refl => exact ⟨s, h, hplaced⟩
  | tail _ hnext ih =>
      obtain ⟨middle, hfollows, hkept⟩ := ih
      exact hfollows.next hkept hnext

end Machine

/-- Every place that a run makes known is a place of the text. -/
structure Run.Placed (text : List Char) (previous : Option Location) (run : Run) : Prop where
  told : ∀ notice ∈ run.trace, notice.Placed text
  violation : ∀ violation : Violation,
    run.outcome = .error (.violation violation) → violation.place.Standard text
  opcodePlace : Location.Recorded text previous run.last.opcodePlace

theorem Listener.hear_not_violation (listener : Listener) (notice : Notice)
    (violation : Violation) : (listener.hear notice).2 ≠ some (.violation violation) := by
  unfold Listener.hear
  split
  · split
    · split
      · dsimp only
        split <;> simp
      · simp
    · simp
  · dsimp only
    split <;> simp
  · simp

theorem Machine.Follows.run_placed {text : List Char} {previous : Option Location} {s : Scan}
    {m : Machine} (h : m.Follows text none s) (hplaced : s.Placed text previous)
    (listener : Listener) {before : List Notice} (hbefore : ∀ n ∈ before, n.Placed text) :
    (m.runFrom listener before).Placed text previous := by
  induction heffort : m.effort using Nat.strongRecOn generalizing s m listener before with
  | ind effort ih =>
      have hshows := h.showsPlaces hplaced
      cases hmachine : m.step with
      | moved next notice =>
          have hlt := heffort ▸ Machine.effort_step_lt hmachine
          obtain ⟨after, hnext, hkept⟩ := h.next hplaced ⟨notice, hmachine⟩
          cases notice with
          | none =>
              rw [runFrom_moved hmachine]
              exact ih _ hlt hnext hkept listener hbefore rfl
          | some notice =>
              rcases hhear : listener.hear notice with ⟨more, refusal⟩
              cases refusal with
              | none =>
                  rw [runFrom_heard hmachine hhear]
                  refine ih _ hlt hnext hkept more ?_ rfl
                  intro n hn
                  rcases List.mem_cons.mp hn with rfl | hn
                  · exact hshows.told hmachine
                  · exact hbefore n hn
              | some fault =>
                  rw [runFrom_refused hmachine hhear]
                  refine ⟨by simpa using hbefore, ?_, ?_⟩
                  · intro violation houtcome
                    obtain rfl : fault = .violation violation := by simpa using houtcome
                    exact absurd (by rw [hhear]) (listener.hear_not_violation notice violation)
                  · rw [hnext.opcodePlace]
                    exact hkept.opcodePlace
      | finished last =>
          rw [runFrom_finished hmachine]
          refine ⟨?_, by simp, ?_⟩
          · intro n hn
            rcases List.mem_cons.mp (List.mem_reverse.mp hn) with rfl | hn
            · simp [Notice.Placed, Notice.place?]
            · exact hbefore n hn
          · rw [h.opcodePlace_of_finished hmachine]
            exact hshows.opcodePlace
      | failed last fault =>
          rw [runFrom_failed hmachine]
          refine ⟨by simpa using hbefore, ?_, ?_⟩
          · intro violation houtcome
            obtain rfl : fault = .violation violation := by simpa using houtcome
            exact hshows.violation hmachine
          · rw [h.opcodePlace_of_failed hmachine]
            exact hshows.opcodePlace

namespace Parser

theorem scan_placed (parser : Parser) (text : List Char) :
    parser.scan.Placed text parser.opcodePlace where
  offset_le := Nat.zero_le _
  start := by simp [scan, Phase.start?]
  opcodePlace := Or.inl rfl

/-- Lines and columns are the usual ones, in whatever pieces a text comes: for every notice, for
the violation that ends the parse, and for the lookahead and the last operation code of every
machine on the way. -/
theorem parse_places_standard [Encoding.Registry] (parser : Parser) {text : List Char}
    {input : Input} {options : Options} (hinput : input.Carries text (options.bufferSizeFor input))
    (hsize : 0 < options.bufferSizeFor input) :
    let report := parser.parse input options
    (∀ notice ∈ report.trace, notice.Placed text) ∧
      (∀ violation : Violation,
        report.outcome = .error (.violation violation) → violation.place.Standard text) ∧
      Location.Recorded text parser.opcodePlace report.parser.opcodePlace ∧
      ∃ reader, input.reader options = .ok reader ∧
        ∀ m, Relation.TransGen Machine.Next (parser.start reader) m →
          m.ShowsPlaces text parser.opcodePlace := by
  intro report
  obtain ⟨reader, hreader, hloaded, hcapture⟩ := hinput.reader hsize
  rcases parser.first_step hloaded hcapture with
    ⟨first, notice, hstep, hsilent, hfirst⟩ | ⟨_, _, _, _, hending, _⟩
  · have hplaced := parser.scan_placed text
    have hrun : report = .ofRun ((parser.start reader).runFrom parser.listener []) := by
      simp only [report, parse, hreader, Machine.run]
    obtain ⟨more, hmore, hquiet⟩ := Machine.runFrom_silent hstep hsilent parser.listener []
    have hnone : ∀ n ∈ more, n.Placed text := by
      intro n hn
      cases hreading : n.aboutReading with
      | true => exact Notice.placed_of_aboutReading hreading
      | false =>
          have htold : n ∈ Notice.told more := List.mem_filter.mpr ⟨hn, by simp [hreading]⟩
          rw [hmore] at htold
          cases htold
    have hshown := hfirst.run_placed hplaced parser.listener hnone
    rw [← hquiet] at hshown
    rw [hrun]
    refine ⟨hshown.told, hshown.violation, hshown.opcodePlace, reader, hreader, ?_⟩
    intro m hreaches
    obtain ⟨next, ⟨told, hnext⟩, hrest⟩ := Relation.TransGen.head'_iff.mp hreaches
    obtain ⟨rfl, rfl⟩ := Step.moved.inj (hstep.symm.trans hnext)
    obtain ⟨s, hfollows, hkept⟩ := hfirst.reaches hplaced hrest
    exact hfollows.showsPlaces hkept
  · cases hending

/-- A text with line feeds in its preamble, between commands and at its end, in pieces of two. -/
theorem parse_places_standard_lines :
    let text := ['X', '\n', 'I', 'N', ';', '\n', '\n', 'P', 'U', ';', '\n']
    let input := Input.limited 2 text
    let options : Options := { bufferSize := some 3 }
    let report := Parser.parse {} input options
    0 < options.bufferSizeFor input ∧ input.Carries text (options.bufferSizeFor input) ∧
      (∀ notice ∈ report.trace, notice.Placed text) ∧
      Location.Recorded text none report.parser.opcodePlace := by
  intro text input options report
  have hsize : 0 < options.bufferSizeFor input := by decide
  have hcarries : input.Carries text (options.bufferSizeFor input) := .limited (by decide)
  have hplaces := parse_places_standard {} hcarries hsize
  exact ⟨hsize, hcarries, hplaces.1, hplaces.2.2.1⟩

end Parser

end PlotStream
