import PlotStream.Proofs.FailingSource

/-!
Which operation code is on record. The place of a code is put on record when its first character is
loaded and the code itself when it is complete; no other step touches either. So within a sentence
the record is about that sentence, and up to the terminator of the first command it is what the
parser brought along: the first command is found without reading an operation code.
-/

namespace PlotStream

/-- A sentence begins with its operation code. -/
theorem Sentence.two_le_length (sentence : Sentence) : 2 ≤ sentence.text.length := by
  cases sentence with
  | plain verb gap => cases verb <;> simp [text, Verb.code]
  | foreign other => simp [text, Foreign.code]
  | _ => simp [text]

namespace Scan

variable {text : List Char} {begun : Option (List Char) × Option Location} {s next : Scan}
  {notice : Option Notice} {told : List Notice}

/-- The two fields that outlive a parse. -/
def remembered (s : Scan) : Option (List Char) × Option Location :=
  (s.opcode, s.opcodePlace)

/-- A move that leaves the record alone. -/
def Move.KeepsCode (s : Scan) : Move → Prop
  | .moved next _ => next.remembered = s.remembered
  | _ => True

theorem afterBlanks_keepsCode (view : View) {due : Due} (hdue : due ≠ .opcode) :
    (s.afterBlanks view due).KeepsCode s := by
  cases due with
  | opcode => exact absurd rfl hdue
  | terminator c =>
      rw [afterBlanks]
      split
      · exact rfl
      · trivial
  | optionalPen =>
      rw [afterBlanks]
      split
      · exact rfl
      · exact rfl
  | integer slot =>
      rw [afterBlanks]
      split
      · exact rfl
      · exact rfl
  | separator x =>
      rw [afterBlanks]
      split
      · exact rfl
      · trivial

/-- Only the two steps that read an operation code change the record. -/
theorem step_keepsCode (text : List Char) (hblanks : s.phase ≠ .blanks .opcode)
    (hdispatch : ∀ start, s.phase ≠ .dispatch start) : (s.step text).KeepsCode s := by
  rw [step, react]
  cases hphase : s.phase with
  | preamble previous =>
      dsimp only
      split
      · exact rfl
      split
      · exact rfl
      · exact rfl
  | blanks due =>
      have hdue : due ≠ .opcode := by
        rintro rfl
        exact hblanks hphase
      dsimp only
      split
      · exact rfl
      · exact afterBlanks_keepsCode _ hdue
  | secondLetter start => exact rfl
  | dispatch start => exact absurd hphase (hdispatch start)
  | leadingDigit slot start =>
      dsimp only
      split
      · exact rfl
      split
      · exact rfl
      · trivial
  | digits slot start count =>
      dsimp only
      split
      · trivial
      split
      · exact rfl
      · exact rfl
  | literal slot start =>
      dsimp only
      split
      · exact rfl
      · trivial
  | closing c => exact rfl
  | skipping code start =>
      dsimp only
      split
      · exact rfl
      split
      · trivial
      · exact rfl
  | skipped code start => exact rfl

/-- The record is about the sentence that begins at `base`. As long as the code is still to be
counted it is not complete. -/
structure OnRecord (text : List Char) (base owed : Nat) (s : Scan) : Prop where
  place : s.opcodePlace = some (.ofOffset text base)
  code : owed = 0 → s.opcode = some ((text.drop base).take 2)

/-- What is on record, given what was on record to begin with. -/
inductive Dispatches (text : List Char) (begun : Option (List Char) × Option Location) (s : Scan) :
    List Notice → Prop where
  /-- The first command has not been told yet. -/
  | before (hexplained : s.Explained text []) (hsame : s.remembered = begun) :
      Dispatches text begun s []
  | between {told : List Notice} (hexplained : s.Explained text told)
      (hphase : s.phase = .blanks .opcode) : Dispatches text begun s told
  | within {d : Drawing} {owed : Nat} {read rest : List Char}
      (hphase : s.phase.Within text d.text.length owed read rest)
      (hsplits : s.Splits text (d.text ++ read) rest)
      (hcount : s.count + owed = d.sentences.length + 1)
      (hrecord : s.OnRecord text d.text.length owed) : Dispatches text begun s (d.toldIn text)

theorem Dispatches.explained (h : s.Dispatches text begun told) : s.Explained text told := by
  cases h with
  | before hexplained _ => exact hexplained
  | between hexplained _ => exact hexplained
  | within hphase hsplits hcount _ => exact .within hphase hsplits hcount

/-- The step that completes an operation code puts it on record. -/
theorem OnRecord.dispatch {base owed : Nat} {start : Location} (h : s.OnRecord text base 1)
    (hphase : s.phase = .dispatch start) (htoken : (s.view text).token = (text.drop base).take 2)
    (hmove : s.step text = .moved next notice) : next.OnRecord text base owed := by
  rw [step, react, hphase] at hmove
  simp only [become, Move.moved.injEq] at hmove
  obtain ⟨rfl, rfl⟩ := hmove
  exact ⟨h.place, fun _ => congrArg some htoken⟩

end Scan

/-- Within a sentence the code is complete, or being completed, or has a character to go. -/
theorem Phase.Within.cases_code {text : List Char} {base owed : Nat} {phase : Phase}
    {read rest : List Char} (h : phase.Within text base owed read rest) :
    phase = .dispatch (.ofOffset text base) ∧ owed = 1 ∧ (read ++ rest).take 2 = read ∨
      phase ≠ .blanks .opcode ∧ (∀ start, phase ≠ .dispatch start) ∧
        (owed = 0 ∨ phase = .secondLetter (.ofOffset text base)) := by
  cases h with
  | letter ha => exact Or.inr ⟨by simp, by simp, Or.inr rfl⟩
  | code ha => exact Or.inl ⟨rfl, rfl, rfl⟩
  | torn ha => exact Or.inl ⟨rfl, rfl, rfl⟩
  | @arguments due read rest hread =>
      have hdue : due ≠ .opcode := by
        rintro rfl
        exact hread.elim
      exact Or.inr ⟨by simpa using hdue, by simp, Or.inl rfl⟩
  | _ => exact Or.inr ⟨by simp, by simp, Or.inl rfl⟩

namespace Scan

variable {text : List Char} {begun : Option (List Char) × Option Location} {s next : Scan}
  {notice : Option Notice} {told : List Notice}

/-- A step within a sentence keeps the record about it. -/
theorem OnRecord.step {d : Drawing} {owed owed' : Nat} {read rest read' rest' : List Char}
    (h : s.OnRecord text d.text.length owed)
    (hphase : s.phase.Within text d.text.length owed read rest)
    (hsplits : s.Splits text (d.text ++ read) rest) (hmove : s.step text = .moved next notice)
    (hphase' : next.phase.Within text d.text.length owed' read' rest') :
    next.OnRecord text d.text.length owed' := by
  rcases hphase.cases_code with ⟨hdispatch, rfl, htake⟩ | ⟨hblanks, hother, howed⟩
  · refine h.dispatch hdispatch ?_ hmove
    have hmark : s.phase.mark = some d.text.length := by
      rw [hdispatch]
      exact mark_ofOffset text rfl rfl
    have hbehind : text.drop d.text.length = read ++ rest := by
      rw [hsplits.whole, List.append_assoc, List.drop_left]
    rw [hsplits.token hmark, hbehind, htake]
  · have hkeeps := step_keepsCode text hblanks hother
    rw [hmove] at hkeeps
    obtain ⟨hcode, hplace⟩ := Prod.mk.inj hkeeps
    refine ⟨hplace.trans h.place, ?_⟩
    intro hnone
    rcases howed with rfl | hletter
    · exact hcode.trans (h.code rfl)
    · -- Behind the first letter the code is not counted yet.
      rw [Scan.step, react, hletter] at hmove
      simp only [advance, Move.moved.injEq] at hmove
      obtain ⟨rfl, rfl⟩ := hmove
      cases hphase' with
      | code _ => cases hnone
      | torn _ => cases hnone

/-- Behind the first letter of a code its place is on record, if the scan has put it there. -/
theorem Explained.dispatches_letter {place : Location} (h : s.Explained text told)
    (hletter : s.phase = .secondLetter place) (hplace : s.opcodePlace = some place) :
    s.Dispatches text begun told := by
  cases h with
  | searching hphase _ _ _ => simp [hletter] at hphase
  | absent hphase _ _ _ => simp [hletter] at hphase
  | opening hphase _ _ _ => simp [hletter] at hphase
  | opened hphase _ _ _ => simp [hletter] at hphase
  | between hphase _ _ => simp [hletter] at hphase
  | within hphase hsplits hcount =>
      refine .within hphase hsplits hcount ?_
      rw [hletter] at hphase
      cases hphase with
      | letter _ => exact ⟨hplace, fun hnone => nomatch hnone⟩

theorem Dispatches.step_between (hexplained : s.Explained text told)
    (hphase : s.phase = .blanks .opcode) (hmove : s.step text = .moved next notice) :
    next.Dispatches text begun (told ++ notice.toList) := by
  have hnext := hexplained.step hmove
  rw [Scan.step, react, hphase] at hmove
  dsimp only at hmove
  split at hmove
  · rw [advance, Move.moved.injEq] at hmove
    obtain ⟨rfl, rfl⟩ := hmove
    exact .between hnext rfl
  · simp only [afterBlanks] at hmove
    split at hmove
    · cases hmove
    · rw [advance, Move.moved.injEq] at hmove
      obtain ⟨rfl, rfl⟩ := hmove
      exact hnext.dispatches_letter rfl rfl

/-- Before the first command has been told no operation code is read. -/
theorem Explained.before_first (h : s.Explained text []) :
    s.phase ≠ .blanks .opcode ∧ ∀ start, s.phase ≠ .dispatch start := by
  generalize htold : ([] : List Notice) = told at h
  cases h with
  | searching hphase _ _ _ => simp [hphase]
  | absent _ _ _ _ => cases htold
  | opening hphase _ _ _ => simp [hphase]
  | opened hphase _ _ _ => simp [hphase]
  | between _ _ _ => cases htold
  | within _ _ _ => cases htold

/-- A step that tells something goes on with the next operation code. -/
theorem eq_of_tell {n : Notice} (hmove : s.step text = .moved next (some n)) :
    next = { s with phase := .blanks .opcode } := by
  rcases tell_cases hmove with ⟨previous, hphase, hnone, rfl⟩ | ⟨c, hphase, rfl⟩ |
    ⟨code, start, hphase, rfl⟩
  · rw [Scan.step, react, hphase] at hmove
    simp only [hnone, reduceCtorEq, and_false, if_false, if_true, tell, Move.moved.injEq] at hmove
    exact hmove.1.symm
  · rw [Scan.step, react, hphase] at hmove
    simp only [tell, Move.moved.injEq] at hmove
    exact hmove.1.symm
  · rw [Scan.step, react, hphase] at hmove
    simp only [tell, Move.moved.injEq] at hmove
    exact hmove.1.symm

/-- The record is kept up by every step. -/
theorem Dispatches.step (h : s.Dispatches text begun told)
    (hmove : s.step text = .moved next notice) :
    next.Dispatches text begun (told ++ notice.toList) := by
  have hnext := h.explained.step hmove
  cases h with
  | before hexplained hsame =>
      cases notice with
      | none =>
          obtain ⟨hblanks, hdispatch⟩ := hexplained.before_first
          have hkeeps := step_keepsCode text hblanks hdispatch
          rw [hmove] at hkeeps
          exact .before hnext (Eq.trans hkeeps hsame)
      | some n =>
          rw [eq_of_tell hmove] at hnext ⊢
          exact .between hnext rfl
  | between hexplained hphase => exact step_between hexplained hphase hmove
  | within hphase hsplits hcount hrecord =>
      have hgoes := within_goesOn hphase hsplits hcount hmove
      cases hgoes with
      | within hphase' hsplits' hcount' =>
          rw [Option.toList_none, List.append_nil]
          exact .within hphase' hsplits' hcount' (hrecord.step hphase hsplits hmove hphase')
      | behind hphase' _ _ => exact .between hnext hphase'

theorem Path.dispatches {last : Scan} (h : Path text s told last)
    (hphase : s.phase = .preamble none) (hoffset : s.offset = 0) (hcount : s.count = 0) :
    last.Dispatches text s.remembered told := by
  have hexplained : s.Explained text [] := (Path.refl s).explained hphase hoffset hcount
  exact h.preserves (.before hexplained rfl) Dispatches.step

/-- The first command is told with the record as it was; every other command is told with the
record of its sentence. -/
theorem Dispatches.tell_command (h : s.Dispatches text begun told) {c : Command} {place : Location}
    (hmove : s.step text = .moved next (some (.command c place))) :
    (told = [] ∧ next.remembered = begun) ∨
      ∃ (d : Drawing) (sentence : Sentence) (rest : List Char),
        text = d.text ++ sentence.text ++ rest ∧ told = d.toldIn text ∧
          sentence.meaning = .ok c ∧ place = .ofOffset text (d.text ++ sentence.text).length ∧
          next.opcode = some (sentence.text.take 2) ∧
          next.opcodePlace = some (.ofOffset text d.text.length) := by
  rw [eq_of_tell hmove]
  rcases tell_cases hmove with ⟨_, _, _, hnotice⟩ | ⟨c', hphase, hnotice⟩ | ⟨_, _, _, hnotice⟩
  · cases hnotice
  · obtain ⟨rfl, rfl⟩ := Notice.command.inj hnotice
    cases h with
    | before _ hsame => exact Or.inl ⟨rfl, hsame⟩
    | between _ hother => rw [hphase] at hother; cases hother
    | @within d owed read rest hwithin hsplits _ hrecord =>
        rw [hphase] at hwithin
        cases hwithin with
        | @closing _ sentence _ hmeaning =>
            refine Or.inr ⟨d, sentence, rest, hsplits.whole, rfl, hmeaning, hsplits.place, ?_,
              hrecord.place⟩
            have hbehind : text.drop d.text.length = sentence.text ++ rest := by
              rw [hsplits.whole, List.append_assoc, List.drop_left]
            have hcode := hrecord.code rfl
            rw [hbehind, List.take_append_of_le_length sentence.two_le_length] at hcode
            exact hcode
  · cases hnotice

end Scan

end PlotStream
