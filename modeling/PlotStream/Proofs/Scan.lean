import PlotStream.Machine
import PlotStream.Proofs.Place

/-!
Decoding of a text that is all there. A scan goes through the phases of the machine, but an
offset of the text takes the place of the reader: nothing is buffered, no request is made and
none can fail. What a step sees of the text is its `View`, so two texts that look alike at an
offset are decoded alike there.

The account of a scan holds commands and diagnostics only. A path is a sequence of steps with
the account it gives; since a step has one outcome, a text has one path to the end.
-/

namespace PlotStream

/-- Where the token begins that is captured during a phase. -/
def Phase.mark : Phase → Option Nat
  | .secondLetter start => some start.offset.toNat
  | .dispatch start => some start.offset.toNat
  | .leadingDigit _ start => some start.offset.toNat
  | .digits _ start _ => some start.offset.toNat
  | .literal _ start => some start.offset.toNat
  | .preamble _ => none
  | .blanks _ => none
  | .closing _ => none
  | .skipping _ _ => none
  | .skipped _ _ => none

/-- What a step sees of the text. -/
structure View where
  lookahead : Option Char
  place : Location
  /-- The text from the mark of the phase to the lookahead. -/
  token : List Char

/-- A decoder at an offset of a text. The other fields are those of `Machine`. -/
structure Scan where
  offset : Nat := 0
  phase : Phase := .preamble none
  count : Nat := 0
  opcode : Option (List Char) := none
  opcodePlace : Option Location := none

namespace Scan

inductive Move where
  | moved (next : Scan) (notice : Option Notice)
  | finished
  | failed (violation : Violation)

def advance (s : Scan) (view : View) (phase : Phase) : Move :=
  .moved { s with
    phase, offset := if view.lookahead.isSome then s.offset + 1 else s.offset } none

def become (s : Scan) (phase : Phase) : Move :=
  .moved { s with phase } none

def tell (s : Scan) (notice : Notice) : Move :=
  .moved { s with phase := .blanks .opcode } (some notice)

def afterBlanks (s : Scan) (view : View) : Due → Move
  | .opcode =>
    if view.lookahead = none then .finished
    else { s with opcodePlace := some view.place }.advance view (.secondLetter view.place)
  | .terminator c =>
    if view.lookahead = some ';' then s.advance view (.closing c)
    else .failed ⟨.terminator, view.place⟩
  | .optionalPen =>
    if view.lookahead.any fun c => Numeral.isDigit c || c == '-' then
      s.become (.blanks (.integer .pen))
    else s.become (.blanks (.terminator .resetPen))
  | .integer slot =>
    if view.lookahead = some '-' then s.advance view (.leadingDigit slot view.place)
    else s.become (.leadingDigit slot view.place)
  | .separator x =>
    if view.lookahead = some ',' then s.advance view (.blanks (.integer (.ordinate x)))
    else .failed ⟨.separator, view.place⟩

/-- The reaction of a scan to what it sees. -/
def react (s : Scan) (view : View) : Move :=
  match s.phase with
  | .preamble previous =>
    if previous = some 'I' ∧ view.lookahead = some 'N' then
      s.advance view (.blanks (.terminator .init))
    else if view.lookahead = none then s.tell (.diagnostic .noInit view.place)
    else s.advance view (.preamble view.lookahead)
  | .blanks due =>
    if view.lookahead.any Text.isBlank then s.advance view (.blanks due)
    else s.afterBlanks view due
  | .secondLetter start => s.advance view (.dispatch start)
  | .dispatch start =>
    { s with opcode := some view.token, count := s.count + 1 }.become
      (Machine.argumentsOf view.token start)
  | .leadingDigit slot start =>
    if view.lookahead = some '0' then s.advance view (.literal slot start)
    else if view.lookahead.any Numeral.isDigit then s.advance view (.digits slot start 1)
    else .failed ⟨.digit, view.place⟩
  | .digits slot start count =>
    if Numeral.maxDigits < count then .failed ⟨.shortInteger, start⟩
    else if view.lookahead.any Numeral.isDigit then s.advance view (.digits slot start (count + 1))
    else s.become (.literal slot start)
  | .literal slot start =>
    if Numeral.inRange (Numeral.value view.token) then
      s.become (.blanks (Machine.afterInteger slot (Numeral.value view.token)))
    else .failed ⟨.integer view.token, start⟩
  | .closing c => s.tell (.command c view.place)
  | .skipping code start =>
    if view.lookahead = some ';' then s.advance view (.skipped code start)
    else if view.lookahead = none then .failed ⟨.terminator, view.place⟩
    else s.advance view (.skipping code start)
  | .skipped code start => s.tell (.diagnostic (.unsupported code) start)

/-- The token captured so far. -/
def token (text : List Char) (s : Scan) : List Char :=
  match s.phase.mark with
  | some mark => (text.drop mark).take (s.offset - mark)
  | none => []

def view (text : List Char) (s : Scan) : View where
  lookahead := text[s.offset]?
  place := .ofOffset text s.offset
  token := s.token text

/-- One step through a text. -/
def step (text : List Char) (s : Scan) : Move := s.react (s.view text)

/-- Steps from one scan to another, with what they tell. -/
inductive Path (text : List Char) : Scan → List Notice → Scan → Prop where
  | refl (s : Scan) : Path text s [] s
  | step {s next last : Scan} {notice : Option Notice} {told : List Notice}
      (h : s.step text = .moved next notice) (hrest : Path text next told last) :
      Path text s (notice.toList ++ told) last

/-- The next step ends the parse, with the number of commands or with a violation. -/
inductive Ends (text : List Char) (s : Scan) : Except Violation Nat → Prop where
  | finished (h : s.step text = .finished) : Ends text s (.ok s.count)
  | failed {violation : Violation} (h : s.step text = .failed violation) :
      Ends text s (.error violation)

variable {text : List Char} {s next last : Scan} {notice : Option Notice}

theorem Path.single (h : s.step text = .moved next notice) :
    Path text s notice.toList next := by
  simpa using Path.step h (.refl next)

theorem Path.trans {told more : List Notice} {middle : Scan} (h : Path text s told middle)
    (hmore : Path text middle more last) : Path text s (told ++ more) last := by
  induction h with
  | refl _ => exact hmore
  | step hstep _ ih =>
      rw [List.append_assoc]
      exact .step hstep (ih hmore)

/-- What holds at the start and is kept by every step holds at the end of a path. -/
theorem Path.preserves {Kept : Scan → List Notice → Prop} {told : List Notice}
    (h : Path text s told last) (hstart : Kept s [])
    (hstep : ∀ {at' next : Scan} {notice : Option Notice} {told : List Notice},
      Kept at' told → at'.step text = .moved next notice → Kept next (told ++ notice.toList)) :
    Kept last told := by
  suffices general : ∀ earlier, Kept s earlier → Kept last (earlier ++ told) by
    simpa using general [] hstart
  clear hstart
  induction h with
  | refl _ =>
      intro earlier hkept
      simpa using hkept
  | step hmove _ ih =>
      intro earlier hkept
      rw [← List.append_assoc]
      exact ih _ (hstep hkept hmove)

theorem Ends.not_moved {outcome : Except Violation Nat} (h : s.Ends text outcome) :
    s.step text ≠ .moved next notice := by
  cases h with
  | finished h => simp [h]
  | failed h => simp [h]

theorem Ends.unique {outcome other : Except Violation Nat} (h : s.Ends text outcome)
    (h' : s.Ends text other) : outcome = other := by
  cases h with
  | finished h =>
      cases h' with
      | finished _ => rfl
      | failed h' => simp [h] at h'
  | failed h =>
      cases h' with
      | finished h' => simp [h] at h'
      | failed h' =>
          rw [h] at h'
          rw [Move.failed.inj h']

/-- A path to the end goes on from wherever another path has come. -/
theorem Path.continues {told other : List Notice} {middle : Scan}
    {outcome : Except Violation Nat} (h : Path text s told middle) (h' : Path text s other last)
    (hend : last.Ends text outcome) :
    ∃ more, other = told ++ more ∧ Path text middle more last := by
  induction h generalizing other with
  | refl s => exact ⟨other, rfl, h'⟩
  | step hmove _ ih =>
      cases h' with
      | refl _ => exact absurd hmove hend.not_moved
      | step hmove' hrest' =>
          rw [hmove] at hmove'
          obtain ⟨rfl, rfl⟩ := Move.moved.inj hmove'
          obtain ⟨more, rfl, hmore⟩ := ih hrest'
          exact ⟨more, (List.append_assoc _ _ _).symm, hmore⟩

/-- There is only one way to the end. -/
theorem Path.unique {told other : List Notice} {last' : Scan}
    {outcome outcome' : Except Violation Nat}
    (h : Path text s told last) (hend : last.Ends text outcome)
    (h' : Path text s other last') (hend' : last'.Ends text outcome') :
    told = other ∧ last = last' := by
  obtain ⟨more, rfl, hmore⟩ := h.continues h' hend'
  cases hmore with
  | refl _ => exact ⟨(List.append_nil told).symm, rfl⟩
  | step hmove _ => exact absurd hmove hend.not_moved

/-- Two texts that look alike to a scan are decoded alike by its next step. -/
theorem step_congr {other : List Char} (h : s.view text = s.view other) :
    s.step text = s.step other := by
  rw [step, step, h]

end Scan

end PlotStream
