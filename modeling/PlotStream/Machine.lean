import PlotStream.Fault
import PlotStream.Notice
import PlotStream.Operation
import PlotStream.Reader

/-!
The decoder as a machine that looks at one character at a time. A text is a preamble up to the
first `IN`, the terminator of that command, and then commands until the end. A command is an
operation code of two characters and its arguments, closed by `;`; blanks may stand between
any two tokens. Commands with an unsupported code are skipped up to their `;`.

A step loads at most one character. It either moves on, possibly with a notice, or ends the
parse. A command is told only after the character behind its terminator has been loaded.
-/

namespace PlotStream

/-- Which integer of a command is being read. -/
inductive Slot where
  | pen
  | abscissa
  | ordinate (x : Int)
  deriving Repr, DecidableEq

/-- What has to come after a run of blanks. -/
inductive Due where
  /-- The next command or the end of the text. -/
  | opcode
  /-- The terminator of a command whose arguments are complete. -/
  | terminator (c : Command)
  /-- A pen number, or the terminator of a command without one. -/
  | optionalPen
  | integer (slot : Slot)
  | separator (x : Int)
  deriving Repr, DecidableEq

/-- How far the machine has come. -/
inductive Phase where
  /-- Looking for the first `IN`; the character before the lookahead is kept. -/
  | preamble (previous : Option Char)
  | blanks (due : Due)
  /-- The first character of an operation code that began at `start` has been passed. -/
  | secondLetter (start : Location)
  /-- An operation code has been passed. -/
  | dispatch (start : Location)
  /-- The sign, if any, of an integer that began at `start` has been passed. -/
  | leadingDigit (slot : Slot) (start : Location)
  /-- So many digits of an integer have been passed. -/
  | digits (slot : Slot) (start : Location) (count : Nat)
  /-- An integer has been passed. -/
  | literal (slot : Slot) (start : Location)
  /-- The terminator of a command has been passed. -/
  | closing (c : Command)
  /-- Inside a command that is not supported. -/
  | skipping (code : List Char) (start : Location)
  /-- The terminator of a command that is not supported has been passed. -/
  | skipped (code : List Char) (start : Location)
  deriving Repr, DecidableEq

/-- Steps that load nothing lead to phases of lower rank. -/
def Phase.rank : Phase → Nat
  | .leadingDigit _ _ => 0
  | .skipping _ _ => 0
  | .blanks .optionalPen => 2
  | .blanks _ => 1
  | .literal _ _ => 3
  | .closing _ => 3
  | .skipped _ _ => 3
  | .dispatch _ => 3
  | .preamble _ => 3
  | .secondLetter _ => 4
  | .digits _ _ _ => 4

structure Machine where
  reader : Reader
  phase : Phase := .preamble none
  /-- The number of operation codes read after the preamble. -/
  count : Nat := 0
  /-- The operation code read last. -/
  opcode : Option (List Char) := none
  /-- Where the operation code read last, or being read, begins. -/
  opcodePlace : Option Location := none
  deriving Repr

inductive Step where
  | moved (next : Machine) (notice : Option Notice)
  | finished (last : Machine)
  | failed (last : Machine) (fault : Fault)
  deriving Repr

/-- What a request has to tell, unless it failed. -/
def Intake.notice? : Intake → Option Notice
  | .chunk size offset => some (.refilled size offset)
  | .ended offset => some (.endOfText offset)
  | .failed _ => none

namespace Machine

def afterInteger : Slot → Int → Due
  | .pen, n => .terminator (.selectPen n)
  | .abscissa, n => .separator n
  | .ordinate x, n => .terminator (.plotAbsolute x n)

/-- The phase that reads the rest of a command, given its operation code and where it began. -/
def argumentsOf (code : List Char) (start : Location) : Phase :=
  match Operation.ofCode code with
  | .init => .blanks (.terminator .init)
  | .penDown => .blanks (.terminator .penDown)
  | .penUp => .blanks (.terminator .penUp)
  | .selectPen => .blanks .optionalPen
  | .plotAbsolute => .blanks (.integer .abscissa)
  | _ => .skipping code start

/-- Load the next character and go on in another phase. -/
def advance (m : Machine) (phase : Phase) : Step :=
  let moved := m.reader.advance
  match moved.2.bind Intake.failure? with
  | some cause => .failed { m with reader := moved.1 } (.source cause)
  | none => .moved { m with reader := moved.1, phase } (moved.2.bind Intake.notice?)

def become (m : Machine) (phase : Phase) : Step :=
  .moved { m with phase } none

def tell (m : Machine) (notice : Notice) : Step :=
  .moved { m with phase := .blanks .opcode } (some notice)

/-- End the parse because something else was expected at the lookahead. -/
def reject (m : Machine) (expected : Expectation) : Step :=
  .failed m (.violation ⟨expected, m.reader.location⟩)

def afterBlanks (m : Machine) : Due → Step
  | .opcode =>
    if m.reader.exhausted then .finished m
    else
      { m with
        opcodePlace := some m.reader.location
        reader := m.reader.startCapture }.advance (.secondLetter m.reader.location)
  | .terminator c =>
    if m.reader.lookahead = some ';' then m.advance (.closing c) else m.reject .terminator
  | .optionalPen =>
    if m.reader.lookahead.any fun c => Numeral.isDigit c || c == '-' then
      m.become (.blanks (.integer .pen))
    else m.become (.blanks (.terminator .resetPen))
  | .integer slot =>
    let started := { m with reader := m.reader.startCapture }
    if m.reader.lookahead = some '-' then
      started.advance (.leadingDigit slot m.reader.location)
    else started.become (.leadingDigit slot m.reader.location)
  | .separator x =>
    if m.reader.lookahead = some ',' then m.advance (.blanks (.integer (.ordinate x)))
    else m.reject .separator

/-- Take the captured literal as an integer. -/
def closeLiteral (m : Machine) (slot : Slot) (start : Location) : Step :=
  let (literal, reader) := m.reader.endCapture
  let n := Numeral.value literal
  if Numeral.inRange n then
    { m with reader }.become (.blanks (afterInteger slot n))
  else .failed { m with reader } (.violation ⟨.integer literal, start⟩)

def step (m : Machine) : Step :=
  match m.phase with
  | .preamble previous =>
    if previous = some 'I' ∧ m.reader.lookahead = some 'N' then
      m.advance (.blanks (.terminator .init))
    else if m.reader.exhausted then
      m.tell (.diagnostic .noInit m.reader.location)
    else m.advance (.preamble m.reader.current)
  | .blanks due =>
    if m.reader.lookahead.any Text.isBlank then m.advance (.blanks due) else m.afterBlanks due
  | .secondLetter start => m.advance (.dispatch start)
  | .dispatch start =>
    let (code, reader) := m.reader.endCapture
    { m with reader, opcode := some code, count := m.count + 1 }.become (argumentsOf code start)
  | .leadingDigit slot start =>
    match m.reader.lookahead with
    | some '0' => m.advance (.literal slot start)
    | some c => if Numeral.isDigit c then m.advance (.digits slot start 1) else m.reject .digit
    | none => m.reject .digit
  | .digits slot start count =>
    -- The limit comes before the next character: one digit too many is enough to refuse.
    if Numeral.maxDigits < count then
      .failed { m with reader := m.reader.endCapture.2 } (.violation ⟨.shortInteger, start⟩)
    else if m.reader.lookahead.any Numeral.isDigit then
      m.advance (.digits slot start (count + 1))
    else m.become (.literal slot start)
  | .literal slot start => m.closeLiteral slot start
  | .closing c => m.tell (.command c m.reader.location)
  | .skipping code start =>
    if m.reader.lookahead = some ';' then m.advance (.skipped code start)
    else if m.reader.exhausted then m.reject .terminator
    else m.advance (.skipping code start)
  | .skipped code start => m.tell (.diagnostic (.unsupported code) start)

/-- A bound on the number of steps still to be made. -/
def effort (m : Machine) : Nat := 5 * m.reader.unread + m.phase.rank

end Machine

theorem Phase.rank_lt (phase : Phase) : phase.rank < 5 := by
  unfold Phase.rank
  split <;> omega

theorem Reader.not_exhausted_of_lookahead {r : Reader} {c : Char} (h : r.lookahead = some c) :
    r.exhausted = false := by
  unfold Reader.lookahead at h
  split at h <;> simp_all

theorem Reader.not_exhausted_of_any {r : Reader} {p : Char → Bool}
    (h : r.lookahead.any p = true) : r.exhausted = false := by
  cases hl : r.lookahead with
  | none => simp [hl] at h
  | some c => exact r.not_exhausted_of_lookahead hl

namespace Machine

/-- Loading a character brings the end closer, whatever phase follows. -/
theorem effort_advance_lt {m : Machine} {phase : Phase} {next : Machine} {notice : Option Notice}
    (hm : m.reader.exhausted = false) (h : m.advance phase = .moved next notice) :
    next.effort < 5 * m.reader.unread := by
  unfold advance at h
  simp only at h
  split at h
  · simp at h
  next hok =>
    injection h with hnext _
    subst hnext
    have hlt := Reader.unread_advance_lt hm hok
    have := phase.rank_lt
    simp only [effort]
    omega

theorem effort_eq {m : Machine} {phase : Phase} (h : m.phase = phase) :
    m.effort = 5 * m.reader.unread + phase.rank := by
  rw [effort, h]

theorem lt_effort {m : Machine} {n : Nat} (h : n < 5 * m.reader.unread) : n < m.effort := by
  unfold effort
  omega

theorem effort_become {m : Machine} {phase : Phase} {next : Machine} {notice : Option Notice}
    (h : m.become phase = .moved next notice) :
    next.effort = 5 * m.reader.unread + phase.rank := by
  unfold become at h
  injection h with hnext _
  subst hnext
  rfl

theorem effort_tell {m : Machine} {told : Notice} {next : Machine} {notice : Option Notice}
    (h : m.tell told = .moved next notice) : next.effort = 5 * m.reader.unread + 1 := by
  unfold tell at h
  injection h with hnext _
  subst hnext
  rfl

theorem effort_afterBlanks_lt {m : Machine} {due : Due} {next : Machine} {notice : Option Notice}
    (h : m.afterBlanks due = .moved next notice) :
    next.effort < 5 * m.reader.unread + (Phase.blanks due).rank := by
  unfold afterBlanks at h
  split at h
  · split at h
    · simp at h
    next hr =>
      have hlt := effort_advance_lt (by simpa [Reader.startCapture] using hr) h
      exact Nat.lt_add_right _ hlt
  · split at h
    next hl => exact Nat.lt_add_right _ (effort_advance_lt (Reader.not_exhausted_of_lookahead hl) h)
    · simp [reject] at h
  · split at h <;> rw [effort_become h] <;> simp [Phase.rank]
  · simp only at h
    split at h
    next hl =>
      have hr := Reader.not_exhausted_of_lookahead hl
      have hlt := effort_advance_lt (by simpa [Reader.startCapture] using hr) h
      exact Nat.lt_add_right _ hlt
    · rw [effort_become h]
      exact Nat.lt_succ_self _
  · split at h
    next hl => exact Nat.lt_add_right _ (effort_advance_lt (Reader.not_exhausted_of_lookahead hl) h)
    · simp [reject] at h

theorem effort_closeLiteral {m : Machine} {slot : Slot} {start : Location} {next : Machine}
    {notice : Option Notice} (h : m.closeLiteral slot start = .moved next notice) :
    next.effort < 5 * m.reader.unread + 3 := by
  unfold closeLiteral at h
  simp only at h
  split at h
  · rw [effort_become h]
    cases slot <;> simp [afterInteger, Phase.rank]
  · simp at h

/-- Once the text is over, loading changes only the phase. -/
theorem effort_advance_of_exhausted {m : Machine} {phase : Phase} {next : Machine}
    {notice : Option Notice} (hm : m.reader.exhausted = true)
    (h : m.advance phase = .moved next notice) :
    next.effort = 5 * m.reader.unread + phase.rank := by
  simp only [advance, Reader.advance, hm, if_true, Option.bind_none] at h
  injection h with hnext _
  subst hnext
  rfl

/-- Every step that does not end the parse brings its end closer. -/
theorem effort_step_lt {m next : Machine} {notice : Option Notice}
    (h : m.step = .moved next notice) : next.effort < m.effort := by
  unfold step at h
  split at h <;> rename_i hphase
  · split at h
    next hl => exact lt_effort (effort_advance_lt (Reader.not_exhausted_of_lookahead hl.2) h)
    split at h
    · rw [effort_tell h, effort_eq hphase]
      simp [Phase.rank]
    next hr => exact lt_effort (effort_advance_lt (by simpa using hr) h)
  · split at h
    next hl => exact lt_effort (effort_advance_lt (Reader.not_exhausted_of_any hl) h)
    · rw [effort_eq hphase]
      exact effort_afterBlanks_lt h
  · cases hr : m.reader.exhausted with
    | false => exact lt_effort (effort_advance_lt hr h)
    | true =>
      rw [effort_advance_of_exhausted hr h, effort_eq hphase]
      simp [Phase.rank]
  · simp only at h
    rw [effort_become h, effort_eq hphase]
    refine Nat.add_lt_add_left ?_ _
    unfold argumentsOf
    split <;> simp [Phase.rank]
  · split at h
    next hl => exact lt_effort (effort_advance_lt (Reader.not_exhausted_of_lookahead hl) h)
    next c _ hl =>
      split at h
      · exact lt_effort (effort_advance_lt (Reader.not_exhausted_of_lookahead hl) h)
      · simp [reject] at h
    · simp [reject] at h
  · split at h
    · simp at h
    split at h
    next hl => exact lt_effort (effort_advance_lt (Reader.not_exhausted_of_any hl) h)
    · rw [effort_become h, effort_eq hphase]
      simp [Phase.rank]
  · rw [effort_eq hphase]
    exact effort_closeLiteral h
  · rw [effort_tell h, effort_eq hphase]
    simp [Phase.rank]
  · split at h
    next hl => exact lt_effort (effort_advance_lt (Reader.not_exhausted_of_lookahead hl) h)
    split at h
    · simp [reject] at h
    next hr => exact lt_effort (effort_advance_lt (by simpa using hr) h)
  · rw [effort_tell h, effort_eq hphase]
    simp [Phase.rank]

end Machine

end PlotStream
