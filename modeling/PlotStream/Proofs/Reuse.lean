import PlotStream.Proofs.Running
import PlotStream.Session

/-!
A parser that has been in use before. All that an earlier parse leaves behind is the operation code
read last and its place, and a parse never looks at them. So a run from a used parser is the run
from a fresh one with the old values kept where the run sets none. A session comes to any of its
calls with such a parser, whatever was asked for before and however that ended.
-/

namespace PlotStream

/-- A listener without an alarm is not changed by what it hears. -/
theorem Listener.hear_unarmed {listener : Listener} (h : listener.alarm = none) (notice : Notice) :
    (listener.hear notice).1 = listener := by
  cases notice with
  | command c place => simp only [hear, h]
  | _ => rfl

/-- The machine with what a parser remembers wherever it has read no operation code itself. -/
def Machine.recalling (m : Machine) (parser : Parser) : Machine :=
  { m with
    opcode := m.opcode.or parser.opcode
    opcodePlace := m.opcodePlace.or parser.opcodePlace }

def Step.recalling (parser : Parser) : Step → Step
  | .moved next notice => .moved (next.recalling parser) notice
  | .finished last => .finished (last.recalling parser)
  | .failed last fault => .failed (last.recalling parser) fault

def Run.recalling (run : Run) (parser : Parser) : Run :=
  { run with last := run.last.recalling parser }

/-- What is decided by something else than what is remembered. -/
theorem Step.ite_recalling {parser : Parser} {wanted : Prop} [Decidable wanted]
    {yes no yes' no' : Step} (hyes : yes' = yes.recalling parser)
    (hno : no' = no.recalling parser) :
    (if wanted then yes' else no') = (if wanted then yes else no).recalling parser := by
  rw [hyes, hno]
  split <;> rfl

namespace Machine

variable (m : Machine) (parser : Parser)

@[simp]
theorem reader_recalling : (m.recalling parser).reader = m.reader := rfl

@[simp]
theorem phase_recalling : (m.recalling parser).phase = m.phase := rfl

theorem advance_recalling (phase : Phase) :
    (m.recalling parser).advance phase = (m.advance phase).recalling parser := by
  simp only [advance, reader_recalling]
  split <;> rfl

theorem afterBlanks_recalling (due : Due) :
    (m.recalling parser).afterBlanks due = (m.afterBlanks due).recalling parser := by
  have hstarted (place : Option Location) (phase : Phase) := advance_recalling
    { m with opcodePlace := place, reader := m.reader.startCapture } parser phase
  cases due with
  | opcode => exact Step.ite_recalling rfl (hstarted (some m.reader.location) _)
  | terminator c => exact Step.ite_recalling (m.advance_recalling parser _) rfl
  | optionalPen => exact Step.ite_recalling rfl rfl
  | integer slot => exact Step.ite_recalling (hstarted m.opcodePlace _) rfl
  | separator x => exact Step.ite_recalling (m.advance_recalling parser _) rfl

/-- No step looks at what is remembered. -/
theorem step_recalling : (m.recalling parser).step = m.step.recalling parser := by
  have hload := m.advance_recalling parser
  simp only [step, phase_recalling, reader_recalling]
  cases m.phase with
  | preamble previous => exact Step.ite_recalling (hload _) (Step.ite_recalling rfl (hload _))
  | blanks due => exact Step.ite_recalling (hload _) (m.afterBlanks_recalling parser due)
  | secondLetter start => exact hload _
  | dispatch start => rfl
  | leadingDigit slot start =>
      dsimp only
      split
      · exact hload _
      · exact Step.ite_recalling (hload _) rfl
      · rfl
  | digits slot start count => exact Step.ite_recalling rfl (Step.ite_recalling (hload _) rfl)
  | literal slot start => exact Step.ite_recalling rfl rfl
  | closing c => rfl
  | skipping code start => exact Step.ite_recalling (hload _) (Step.ite_recalling rfl (hload _))
  | skipped code start => rfl

/-- What is remembered goes along with a run and changes nothing else. -/
theorem runFrom_recalling {listener : Listener} (told : List Notice) :
    (m.recalling parser).runFrom listener told = (m.runFrom listener told).recalling parser := by
  induction heffort : m.effort using Nat.strongRecOn generalizing m listener told with
  | ind effort ih =>
      have hrecalling := m.step_recalling parser
      cases hstep : m.step with
      | moved next notice =>
          have hlt := heffort ▸ effort_step_lt hstep
          rw [hstep] at hrecalling
          cases notice with
          | none =>
              rw [runFrom_moved hstep, runFrom_moved hrecalling]
              exact ih _ hlt next told rfl
          | some notice =>
              rcases hhear : listener.hear notice with ⟨after, refusal⟩
              cases refusal with
              | none =>
                  rw [runFrom_heard hstep hhear, runFrom_heard hrecalling hhear]
                  exact ih _ hlt next (notice :: told) rfl
              | some fault =>
                  rw [runFrom_refused hstep hhear, runFrom_refused hrecalling hhear]
                  rfl
      | finished last =>
          rw [hstep] at hrecalling
          rw [runFrom_finished hstep, runFrom_finished hrecalling]
          rfl
      | failed last fault =>
          rw [hstep] at hrecalling
          rw [runFrom_failed hstep, runFrom_failed hrecalling]
          rfl

/-- A listener without an alarm is the same at the end of a run. -/
theorem listener_runFrom {listener : Listener} (h : listener.alarm = none) (told : List Notice) :
    (m.runFrom listener told).listener = listener := by
  induction m, listener, told using runFrom.induct with
  | case1 m listener told next hstep ih =>
      rw [runFrom_moved hstep]
      exact ih h
  | case2 m listener told next notice hstep after hhear ih =>
      have hsame := listener.hear_unarmed h notice
      rw [hhear] at hsame
      obtain rfl : after = listener := hsame
      rw [runFrom_heard hstep hhear]
      exact ih h
  | case3 m listener told next notice hstep after fault hhear =>
      have hsame := listener.hear_unarmed h notice
      rw [hhear] at hsame
      rw [runFrom_refused hstep hhear]
      exact hsame
  | case4 m listener told last hstep => rw [runFrom_finished hstep]
  | case5 m listener told last fault hstep => rw [runFrom_failed hstep]

end Machine

def Parser.recalling (parser earlier : Parser) : Parser :=
  { parser with
    opcode := parser.opcode.or earlier.opcode
    opcodePlace := parser.opcodePlace.or earlier.opcodePlace }

def Report.recalling (report : Report) (earlier : Parser) : Report :=
  { report with parser := report.parser.recalling earlier }

namespace Parser

/-- A parser between two parses: it has no reader, and its listener is the given one. -/
structure Idle (listener : Listener) (parser : Parser) : Prop where
  reader : parser.reader = none
  listener : parser.listener = listener

variable {parser : Parser} {listener : Listener}

/-- A used parser reports what a fresh one does and remembers the rest. -/
theorem Idle.parse_eq [Encoding.Registry] (h : parser.Idle listener) (input : Input)
    (options : Options) :
    parser.parse input options = (Parser.parse { listener } input options).recalling parser := by
  obtain ⟨_, _, opcode, opcodePlace⟩ := parser
  obtain ⟨rfl, rfl⟩ := h
  simp only [parse]
  cases input.reader options with
  | error fault => rfl
  | ok reader =>
      have hstart (earlier : Parser) :
          earlier.start reader =
            (start { listener := earlier.listener } reader).recalling earlier := rfl
      dsimp only
      rw [hstart, Machine.run, Machine.runFrom_recalling]
      rfl

theorem Idle.parse [Encoding.Registry] (h : parser.Idle listener) (hunarmed : listener.alarm = none)
    (input : Input) (options : Options) :
    (parser.parse input options).parser.Idle listener := by
  rw [Parser.parse]
  cases input.reader options with
  | error fault => exact h
  | ok reader =>
      refine ⟨rfl, ?_⟩
      simp only [Report.ofRun, afterRun, Machine.run]
      rw [h.listener]
      exact Machine.listener_runFrom _ hunarmed []

end Parser

namespace Session

variable {listener : Listener}

theorem after_append [Encoding.Registry] (session : Session) (requests more : List Request) :
    session.after (requests ++ more) = (session.after requests).after more :=
  List.foldl_append

theorem steps_append [Encoding.Registry] (session : Session) (requests more : List Request) :
    session.steps (requests ++ more) =
      session.steps requests ++ (session.after requests).steps more := by
  induction requests generalizing session with
  | nil => rfl
  | cons request rest ih =>
      rw [List.cons_append, steps, ih, steps, List.cons_append]
      rfl

theorem length_steps [Encoding.Registry] (session : Session) (requests : List Request) :
    (session.steps requests).length = requests.length := by
  induction requests generalizing session with
  | nil => rfl
  | cons request rest ih => rw [steps, List.length_cons, ih, List.length_cons]

/-- What has been recorded is what the replies brought, in order. -/
theorem recorded_after [Encoding.Registry] (session : Session) (requests : List Request) :
    (session.after requests).recorded =
      session.recorded ++ (session.steps requests).flatMap fun done => done.reply.commands := by
  induction requests generalizing session with
  | nil => exact (List.append_nil _).symm
  | cons request rest ih =>
      have hone : (session.step request).session.recorded =
          session.recorded ++ (session.step request).reply.commands := by
        cases request with
        | setLevel name => exact (List.append_nil _).symm
        | log record => exact (List.append_nil _).symm
        | parse input options => rfl
      rw [steps, List.flatMap_cons, ← List.append_assoc, ← hone]
      exact ih (session.step request).session

/-- No request leaves a reader behind. -/
theorem idle_after [Encoding.Registry] {session : Session} (h : session.parser.Idle listener)
    (hunarmed : listener.alarm = none) (requests : List Request) :
    (session.after requests).parser.Idle listener := by
  induction requests generalizing session with
  | nil => exact h
  | cons request rest ih =>
      have hone : (session.step request).session.parser.Idle listener := by
        cases request with
        | setLevel name => exact h
        | log record => exact h
        | parse input options => exact h.parse hunarmed input options
      exact ih hone

/-- Any parse of a session comes out as with a fresh parser, whatever was asked for before and
however the parse ends: it has the same result and tells the same, so it adds the same commands to
the record. Before and after there is no reader. The operation code and its place are those of the
fresh parse where it has any, and otherwise they stay. What has been recorded in the end is what the
replies brought, one after the other. -/
theorem parse_after [Encoding.Registry] (objects : Bool) (logger : Logger)
    (earlier later : List Request) (input : Input) (options : Options) :
    let listener : Listener := { objects }
    let start : Session := { parser := { listener }, logger }
    let requests := earlier ++ .parse input options :: later
    let before := start.after earlier
    let behind := start.after (earlier ++ [.parse input options])
    let fresh := Parser.parse { listener } input options
    (∃ report, ((start.steps requests)[earlier.length]?).map Step.reply = some (.parsed report) ∧
        report.outcome = fresh.outcome ∧ report.trace = fresh.trace ∧
        Notice.commands report.trace = Notice.commands fresh.trace ∧
        Notice.diagnostics report.trace = Notice.diagnostics fresh.trace ∧
        report.requests = fresh.requests) ∧
      behind.recorded = before.recorded ++ Notice.commands fresh.trace ∧
      before.parser.reader = none ∧ behind.parser.reader = none ∧
      behind.parser.opcode = fresh.parser.opcode.or before.parser.opcode ∧
      behind.parser.opcodePlace = fresh.parser.opcodePlace.or before.parser.opcodePlace ∧
      (start.after requests).recorded =
        (start.steps requests).flatMap fun done => done.reply.commands := by
  intro listener start requests before behind fresh
  have hstart : start.parser.Idle listener := ⟨rfl, rfl⟩
  have hbefore : before.parser.Idle listener := idle_after hstart rfl earlier
  have hbehind : behind.parser.Idle listener := idle_after hstart rfl _
  have hparse := hbefore.parse_eq input options
  have hstep : behind = (before.step (.parse input options)).session := by
    simp only [behind, after_append]
    rfl
  have hreply : ((start.steps requests)[earlier.length]?).map Step.reply =
      some (.parsed (before.parser.parse input options)) := by
    rw [steps_append, List.getElem?_append_right (Nat.le_of_eq (start.length_steps earlier)),
      length_steps, Nat.sub_self]
    rfl
  have hparser : behind.parser = fresh.parser.recalling before.parser := by
    rw [hstep]
    exact congrArg Report.parser hparse
  have hrecorded : behind.recorded = before.recorded ++ Notice.commands fresh.trace := by
    rw [hstep]
    exact congrArg (fun report => before.recorded ++ Notice.commands report.trace) hparse
  refine ⟨⟨_, hreply, ?_⟩, hrecorded, hbefore.reader, hbehind.reader, ?_, ?_,
    start.recorded_after requests⟩
  · rw [hparse]
    exact ⟨rfl, rfl, rfl, rfl, rfl⟩
  · rw [hparser]
    rfl
  · rw [hparser]
    rfl

end Session

end PlotStream
