import PlotStream.Proofs.ChunkIndependence
import PlotStream.Proofs.LastCode

/-!
A listener that refuses to go on. Up to the notice that it refuses a parse is the one with nobody
who objects, and there it breaks off. `Listener.Accepts` says what a listener lets pass and how it
has changed by then. A listener either accepts a whole account or refuses a certain notice of it, so the
path of a text to its end settles what every parse of the text comes to.
-/

namespace PlotStream

namespace Listener

/-- The listener lets these notices pass, and this is what it is then. -/
inductive Accepts : Listener → List Notice → Listener → Prop where
  | nil (listener : Listener) : Accepts listener [] listener
  | cons {listener after last : Listener} {notice : Notice} {told : List Notice}
      (hhear : listener.hear notice = (after, none)) (hrest : after.Accepts told last) :
      Accepts listener (notice :: told) last

/-- A listener accepts an account, or there is a first notice that it refuses. -/
theorem accepts_or_refuses (listener : Listener) (told : List Notice) :
    (∃ last, listener.Accepts told last) ∨
      ∃ (earlier : List Notice) (notice : Notice) (later : List Notice) (asked last : Listener)
        (fault : Fault), told = earlier ++ notice :: later ∧ listener.Accepts earlier asked ∧
          asked.hear notice = (last, some fault) := by
  induction told generalizing listener with
  | nil => exact Or.inl ⟨listener, .nil listener⟩
  | cons notice rest ih =>
      rcases hhear : listener.hear notice with ⟨after, refusal⟩
      cases refusal with
      | some fault => exact Or.inr ⟨[], notice, rest, listener, after, fault, rfl, .nil _, hhear⟩
      | none =>
          rcases ih after with
            ⟨last, hrest⟩ | ⟨earlier, other, later, asked, last, fault, rfl, hearlier, hrefused⟩
          · exact Or.inl ⟨last, .cons hhear hrest⟩
          · exact Or.inr ⟨notice :: earlier, other, later, asked, last, fault, rfl,
              .cons hhear hearlier, hrefused⟩

/-- A listener that refuses the command with the given number. -/
def refusingCommand (number : Nat) (message : String) : Listener :=
  { alarm := some { watches := fun _ => true, countdown := number, message } }

/-- A listener that refuses every diagnostic. -/
def refusingDiagnostics : Listener := { objects := true }

theorem hear_refusingCommand (number : Nat) (message : String) (notice : Notice) :
    (refusingCommand number message).hear notice =
      match notice with
      | .command _ _ => (refusingCommand (number - 1) message,
          if number = 1 then some (.refused message) else none)
      | _ => (refusingCommand number message, none) := by
  cases notice <;> rfl

theorem hear_refusingDiagnostics (notice : Notice) :
    refusingDiagnostics.hear notice =
      (refusingDiagnostics,
        match notice with
        | .diagnostic d place => some (.refused (place.annotate d.text))
        | _ => none) := by
  cases notice <;> rfl

/-- What passes an alarm holds too few commands for it, and brings it closer. -/
theorem Accepts.fewer_commands {number : Nat} {message : String} {told : List Notice}
    {last : Listener} (h : (refusingCommand number message).Accepts told last)
    (hpos : 0 < number) :
    (Notice.commands told).length < number ∧
      last = refusingCommand (number - (Notice.commands told).length) message := by
  generalize hlistener : refusingCommand number message = listener at h
  induction h generalizing number with
  | nil _ => exact ⟨hpos, hlistener.symm⟩
  | @cons listener after last notice told hhear _ ih =>
      subst hlistener
      rw [hear_refusingCommand] at hhear
      cases notice with
      | command c place =>
          obtain ⟨rfl, hnone⟩ := Prod.mk.inj hhear
          have hmore : number ≠ 1 := by
            rintro rfl
            cases hnone
          obtain ⟨hfew, rfl⟩ := ih (by omega) rfl
          have hlength : (Notice.commands (.command c place :: told)).length =
              (Notice.commands told).length + 1 := rfl
          rw [hlength]
          refine ⟨by omega, ?_⟩
          congr 1
          omega
      | diagnostic d place =>
          obtain ⟨rfl, _⟩ := Prod.mk.inj hhear
          exact ih hpos rfl
      | refilled size offset =>
          obtain ⟨rfl, _⟩ := Prod.mk.inj hhear
          exact ih hpos rfl
      | endOfText offset =>
          obtain ⟨rfl, _⟩ := Prod.mk.inj hhear
          exact ih hpos rfl
      | finished count =>
          obtain ⟨rfl, _⟩ := Prod.mk.inj hhear
          exact ih hpos rfl

/-- What passes an objection to diagnostics holds none. -/
theorem Accepts.no_diagnostics {told : List Notice} {last : Listener}
    (h : refusingDiagnostics.Accepts told last) :
    Notice.diagnostics told = [] ∧ last = refusingDiagnostics := by
  generalize hlistener : refusingDiagnostics = listener at h
  induction h with
  | nil _ => exact ⟨rfl, rfl⟩
  | @cons listener after last notice told hhear _ ih =>
      subst hlistener
      rw [hear_refusingDiagnostics] at hhear
      obtain ⟨rfl, hnone⟩ := Prod.mk.inj hhear
      cases notice with
      | diagnostic d place => cases hnone
      | _ => exact ih rfl

end Listener

/-- A path that tells a notice tells it by a step. -/
theorem Scan.Path.split_told {text : List Char} {s last : Scan} {all earlier later : List Notice}
    {notice : Notice} (h : Path text s all last) (hall : all = earlier ++ notice :: later) :
    ∃ asked next, Path text s earlier asked ∧ asked.step text = .moved next (some notice) := by
  induction h generalizing earlier with
  | refl s => simp at hall
  | @step s next last told more hmove _ ih =>
      cases told with
      | none =>
          obtain ⟨asked, behind, hpath, htold⟩ := ih hall
          exact ⟨asked, behind, .step hmove hpath, htold⟩
      | some told =>
          rw [Option.toList_some, List.singleton_append] at hall
          cases earlier with
          | nil =>
              obtain ⟨rfl, _⟩ := List.cons.inj hall
              exact ⟨s, next, .refl s, hmove⟩
          | cons first rest =>
              obtain ⟨rfl, hrest⟩ := List.cons.inj hall
              obtain ⟨asked, behind, hpath, htold⟩ := ih hrest
              exact ⟨asked, behind, .step hmove hpath, htold⟩

namespace Machine.Follows

variable {text : List Char} {s last : Scan} {m : Machine} {told : List Notice}
  {listener after : Listener}

/-- As long as the listener accepts, a run goes the path of its scan. -/
theorem run_along (hpath : Scan.Path text s told last) (h : m.Follows text none s)
    (haccepts : listener.Accepts told after) (before : List Notice) :
    ∃ (m' : Machine) (before' : List Notice), m'.Follows text none last ∧
      Notice.told before' = told.reverse ++ Notice.told before ∧
      m.runFrom listener before = m'.runFrom after before' := by
  induction hpath generalizing m listener before with
  | refl s =>
      cases haccepts with
      | nil _ => exact ⟨m, before, h, rfl, rfl⟩
  | @step s next last noticed more hmove _ ih =>
      have hstep := h.step
      rw [hmove] at hstep
      generalize hmachine : m.step = step at hstep
      cases hstep with
      | broken hending _ _ _ => cases hending
      | @moved _ next' _ notice hnext hnotice =>
          cases noticed with
          | none =>
              obtain ⟨silent, hsilent, hrun⟩ := runFrom_silent hmachine hnotice listener before
              obtain ⟨m', before', hlast, htold, hmore⟩ := ih hnext haccepts silent
              exact ⟨m', before', hlast, by rw [htold, hsilent]; rfl, hrun.trans hmore⟩
          | some told =>
              obtain ⟨rfl, hkept⟩ := Option.filter_eq_some_iff.mp hnotice
              cases haccepts with
              | cons hhear hrest =>
                  obtain ⟨m', before', hlast, htold, hmore⟩ := ih hnext hrest (told :: before)
                  refine ⟨m', before', hlast, ?_, (runFrom_heard hmachine hhear).trans hmore⟩
                  rw [htold, Notice.told_cons hkept]
                  simp

/-- A run that has come to the end of its scan ends. -/
theorem run_ends {outcome : Except Violation Nat} (h : m.Follows text none s)
    (hend : s.Ends text outcome) (listener : Listener) (before : List Notice) :
    (Report.ofRun (m.runFrom listener before)).Shows (Notice.told before).reverse s outcome := by
  have hstep := h.step
  generalize hmachine : m.step = step at hstep
  cases hend with
  | finished hfinished =>
      rw [hfinished] at hstep
      cases hstep with
      | finished hlast _ =>
          rw [runFrom_finished hmachine]
          exact hlast.finished_shows listener before
  | failed hfailed =>
      rw [hfailed] at hstep
      cases hstep with
      | failed hlast _ =>
          rw [runFrom_failed hmachine]
          exact hlast.failed_shows _ listener before

/-- A run breaks off at the notice that is refused. -/
theorem run_refused {next : Scan} {notice : Notice} {fault : Fault} (h : m.Follows text none s)
    (hmove : s.step text = .moved next (some notice))
    (hhear : listener.hear notice = (after, some fault)) (before : List Notice) :
    ∃ last, m.runFrom listener before = ⟨last, after, before.reverse, .error fault⟩ ∧
      last.SameRecord next := by
  have hstep := h.step
  rw [hmove] at hstep
  generalize hmachine : m.step = step at hstep
  cases hstep with
  | @moved _ next' _ told hnext hnotice =>
      obtain ⟨rfl, _⟩ := Option.filter_eq_some_iff.mp hnotice
      exact ⟨next', runFrom_refused hmachine hhear, hnext.toSameRecord⟩

end Machine.Follows

namespace Parser

variable {parser : Parser} {text : List Char} {input : Input} {options : Options}
  {told : List Notice} {last : Scan}

/-- A parse goes the path of its text as long as its listener accepts. -/
theorem run_along [Encoding.Registry] (hinput : input.Carries text (options.bufferSizeFor input))
    (hsize : 0 < options.bufferSizeFor input) (hpath : Scan.Path text parser.scan told last)
    {after : Listener} (haccepts : parser.listener.Accepts told after) :
    ∃ (m : Machine) (before : List Notice), m.Follows text none last ∧
      Notice.told before = told.reverse ∧
      parser.parse input options = .ofRun (m.runFrom after before) := by
  obtain ⟨reader, hreader, hloaded, hcapture⟩ := hinput.reader hsize
  rw [parser.parse_of_reader hreader, Machine.run]
  rcases parser.first_step hloaded hcapture with
    ⟨next, notice, hstep, hsilent, hnext⟩ | ⟨_, _, _, _, hending, _⟩
  · obtain ⟨more, hmore, hrun⟩ := Machine.runFrom_silent hstep hsilent parser.listener []
    obtain ⟨m, before, hlast, htold, hsame⟩ := hnext.run_along hpath haccepts more
    rw [hmore] at htold
    exact ⟨m, before, hlast, by simpa [Notice.told] using htold, by rw [hrun, hsame]⟩
  · cases hending

/-- A listener that accepts all there is to tell makes no difference. -/
theorem parse_accepted [Encoding.Registry]
    (hinput : input.Carries text (options.bufferSizeFor input))
    (hsize : 0 < options.bufferSizeFor input) (hpath : Scan.Path text parser.scan told last)
    {outcome : Except Violation Nat} (hend : last.Ends text outcome) {after : Listener}
    (haccepts : parser.listener.Accepts told after) :
    (parser.parse input options).Shows told last outcome := by
  obtain ⟨m, before, hlast, htold, hparse⟩ := run_along hinput hsize hpath haccepts
  rw [hparse]
  have hshows := hlast.run_ends hend after before
  rwa [htold, List.reverse_reverse] at hshows

/-- A parse breaks off at the notice that its listener refuses. -/
theorem parse_refused [Encoding.Registry]
    (hinput : input.Carries text (options.bufferSizeFor input))
    (hsize : 0 < options.bufferSizeFor input) (hpath : Scan.Path text parser.scan told last)
    {next : Scan} {notice : Notice} (hmove : last.step text = .moved next (some notice))
    {asked after : Listener} {fault : Fault} (haccepts : parser.listener.Accepts told asked)
    (hhear : asked.hear notice = (after, some fault)) :
    let report := parser.parse input options
    report.outcome = .error fault ∧ Notice.told report.trace = told ∧
      report.parser.opcode = next.opcode ∧ report.parser.opcodePlace = next.opcodePlace := by
  intro report
  obtain ⟨m, before, hlast, htold, hparse⟩ := run_along hinput hsize hpath haccepts
  obtain ⟨final, hrun, hrecord⟩ := hlast.run_refused hmove hhear before
  have hreport : report = .ofRun ⟨final, after, before.reverse, .error fault⟩ := by
    rw [← hrun]
    exact hparse
  rw [hreport]
  refine ⟨rfl, ?_, hrecord.opcode, hrecord.opcodePlace⟩
  simp only [Report.ofRun]
  rw [Notice.told_reverse, htold, List.reverse_reverse]

end Parser

theorem Notice.length_commands_command {told earlier later : List Notice} {c : Command}
    {place : Location} (h : told = earlier ++ .command c place :: later) :
    (commands told).length = (commands earlier).length + 1 + (commands later).length := by
  have hcons : commands (.command c place :: later) = (c, place) :: commands later := rfl
  rw [h, commands_append, hcons, List.length_append, List.length_cons]
  omega

/-- The reports differ in nothing but the reading of chunks and who listened. -/
structure Report.Matches (report other : Report) : Prop where
  outcome : report.outcome = other.outcome
  told : Notice.told report.trace = Notice.told other.trace
  opcode : report.parser.opcode = other.parser.opcode
  opcodePlace : report.parser.opcodePlace = other.parser.opcodePlace

theorem Report.Shows.matches {report other : Report} {told : List Notice} {last : Scan}
    {outcome : Except Violation Nat} (h : report.Shows told last outcome)
    (hother : other.Shows told last outcome) : report.Matches other where
  outcome := h.result.trans hother.result.symm
  told := h.told.trans hother.told.symm
  opcode := h.opcode.trans hother.opcode.symm
  opcodePlace := h.opcodePlace.trans hother.opcodePlace.symm

/-- What is left behind by a parse that was refused a command of a sentence: the operation code of
this sentence, which stands behind the drawing that gave the account up to there. -/
def Report.Dispatching (report : Report) (text : List Char) (earlier : List Notice) (c : Command)
    (place : Location) : Prop :=
  ∃ (d : Drawing) (sentence : Sentence) (rest : List Char),
    text = d.text ++ sentence.text ++ rest ∧ earlier = d.toldIn text ∧
      sentence.meaning = .ok c ∧ place = .ofOffset text (d.text ++ sentence.text).length ∧
      report.parser.opcode = some (sentence.text.take 2) ∧
      report.parser.opcodePlace = some (.ofOffset text d.text.length)

namespace Parser

variable {parser : Parser} {text : List Char} {input : Input} {options : Options}
  {told : List Notice} {last : Scan} {outcome : Except Violation Nat}

/-- An alarm goes off at its command, or there are too few commands. -/
theorem alarm_cases [Encoding.Registry] (parser : Parser)
    (hinput : input.Carries text (options.bufferSizeFor input))
    (hsize : 0 < options.bufferSizeFor input) (hpath : Scan.Path text parser.scan told last)
    (hend : last.Ends text outcome) {number : Nat} {message : String}
    (hlistener : parser.listener = .refusingCommand number message) (hpos : 0 < number) :
    let report := parser.parse input options
    (Notice.commands told).length < number ∧ report.Shows told last outcome ∨
      ∃ earlier c place later, told = earlier ++ .command c place :: later ∧
        (Notice.commands earlier).length + 1 = number ∧
        report.outcome = .error (.refused message) ∧ Notice.told report.trace = earlier ∧
        ((earlier = [] ∧ report.parser.opcode = parser.opcode ∧
            report.parser.opcodePlace = parser.opcodePlace) ∨
          report.Dispatching text earlier c place) := by
  intro report
  rcases parser.listener.accepts_or_refuses told with
    ⟨after, haccepts⟩ | ⟨earlier, notice, later, asked, after, fault, htold, haccepts, hhear⟩
  · have hshows := parse_accepted hinput hsize hpath hend haccepts
    rw [hlistener] at haccepts
    exact Or.inl ⟨(haccepts.fewer_commands hpos).1, hshows⟩
  · obtain ⟨before, next, hbefore, hmove⟩ := hpath.split_told htold
    obtain ⟨houtcome, htrace, hopcode, hplace⟩ :=
      parse_refused hinput hsize hbefore hmove haccepts hhear
    rw [hlistener] at haccepts
    obtain ⟨hfew, rfl⟩ := haccepts.fewer_commands hpos
    rw [Listener.hear_refusingCommand] at hhear
    cases notice with
    | command c place =>
        obtain ⟨_, hrefusal⟩ := Prod.mk.inj hhear
        split at hrefusal
        next hone =>
          obtain rfl := Option.some.inj hrefusal
          refine Or.inr ⟨earlier, c, place, later, htold, by omega, houtcome, htrace, ?_⟩
          rcases (hbefore.dispatches rfl rfl rfl).tell_command hmove with
            ⟨hfirst, hsame⟩ | ⟨d, sentence, rest, htext, hearlier, hmeaning, hat, hcode, hbegin⟩
          · obtain ⟨hcode, hbegin⟩ := Prod.mk.inj hsame
            exact Or.inl ⟨hfirst, hopcode.trans hcode, hplace.trans hbegin⟩
          · exact Or.inr ⟨d, sentence, rest, htext, hearlier, hmeaning, hat, hopcode.trans hcode,
              hplace.trans hbegin⟩
        next => cases hrefusal
    | _ => cases hhear

/-- An objection is to the first diagnostic, or there is none. -/
theorem objection_cases [Encoding.Registry] (parser : Parser)
    (hinput : input.Carries text (options.bufferSizeFor input))
    (hsize : 0 < options.bufferSizeFor input) (hpath : Scan.Path text parser.scan told last)
    (hend : last.Ends text outcome) (hlistener : parser.listener = .refusingDiagnostics) :
    let report := parser.parse input options
    Notice.diagnostics told = [] ∧ report.Shows told last outcome ∨
      ∃ earlier d place later, told = earlier ++ .diagnostic d place :: later ∧
        Notice.diagnostics earlier = [] ∧
        report.outcome = .error (.refused (place.annotate d.text)) ∧
        Notice.told report.trace = earlier := by
  intro report
  rcases parser.listener.accepts_or_refuses told with
    ⟨after, haccepts⟩ | ⟨earlier, notice, later, asked, after, fault, htold, haccepts, hhear⟩
  · have hshows := parse_accepted hinput hsize hpath hend haccepts
    rw [hlistener] at haccepts
    exact Or.inl ⟨haccepts.no_diagnostics.1, hshows⟩
  · obtain ⟨before, next, hbefore, hmove⟩ := hpath.split_told htold
    obtain ⟨houtcome, htrace, _, _⟩ := parse_refused hinput hsize hbefore hmove haccepts hhear
    rw [hlistener] at haccepts
    obtain ⟨hnone, rfl⟩ := haccepts.no_diagnostics
    rw [Listener.hear_refusingDiagnostics] at hhear
    obtain ⟨_, hrefusal⟩ := Prod.mk.inj hhear
    cases notice with
    | diagnostic d place =>
        obtain rfl := Option.some.inj hrefusal
        exact Or.inr ⟨earlier, d, place, later, htold, hnone, houtcome, htrace⟩
    | _ => cases hrefusal

theorem reader_parse [Encoding.Registry] (hinput : input.Carries text (options.bufferSizeFor input))
    (hsize : 0 < options.bufferSizeFor input) :
    (parser.parse input options).parser.reader = none := by
  obtain ⟨reader, hreader, _, _⟩ := hinput.reader hsize
  rw [parser.parse_of_reader hreader]
  rfl

/-- A parse whose listener refuses the command number `k` is the one with nobody who objects if
that has fewer commands. Otherwise it ends with the refusal, and its account is that of the other
parse up to the command. The operation code on record is that of the sentence that gives the
command; the first command leaves the record as it was. A listener that refuses diagnostics ends the
parse at the first one, with the account up to there. No reader is left behind. -/
theorem parse_refusing [Encoding.Registry] (parser : Parser) {text : List Char} {input : Input}
    {options : Options} (hinput : input.Carries text (options.bufferSizeFor input))
    (hsize : 0 < options.bufferSizeFor input) (message : String) {k : Nat} (hk : 0 < k) :
    let quiet := Parser.parse { parser with listener := {} } input options
    let report :=
      Parser.parse { parser with listener := .refusingCommand k message } input options
    let strict := Parser.parse { parser with listener := .refusingDiagnostics } input options
    ((Notice.commands quiet.trace).length < k → report.Matches quiet) ∧
      (k ≤ (Notice.commands quiet.trace).length →
        ∃ earlier c place later,
          Notice.told quiet.trace = earlier ++ .command c place :: later ∧
            report.outcome = .error (.refused message) ∧
            Notice.told report.trace = earlier ∧
            (Notice.commands earlier).length = k - 1 ∧
            Notice.commands report.trace = (Notice.commands quiet.trace).take (k - 1) ∧
            Notice.diagnostics report.trace = Notice.diagnostics earlier ∧
            (k = 1 → earlier = [] ∧ report.parser.opcode = parser.opcode ∧
              report.parser.opcodePlace = parser.opcodePlace) ∧
            (1 < k → report.Dispatching text earlier c place)) ∧
      (Notice.diagnostics quiet.trace = [] → strict.Matches quiet) ∧
      (Notice.diagnostics quiet.trace ≠ [] →
        ∃ earlier d place later,
          Notice.told quiet.trace = earlier ++ .diagnostic d place :: later ∧
            Notice.diagnostics earlier = [] ∧
            strict.outcome = .error (.refused (place.annotate d.text)) ∧
            Notice.told strict.trace = earlier ∧
            Notice.commands strict.trace = Notice.commands earlier ∧
            Notice.diagnostics strict.trace = []) ∧
      report.parser.reader = none ∧ strict.parser.reader = none := by
  intro quiet report strict
  obtain ⟨told, last, outcome, hpath, hend, hquiet⟩ :=
    exists_path_shown { parser with listener := {} } rfl hinput hsize
  have halarm := alarm_cases { parser with listener := .refusingCommand k message }
    hinput hsize hpath hend rfl hk
  have hobjection := objection_cases { parser with listener := .refusingDiagnostics }
    hinput hsize hpath hend rfl
  refine ⟨?_, ?_, ?_, ?_, reader_parse hinput hsize, reader_parse hinput hsize⟩
  · intro hfew
    rcases halarm with ⟨_, hshows⟩ | ⟨earlier, c, place, later, htold, hnumber, _⟩
    · exact hshows.matches hquiet
    · have hcommands := Notice.length_commands_command htold
      rw [hquiet.commands] at hfew
      omega
  · intro hmany
    rw [hquiet.commands] at hmany
    rcases halarm with ⟨hfew, _⟩ | ⟨earlier, c, place, later, rfl, hnumber, houtcome, htrace, hcode⟩
    · omega
    have hsame : Notice.commands report.trace = Notice.commands earlier := by
      rw [← Notice.commands_told, htrace]
    have htake : Notice.commands earlier = (Notice.commands quiet.trace).take (k - 1) := by
      have hlength : k - 1 = (Notice.commands earlier).length := by omega
      rw [hquiet.commands, Notice.commands_append, hlength, List.take_left]
    have hdiagnostics : Notice.diagnostics report.trace = Notice.diagnostics earlier := by
      rw [← Notice.diagnostics_told, htrace]
    refine ⟨earlier, c, place, later ++ Notice.closing outcome, ?_, houtcome, htrace, by omega,
      hsame.trans htake, hdiagnostics, ?_, ?_⟩
    · rw [hquiet.told, List.append_assoc, List.cons_append]
    · intro hone
      rcases hcode with hfirst | ⟨d, sentence, rest, _, rfl, _⟩
      · exact hfirst
      · have hpos : 0 < (Notice.commands (d.toldIn text)).length := Nat.succ_pos _
        omega
    · intro hmore
      rcases hcode with ⟨rfl, _⟩ | hdispatching
      · have hnone : (Notice.commands []).length = 0 := rfl
        omega
      · exact hdispatching
  · intro hnone
    rw [hquiet.diagnostics] at hnone
    rcases hobjection with ⟨_, hshows⟩ | ⟨earlier, d, place, later, rfl, _⟩
    · exact hshows.matches hquiet
    · rw [Notice.diagnostics_append] at hnone
      exact absurd (List.append_eq_nil_iff.mp hnone).2 (List.cons_ne_nil _ _)
  · intro hsome
    rw [hquiet.diagnostics] at hsome
    rcases hobjection with ⟨hnone, _⟩ | ⟨earlier, d, place, later, rfl, hnone, houtcome, htrace⟩
    · exact absurd hnone hsome
    refine ⟨earlier, d, place, later ++ Notice.closing outcome, ?_, hnone, houtcome, htrace, ?_, ?_⟩
    · rw [hquiet.told, List.append_assoc, List.cons_append]
    · rw [← Notice.commands_told, htrace]
    · rw [← Notice.diagnostics_told, htrace, hnone]

/-- The second command is refused, one character at a time, and so is the remark before it. -/
theorem parse_refusing_second :
    let pieces := [['I'], ['N', ';', 'X'], ['Y', ';', 'P', 'U', ';']]
    let input := Input.chunks (pieces.map .text ++ [])
    let options : Options := { bufferSize := some 1 }
    let report := Parser.parse { listener := .refusingCommand 2 "no" } input options
    let strict := Parser.parse { listener := .refusingDiagnostics } input options
    input.Carries pieces.flatten (options.bufferSizeFor input) ∧
      0 < options.bufferSizeFor input ∧
      report.outcome = .error (.refused "no") ∧
      Notice.commands report.trace = [(.init, ⟨3, 1, 4⟩)] ∧
      strict.outcome = .error (.refused "Unsupported operation: XY at 1:4 (offset 3)") ∧
      Notice.commands strict.trace = [(.init, ⟨3, 1, 4⟩)] := by
  intro pieces input options report strict
  have hcarries : input.Carries pieces.flatten (options.bufferSizeFor input) :=
    .chunks (by decide) rfl (Or.inl rfl)
  have hsize : 0 < options.bufferSizeFor input := by decide
  let other : Foreign := ⟨'X', 'Y', [], by decide, by decide, by decide⟩
  let d : Drawing :=
    { preamble := []
      first := fun hinit => absurd hinit.length_le (by decide)
      opening := .empty
      sentences := [(.empty, .foreign other), (.empty, .plain .penUp .empty)]
      closing := .empty }
  have hdrawing := Parser.arrives_drawing {} d []
  rw [List.append_nil] at hdrawing
  obtain ⟨last, hpath, hend⟩ := hdrawing.finish
  have hquiet : (Parser.parse {} input options).Shows (d.toldIn d.text) last _ :=
    parse_shows rfl hcarries hsize hpath hend
  have htold : Notice.told (Parser.parse {} input options).trace =
      [.command .init ⟨3, 1, 4⟩, .diagnostic (.unsupported ['X', 'Y']) ⟨3, 1, 4⟩,
        .command .penUp ⟨9, 1, 10⟩, .finished 2] := hquiet.told.trans (by decide +kernel)
  have hcommands : Notice.commands (Parser.parse {} input options).trace =
      [(.init, ⟨3, 1, 4⟩), (.penUp, ⟨9, 1, 10⟩)] := by
    rw [← Notice.commands_told, htold]
    rfl
  have hdiagnostics : Notice.diagnostics (Parser.parse {} input options).trace ≠ [] := by
    rw [← Notice.diagnostics_told, htold]
    exact List.cons_ne_nil _ _
  obtain ⟨_, hrefused, _, hobjected, _⟩ :=
    parse_refusing {} hcarries hsize "no" (by decide : 0 < 2)
  obtain ⟨_, _, _, _, _, houtcome, _, _, htake, _⟩ := hrefused (by rw [hcommands]; decide)
  obtain ⟨earlier, remark, place, later, hsplit, hnone, hstrict, _, hbefore, _⟩ :=
    hobjected hdiagnostics
  have hfirst : earlier = [.command .init ⟨3, 1, 4⟩] ∧ remark = .unsupported ['X', 'Y'] ∧
      place = ⟨3, 1, 4⟩ := by
    rw [htold] at hsplit
    rcases earlier with _ | ⟨a, _ | ⟨b, more⟩⟩
    · cases hsplit
    · cases hsplit
      exact ⟨rfl, rfl, rfl⟩
    · obtain ⟨rfl, htail⟩ := List.cons.inj hsplit
      obtain ⟨rfl, _⟩ := List.cons.inj htail
      cases hnone
  obtain ⟨rfl, rfl, rfl⟩ := hfirst
  refine ⟨hcarries, hsize, houtcome, ?_, hstrict, hbefore⟩
  rw [htake, hcommands]
  rfl

end Parser

end PlotStream
