import PlotStream.Proofs.Acceptance
import PlotStream.Proofs.Lockstep
import PlotStream.Proofs.RunEnds
import PlotStream.Proofs.Tiling

/-!
How a parse gets ahead. Each of its loops moves the lookahead by one character with every turn and
is left at the end of the text at the latest. A command takes three characters or more, its code and
its terminator, so every round of the main loop moves the lookahead by at least as many, and the
number of commands is bounded by the length of the text.
-/

namespace PlotStream

/-- A turn of one of the loops: the search for the first command, a run of blanks, the digits of an
integer, or a command that is skipped. -/
inductive Phase.Loops : Phase → Phase → Prop where
  | preamble (previous next : Option Char) : Loops (.preamble previous) (.preamble next)
  | blanks (due : Due) : Loops (.blanks due) (.blanks due)
  | digits (slot : Slot) (start : Location) (count next : Nat) :
      Loops (.digits slot start count) (.digits slot start next)
  | skipping (code : List Char) (start : Location) :
      Loops (.skipping code start) (.skipping code start)

/-- How many characters of a command have been passed in a phase, and one more. The code counts as
passed with the number of commands, so behind it there is nothing to add before the terminator. -/
def Phase.lead : Phase → Nat
  | .preamble _ => 1
  | .blanks .opcode => 1
  | .secondLetter _ => 2
  | .dispatch _ => 3
  | .closing _ => 1
  | .skipped _ _ => 1
  | _ => 0

/-- A phase behind an operation code that can be left only by loading a character. -/
def Phase.torn : Phase → Bool
  | .blanks .opcode => false
  | .preamble _ => false
  | .secondLetter _ => false
  | .closing _ => false
  | .skipped _ _ => false
  | _ => true

theorem Machine.argumentsOf_lead (code : List Char) (start : Location) :
    (argumentsOf code start).lead = 0 ∧ (argumentsOf code start).torn = true := by
  unfold argumentsOf
  split <;> exact ⟨rfl, rfl⟩

theorem Machine.afterInteger_lead (slot : Slot) (n : Int) :
    (Phase.blanks (afterInteger slot n)).lead = 0 ∧
      (Phase.blanks (afterInteger slot n)).torn = true := by
  cases slot <;> exact ⟨rfl, rfl⟩

namespace Scan

variable {text : List Char} {s next last : Scan} {notice : Option Notice} {told : List Notice}

theorem lookahead_eq_none_iff : (s.view text).lookahead = none ↔ text.length ≤ s.offset :=
  List.getElem?_eq_none_iff

/-- What a step gains: the characters that it passes, or nothing any more because the text is over
in the middle of a command. -/
def Move.Gains (text : List Char) (s : Scan) : Move → Prop
  | .moved next _ =>
    3 * next.count + next.phase.lead + s.offset ≤ 3 * s.count + s.phase.lead + next.offset ∨
      text.length ≤ next.offset ∧ next.phase.torn = true
  | _ => True

section Gains

variable {phase : Phase}

theorem advance_gains (hlead : phase.lead ≤ s.phase.lead + 1)
    (hsome : (s.view text).lookahead ≠ none ∨ phase.torn = true) :
    (s.advance (s.view text) phase).Gains text s := by
  cases hlook : (s.view text).lookahead with
  | some c =>
      refine Or.inl ?_
      simp only [hlook, Option.isSome_some, if_true]
      omega
  | none =>
      rcases hsome with hne | htorn
      · exact absurd hlook hne
      · refine Or.inr ⟨?_, htorn⟩
        simpa [hlook] using lookahead_eq_none_iff.mp hlook

theorem become_gains (hlead : phase.lead ≤ s.phase.lead) : (s.become phase).Gains text s :=
  Or.inl (by dsimp only; omega)

theorem tell_gains (hlead : 1 ≤ s.phase.lead) (told : Notice) : (s.tell told).Gains text s := by
  have hopcode : (Phase.blanks .opcode).lead = 1 := rfl
  refine Or.inl ?_
  dsimp only
  omega

theorem afterBlanks_gains {due : Due} (hphase : s.phase = .blanks due) :
    (s.afterBlanks (s.view text) due).Gains text s := by
  have hlead : s.phase.lead = (Phase.blanks due).lead := congrArg Phase.lead hphase
  cases due with
  | opcode =>
      rw [afterBlanks]
      split
      · trivial
      next hsome =>
        -- Taking down the place changes nothing that counts here.
        let placed := { s with opcodePlace := some (s.view text).place }
        have htwo : (Phase.secondLetter (s.view text).place).lead ≤ placed.phase.lead + 1 := by
          rw [hlead]
          exact Nat.le_refl 2
        exact advance_gains htwo (Or.inl hsome)
  | terminator c =>
      rw [afterBlanks]
      split
      next hsome =>
        have hne : (s.view text).lookahead ≠ none := by simp [hsome]
        exact advance_gains (Nat.le_add_left 1 _) (Or.inl hne)
      · trivial
  | optionalPen =>
      rw [afterBlanks]
      split
      · exact become_gains (Nat.zero_le _)
      · exact become_gains (Nat.zero_le _)
  | integer slot =>
      rw [afterBlanks]
      split
      · exact advance_gains (Nat.zero_le _) (Or.inr rfl)
      · exact become_gains (Nat.zero_le _)
  | separator x =>
      rw [afterBlanks]
      split
      · exact advance_gains (Nat.zero_le _) (Or.inr rfl)
      · trivial

end Gains

/-- A step keeps up with the commands that it counts, unless the text is over. -/
theorem step_gains (text : List Char) (s : Scan) : (s.step text).Gains text s := by
  have hlead : ∀ phase, s.phase = phase → s.phase.lead = phase.lead := fun _ => congrArg Phase.lead
  rw [step, react]
  cases hphase : s.phase with
  | preamble previous =>
      have hone := hlead _ hphase
      dsimp only
      split
      · exact advance_gains (Nat.zero_le _) (Or.inr rfl)
      split
      · exact tell_gains (Nat.le_of_eq hone.symm) _
      next hsome =>
        refine advance_gains ?_ (Or.inl hsome)
        exact Nat.le_trans (Nat.le_of_eq hone.symm) (Nat.le_succ _)
  | blanks due =>
      dsimp only
      split
      next hblank =>
        have hne : (s.view text).lookahead ≠ none := by
          intro hnone
          simp [hnone] at hblank
        refine advance_gains ?_ (Or.inl hne)
        rw [hlead _ hphase]
        exact Nat.le_succ _
      · exact afterBlanks_gains hphase
  | secondLetter start =>
      refine advance_gains ?_ (Or.inr rfl)
      rw [hlead _ hphase]
      exact Nat.le_refl 3
  | dispatch start =>
      obtain ⟨hnext, _⟩ := Machine.argumentsOf_lead (s.view text).token start
      have hthree : s.phase.lead = 3 := hlead _ hphase
      refine Or.inl ?_
      dsimp only
      omega
  | leadingDigit slot start =>
      dsimp only
      split
      · exact advance_gains (Nat.zero_le _) (Or.inr rfl)
      split
      · exact advance_gains (Nat.zero_le _) (Or.inr rfl)
      · trivial
  | digits slot start count =>
      dsimp only
      split
      · trivial
      split
      · exact advance_gains (Nat.zero_le _) (Or.inr rfl)
      · exact become_gains (Nat.zero_le _)
  | literal slot start =>
      dsimp only
      split
      · refine become_gains ?_
        rw [(Machine.afterInteger_lead slot _).1]
        exact Nat.zero_le _
      · trivial
  | closing c => exact tell_gains (Nat.le_of_eq (hlead _ hphase).symm) _
  | skipping code start =>
      dsimp only
      split
      next hsome =>
        have hne : (s.view text).lookahead ≠ none := by simp [hsome]
        exact advance_gains (Nat.le_add_left 1 _) (Or.inl hne)
      split
      · trivial
      · exact advance_gains (Nat.zero_le _) (Or.inr rfl)
  | skipped code start => exact tell_gains (Nat.le_of_eq (hlead _ hphase).symm) _

/-- A move in the middle of a command behind which there is no text. -/
def Move.Torn (offset : Nat) : Move → Prop
  | .moved next _ => next.offset = offset ∧ next.phase.torn = true
  | _ => True

theorem become_torn {phase : Phase} (h : phase.torn = true) : (s.become phase).Torn s.offset :=
  ⟨rfl, h⟩

/-- Where the text is over in the middle of a command, the scan does not get out of it. -/
theorem step_torn (hend : text.length ≤ s.offset) (htorn : s.phase.torn = true) :
    (s.step text).Torn s.offset := by
  have hnone : (s.view text).lookahead = none := lookahead_eq_none_iff.mpr hend
  rw [step, react]
  cases hphase : s.phase with
  | preamble previous => simp [hphase, Phase.torn] at htorn
  | blanks due =>
      simp only [hnone, Option.any_none, Bool.false_eq_true, if_false]
      cases due with
      | opcode => simp [hphase, Phase.torn] at htorn
      | terminator c => simp [afterBlanks, hnone, Move.Torn]
      | optionalPen =>
          simp only [afterBlanks, hnone, Option.any_none, Bool.false_eq_true, if_false]
          exact become_torn rfl
      | integer slot =>
          simp only [afterBlanks, hnone, reduceCtorEq, if_false]
          exact become_torn rfl
      | separator x => simp [afterBlanks, hnone, Move.Torn]
  | secondLetter start => simp [hphase, Phase.torn] at htorn
  | dispatch start => exact ⟨rfl, (Machine.argumentsOf_lead _ start).2⟩
  | leadingDigit slot start => simp [hnone, Move.Torn]
  | digits slot start count =>
      simp only [hnone, Option.any_none, Bool.false_eq_true, if_false]
      split
      · trivial
      · exact become_torn rfl
  | literal slot start =>
      dsimp only
      split
      · exact become_torn (Machine.afterInteger_lead slot _).2
      · trivial
  | closing c => simp [hphase, Phase.torn] at htorn
  | skipping code start => simp [hnone, Move.Torn]
  | skipped code start => simp [hphase, Phase.torn] at htorn

/-- How far a scan has come from `s`: it keeps up with the commands counted since, unless the text
is over in the middle of one. -/
def Ahead (text : List Char) (s here : Scan) : Prop :=
  3 * here.count + here.phase.lead + s.offset ≤ 3 * s.count + s.phase.lead + here.offset ∨
    text.length ≤ here.offset ∧ here.phase.torn = true

theorem Ahead.step {here : Scan} (h : s.Ahead text here)
    (hmove : here.step text = .moved next notice) : s.Ahead text next := by
  rcases h with hahead | ⟨hend, htorn⟩
  · have hgains := step_gains text here
    rw [hmove] at hgains
    rcases hgains with hgains | htorn
    · exact Or.inl (by omega)
    · exact Or.inr htorn
  · have hstays := step_torn hend htorn
    rw [hmove] at hstays
    exact Or.inr ⟨hstays.1.symm ▸ hend, hstays.2⟩

theorem Path.ahead (h : Path text s told last) : s.Ahead text last := by
  let Kept := fun (here : Scan) (_ : List Notice) => s.Ahead text here
  have hkept : Kept last told := h.preserves (Or.inl (Nat.le_refl _)) Ahead.step
  exact hkept

/-- From one command to a later one, the scan has passed three characters for each of them. -/
theorem Path.three_mul_count_le (h : Path text s told last) (hs : s.phase = .blanks .opcode)
    (hlast : last.phase = .blanks .opcode) :
    s.offset + 3 * last.count ≤ last.offset + 3 * s.count := by
  have hahead := h.ahead
  rw [Ahead, hs, hlast] at hahead
  rcases hahead with hahead | ⟨_, htorn⟩
  · omega
  · cases htorn

section Turns

variable {phase : Phase}

theorem turn_of_advance (hmove : s.advance (s.view text) phase = .moved next notice)
    (hsome : (s.view text).lookahead ≠ none) :
    s.offset < text.length ∧ next.offset = s.offset + 1 := by
  have hlt : s.offset < text.length := Nat.lt_of_not_le (mt lookahead_eq_none_iff.mpr hsome)
  obtain ⟨rfl, _⟩ := Move.moved.inj hmove
  exact ⟨hlt, if_pos (Option.isSome_iff_ne_none.mpr hsome)⟩

/-- What comes after blanks is no further turn of that loop. -/
theorem afterBlanks_phase_ne {view : View} {due : Due}
    (hmove : s.afterBlanks view due = .moved next notice) : next.phase ≠ .blanks due := by
  cases due <;> rw [afterBlanks] at hmove <;> split at hmove <;> cases hmove <;> simp

/-- Every turn of a loop loads a character, and there is none without a character to load. -/
theorem turn_of_loops (hmove : s.step text = .moved next notice)
    (hloops : s.phase.Loops next.phase) : s.offset < text.length ∧ next.offset = s.offset + 1 := by
  rw [step, react] at hmove
  generalize hphase : s.phase = phase at hmove hloops
  generalize hphase' : next.phase = phase' at hloops
  cases hloops with
  | preamble previous following =>
      dsimp only at hmove
      split at hmove
      · cases hmove; cases hphase'
      split at hmove
      · cases hmove; cases hphase'
      next hsome => exact turn_of_advance hmove hsome
  | blanks due =>
      dsimp only at hmove
      split at hmove
      next hblank =>
        refine turn_of_advance hmove fun hnone => ?_
        simp [hnone] at hblank
      · exact absurd hphase' (afterBlanks_phase_ne hmove)
  | digits slot start count following =>
      dsimp only at hmove
      split at hmove
      · cases hmove
      split at hmove
      next hdigit =>
        refine turn_of_advance hmove fun hnone => ?_
        simp [hnone] at hdigit
      · cases hmove; cases hphase'
  | skipping code start =>
      dsimp only at hmove
      split at hmove
      · cases hmove; cases hphase'
      split at hmove
      · cases hmove
      next hsome => exact turn_of_advance hmove hsome

end Turns

end Scan

namespace Sentence

theorem three_le_length_text (sentence : Sentence) : 3 ≤ sentence.text.length := by
  obtain ⟨a, b, body, htext, _, _⟩ := sentence.exists_body
  simp only [htext, List.length_append, List.length_cons, List.length_nil]
  omega

theorem three_mul_length_le (sentences : List (Gap × Sentence)) :
    3 * sentences.length ≤ (textOf sentences).length := by
  induction sentences with
  | nil => exact Nat.zero_le _
  | cons entry more ih =>
      have hsentence := entry.2.three_le_length_text
      simp only [textOf, List.flatMap_cons, List.length_append, List.length_cons] at ih ⊢
      omega

end Sentence

/-- A drawing has three characters for the first command and for each of its sentences. -/
theorem Drawing.three_mul_length_le (d : Drawing) : 3 * d.sentences.length + 3 ≤ d.text.length := by
  have hsentences := Sentence.three_mul_length_le d.sentences
  have hhead : 3 ≤ d.head.length := by
    simp only [head, List.length_append, List.length_cons, List.length_nil]
    omega
  rw [d.length_text]
  omega

namespace Machine

variable {text : List Char} {ending : Option ReadFailure} {s : Scan} {m next last : Machine}

theorem Follows.offset_eq (h : m.Follows text ending s) : m.reader.location.offset = s.offset := by
  rw [h.place]
  rfl

theorem Follows.turn (h : m.Follows text ending s) {notice : Option Notice}
    (hstep : m.step = .moved next notice) (hloops : m.phase.Loops next.phase) :
    m.reader.location.offset < text.length ∧
      next.reader.location.offset = m.reader.location.offset + 1 := by
  obtain ⟨s', _, hmove, hfollows⟩ := h.next_step hstep
  rw [h.phase, hfollows.phase] at hloops
  obtain ⟨hlt, heq⟩ := Scan.turn_of_loops hmove hloops
  rw [h.offset_eq, hfollows.offset_eq, heq]
  exact ⟨by exact_mod_cast hlt, by push_cast; rfl⟩

theorem Follows.three_mul_count_le (h : m.Follows text ending s) {n : Nat}
    {account : List Notice} (hmakes : m.Makes n account last) (hm : m.phase = .blanks .opcode)
    (hlast : last.phase = .blanks .opcode) :
    m.reader.location.offset + 3 * last.count ≤ last.reader.location.offset + 3 * m.count := by
  obtain ⟨told, s', hpath, hfollows⟩ := h.makes hmakes
  rw [h.phase] at hm
  rw [hfollows.phase] at hlast
  have hle := hpath.three_mul_count_le hm hlast
  rw [h.offset_eq, hfollows.offset_eq, h.count, hfollows.count]
  omega

end Machine

namespace Parser

variable {reader : Reader} {text : List Char} {ending : Option ReadFailure}

/-- The request for the first character is a turn like any other. -/
theorem start_turn (parser : Parser) (hloaded : reader.Loaded text ending 0)
    (hcapture : reader.Captures text none) {next : Machine}
    {notice : Option Notice} (hmachine : (parser.start reader).step = .moved next notice) :
    (parser.start reader).reader.location.offset < text.length ∧
      next.reader.location.offset = (parser.start reader).reader.location.offset + 1 := by
  have hposition := hloaded.position
  have hbefore : (parser.start reader).reader.location.offset = -1 := by
    simp only [start, Reader.location, Reader.currentIndex, hloaded.running, Bool.false_eq_true,
      if_false]
    omega
  rcases parser.first_step hloaded hcapture with
    ⟨first, told, hstep, _, hfirst⟩ | ⟨last, cause, hstep, _, _, _⟩
  · obtain ⟨rfl, _⟩ := Step.moved.inj (hstep.symm.trans hmachine)
    rw [hbefore, hfirst.offset_eq]
    exact ⟨by omega, rfl⟩
  · cases hstep.symm.trans hmachine

theorem turn_of_makes (parser : Parser) (hloaded : reader.Loaded text ending 0)
    (hcapture : reader.Captures text none) {n : Nat} {account : List Notice} {m next : Machine}
    {notice : Option Notice} (hmakes : (parser.start reader).Makes n account m)
    (hstep : m.step = .moved next notice) (hloops : m.phase.Loops next.phase) :
    m.reader.location.offset < text.length ∧
      next.reader.location.offset = m.reader.location.offset + 1 := by
  cases n with
  | zero =>
      cases hmakes
      exact parser.start_turn hloaded hcapture hstep
  | succ n =>
      obtain ⟨_, _, _, hfollows⟩ := parser.follows_of_makes hloaded hcapture hmakes
      exact hfollows.turn hstep hloops

theorem three_mul_count_le_of_makes (parser : Parser) (hloaded : reader.Loaded text ending 0)
    (hcapture : reader.Captures text none) {n k : Nat} {account more : List Notice}
    {m last : Machine} (hmakes : (parser.start reader).Makes n account m)
    (hmore : m.Makes k more last)
    (hm : m.phase = .blanks .opcode) (hlast : last.phase = .blanks .opcode) :
    m.reader.location.offset + 3 * last.count ≤ last.reader.location.offset + 3 * m.count := by
  cases n with
  | zero =>
      cases hmakes
      cases hm
  | succ n =>
      obtain ⟨_, _, _, hfollows⟩ := parser.follows_of_makes hloaded hcapture hmakes
      exact hfollows.three_mul_count_le hmore hm hlast

/-- Every parse gets ahead until it ends. Whoever listens and however the source cuts and ends the
text, there is a bound on the number of steps, which comes from the source alone. A turn of a loop
is made only in front of the end of the text, and it moves the lookahead by one character, the first
one from its place before the text. From one command to a later one the lookahead moves by three
characters or more for each command, and so there are three for every command that is counted at the
end, and three for the first one. -/
theorem parse_gets_ahead [Encoding.Registry] (parser : Parser) {input : Input} {options : Options}
    {source : Nat → Source} (hsource : input.source options.encoding = .ok source)
    (hgives : (source (options.bufferSizeFor input).toNat).Gives text ending)
    (hsize : 0 < options.bufferSizeFor input) :
    let report := parser.parse input options
    ∃ reader, input.reader options = .ok reader ∧
      (let start := parser.start reader
       let run := start.run parser.listener
       report = .ofRun run ∧
        (∃ n told final,
          n ≤ 5 * ((source (options.bufferSizeFor input).toNat).weight + 1) + 3 ∧
            start.Makes n told final ∧ run.EndsAt final) ∧
        (∀ n told m next notice, start.Makes n told m → m.step = .moved next notice →
          m.phase.Loops next.phase →
          m.reader.location.offset < text.length ∧
            next.reader.location.offset = m.reader.location.offset + 1) ∧
        (∀ n told m k more last, start.Makes n told m → m.Makes k more last →
          m.phase = .blanks .opcode → last.phase = .blanks .opcode →
          m.reader.location.offset + 3 * last.count ≤
            last.reader.location.offset + 3 * m.count)) ∧
      ∀ n, report.outcome = .ok n → ['I', 'N'] <:+: text → 3 * n + 3 ≤ text.length := by
  intro report
  set size := (options.bufferSizeFor input).toNat
  have hreader := Input.reader_eq hsource hsize
  have hloaded := Reader.loaded_zero hgives size
  have hcapture : Reader.Captures text { source := source size, bufferSize := size } none :=
    ⟨rfl, rfl⟩
  refine ⟨_, hreader, ⟨parser.parse_of_reader hreader, ?_, ?_, ?_⟩, ?_⟩
  · obtain ⟨n, told, final, hmakes, hend, _⟩ :=
      (parser.start { source := source size, bufferSize := size }).exists_end parser.listener []
    have heffort : (parser.start { source := source size, bufferSize := size }).effort =
        5 * ((source size).weight + 1) + 3 := by
      simp [Machine.effort, start, Reader.unread, Phase.rank]
    refine ⟨n, told, final, ?_, hmakes, hend⟩
    exact heffort ▸ Nat.le_trans (Nat.le_add_right _ _) hmakes.effort_le
  · intro n told m next notice hmakes hstep hloops
    exact parser.turn_of_makes hloaded hcapture hmakes hstep hloops
  · intro n told m k more last hmakes hmore hm hlast
    exact parser.three_mul_count_le_of_makes hloaded hcapture hmakes hmore hm hlast
  · intro n hn hinit
    obtain ⟨told, last, hpath, _, hend⟩ := parser.exists_path_told hsource hgives hsize
    obtain ⟨hfinished, rfl⟩ := hend n hn
    rcases (hpath.explained rfl rfl rfl).finished hfinished with
      ⟨habsent, _, _⟩ | ⟨d, rfl, hcount, _⟩
    · exact absurd hinit habsent
    · rw [hcount]
      exact d.three_mul_length_le

/-- A text that ends in the middle of a command comes to its end as well. -/
theorem parse_gets_ahead_torn :
    let pieces := [['I', 'N', ';', 'P'], ['A', '1']]
    let input := Input.chunks (pieces.map .text ++ [])
    let options : Options := { bufferSize := some 4 }
    let source := Source.ofChunks (pieces.map .text ++ [])
    input.source options.encoding = .ok (fun _ => source) ∧ source.Gives pieces.flatten none ∧
      0 < options.bufferSizeFor input ∧
      ∃ reader, input.reader options = .ok reader ∧
        ∃ n told final, n ≤ 48 ∧ (Parser.start {} reader).Makes n told final ∧
          ((Parser.start {} reader).run {}).EndsAt final := by
  intro pieces input options source
  have hgives : source.Gives pieces.flatten none :=
    Source.gives_ofChunks pieces [] (by decide) (Or.inl rfl)
  have hsize : 0 < options.bufferSizeFor input := by decide
  obtain ⟨reader, hreader, ⟨_, hends, _⟩, _⟩ := Parser.parse_gets_ahead {} rfl hgives hsize
  exact ⟨rfl, hgives, hsize, reader, hreader, hends⟩

end Parser

end PlotStream
