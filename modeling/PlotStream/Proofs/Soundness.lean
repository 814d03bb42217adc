import PlotStream.Proofs.Completeness

/-!
Whatever a scan has read can be explained by the grammar. `Scan.Explained` says how the text so far
is built: it is still searched for its first command, or it is a drawing with a part of a further
sentence behind it, and what was told is what the drawing means. Each step keeps the explanation,
so an accepted text has one as a whole. The phases within a sentence are treated one by one; then
the few that are not within a sentence.
-/

namespace PlotStream

/-- How a phase within a sentence comes from the part of the sentence that has been read. The
sentence begins at `base`; `owed` is one as long as the code has not been counted. A code of a
single character is followed by nothing. -/
inductive Phase.Within (text : List Char) (base : Nat) :
    Phase → (owed : Nat) → (read rest : List Char) → Prop where
  | letter {a : Char} {rest : List Char} (ha : Text.isBlank a = false) :
      Within text base (.secondLetter (.ofOffset text base)) 1 [a] rest
  | code {a b : Char} {rest : List Char} (ha : Text.isBlank a = false) :
      Within text base (.dispatch (.ofOffset text base)) 1 [a, b] rest
  | torn {a : Char} (ha : Text.isBlank a = false) :
      Within text base (.dispatch (.ofOffset text base)) 1 [a] []
  | arguments {due : Due} {read rest : List Char} (hread : due.Reads read) :
      Within text base (.blanks due) 0 read rest
  | leading {slot : Slot} {read rest : List Char} (negative : Bool) (hread : slot.Reads read) :
      Within text base (.leadingDigit slot (.ofOffset text (base + read.length))) 0
        (read ++ Literal.sign negative) rest
  | digits {slot : Slot} {read rest : List Char} {c : Char} {more : List Char} (negative : Bool)
      (hread : slot.Reads read) (hdecimal : ∀ d ∈ c :: more, Numeral.isDigit d = true)
      (hzero : c ≠ '0') (hlength : more.length ≤ Numeral.maxDigits) :
      Within text base (.digits slot (.ofOffset text (base + read.length)) (more.length + 1)) 0
        (read ++ (Literal.sign negative ++ c :: more)) rest
  | literal {slot : Slot} {read rest : List Char} (lit : Literal) (hread : slot.Reads read)
      (hlength : lit.digits.length ≤ Numeral.maxDigits)
      (hover : lit.digits = ['0'] ∨ rest.head?.any Numeral.isDigit = false) :
      Within text base (.literal slot (.ofOffset text (base + read.length))) 0
        (read ++ lit.text) rest
  | closing {c : Command} {sentence : Sentence} {rest : List Char}
      (hmeaning : sentence.meaning = .ok c) : Within text base (.closing c) 0 sentence.text rest
  | skipping (other : Foreign) {rest : List Char} :
      Within text base (.skipping other.code (.ofOffset text base)) 0 (other.code ++ other.body) rest
  | tornSkipping {a : Char} (ha : Text.isBlank a = false) :
      Within text base (.skipping [a] (.ofOffset text base)) 0 [a] []
  | skipped (other : Foreign) {rest : List Char} :
      Within text base (.skipped other.code (.ofOffset text base)) 0 (Sentence.foreign other).text
        rest

/-- How the text that a scan has read is built, and what it has told. -/
inductive Scan.Explained (text : List Char) (s : Scan) : List Notice → Prop where
  | searching {read rest : List Char} (hphase : s.phase = .preamble read.getLast?)
      (hsplits : s.Splits text read rest) (hcount : s.count = 0)
      (habsent : Text.WithoutInit read) : Explained text s []
  | absent (hphase : s.phase = .blanks .opcode) (hsplits : s.Splits text text [])
      (hcount : s.count = 0) (habsent : Text.WithoutInit text) :
      Explained text s [.diagnostic .noInit (.ofOffset text text.length)]
  | opening {preamble rest : List Char} {gap : Gap}
      (hphase : s.phase = .blanks (.terminator .init))
      (hsplits : s.Splits text (preamble ++ ['I', 'N'] ++ gap.text) rest) (hcount : s.count = 0)
      (hfirst : Text.WithoutInit (preamble ++ ['I'])) : Explained text s []
  | opened {preamble rest : List Char} {gap : Gap} (hphase : s.phase = .closing .init)
      (hsplits : s.Splits text (preamble ++ ['I', 'N'] ++ gap.text ++ [';']) rest)
      (hcount : s.count = 0) (hfirst : Text.WithoutInit (preamble ++ ['I'])) : Explained text s []
  | between {d : Drawing} {rest : List Char} (hphase : s.phase = .blanks .opcode)
      (hsplits : s.Splits text d.text rest) (hcount : s.count = d.sentences.length) :
      Explained text s (d.toldIn text)
  | within {d : Drawing} {owed : Nat} {read rest : List Char}
      (hphase : s.phase.Within text d.text.length owed read rest)
      (hsplits : s.Splits text (d.text ++ read) rest)
      (hcount : s.count + owed = d.sentences.length + 1) : Explained text s (d.toldIn text)

namespace Scan

/-- Where a step from within a sentence leads: further into the sentence, or behind it. -/
inductive GoesOn (text : List Char) (d : Drawing) (count : Nat) : Scan → Option Notice → Prop where
  | within {next : Scan} {owed : Nat} {read rest : List Char}
      (hphase : next.phase.Within text d.text.length owed read rest)
      (hsplits : next.Splits text (d.text ++ read) rest) (hcount : next.count + owed = count) :
      GoesOn text d count next none
  | behind {next : Scan} {sentence : Sentence} {rest : List Char}
      (hphase : next.phase = .blanks .opcode)
      (hsplits : next.Splits text (d.text ++ sentence.text) rest) (hcount : next.count = count) :
      GoesOn text d count next (some (sentence.notice text d.text.length))

theorem GoesOn.explained {text : List Char} {d : Drawing} {next : Scan} {notice : Option Notice}
    (h : GoesOn text d (d.sentences.length + 1) next notice) :
    next.Explained text (d.toldIn text ++ notice.toList) := by
  cases h with
  | within hphase hsplits hcount =>
      rw [Option.toList_none, List.append_nil]
      exact .within hphase hsplits hcount
  | @behind sentence rest hphase hsplits hcount =>
      rw [Option.toList_some, ← Drawing.toldIn_push]
      rw [← Drawing.text_push] at hsplits
      exact .between hphase hsplits (by simp [hcount, Drawing.push])

variable {text read rest : List Char} {d : Drawing} {s next : Scan} {notice : Option Notice}
  {phase : Phase} {count : Nat}

/-- A step that loads a character has one to load, or stays at the end. -/
theorem Splits.advance_cases (h : s.Splits text read rest)
    (hmove : s.advance (s.view text) phase = .moved next notice) :
    notice = none ∧ next.phase = phase ∧ next.count = s.count ∧
      ((∃ c more, rest = c :: more ∧ next.Splits text (read ++ [c]) more) ∨
        (rest = [] ∧ next.Splits text read [])) := by
  cases rest with
  | nil =>
      simp only [Scan.advance, h.lookahead, List.head?_nil, Option.isSome_none, Bool.false_eq_true,
        if_false, Move.moved.injEq] at hmove
      obtain ⟨rfl, rfl⟩ := hmove
      exact ⟨rfl, rfl, rfl, Or.inr ⟨rfl, h.of_offset rfl⟩⟩
  | cons c more =>
      rw [h.advance, Move.moved.injEq] at hmove
      obtain ⟨rfl, rfl⟩ := hmove
      exact ⟨rfl, rfl, rfl, Or.inl ⟨c, more, rfl, h.next phase⟩⟩

/-- A step into a further phase of the sentence by loading the character `c`. -/
theorem GoesOn.load {c : Char} {more : List Char}
    (hsplits : s.Splits text (d.text ++ read) (c :: more)) (hcount : s.count = count)
    (hphase : phase.Within text d.text.length 0 (read ++ [c]) more)
    (hmove : s.advance (s.view text) phase = .moved next notice) :
    GoesOn text d count next notice := by
  rw [hsplits.advance, Move.moved.injEq] at hmove
  obtain ⟨rfl, rfl⟩ := hmove
  have hnext := hsplits.next phase
  rw [List.append_assoc] at hnext
  exact .within hphase hnext hcount

/-- A step into a further phase of the sentence at the same character. -/
theorem GoesOn.turn (hsplits : s.Splits text (d.text ++ read) rest) (hcount : s.count = count)
    (hphase : phase.Within text d.text.length 0 read rest)
    (hmove : s.become phase = .moved next notice) : GoesOn text d count next notice := by
  rw [Scan.become, Move.moved.injEq] at hmove
  obtain ⟨rfl, rfl⟩ := hmove
  exact .within hphase (hsplits.of_offset rfl) hcount

/-- A step out of the sentence. -/
theorem GoesOn.leave {sentence : Sentence} {told : Notice}
    (hsplits : s.Splits text (d.text ++ sentence.text) rest) (hcount : s.count = count)
    (htold : told = sentence.notice text d.text.length)
    (hmove : s.tell told = .moved next notice) : GoesOn text d count next notice := by
  rw [Scan.tell, Move.moved.injEq] at hmove
  obtain ⟨rfl, rfl⟩ := hmove
  subst htold
  exact .behind rfl (hsplits.of_offset rfl) hcount

end Scan

theorem Machine.argumentsOf_within (text : List Char) (base : Nat) {a b : Char}
    {rest : List Char} (ha : Text.isBlank a = false) :
    (Machine.argumentsOf [a, b] (.ofOffset text base)).Within text base 0 [a, b] rest := by
  by_cases hsupported : [a, b] ∈ supportedCodes
  · simp only [supportedCodes, List.mem_cons, List.cons.injEq, and_true, List.not_mem_nil,
      or_false] at hsupported
    rcases hsupported with ⟨rfl, rfl⟩ | ⟨rfl, rfl⟩ | ⟨rfl, rfl⟩ | ⟨rfl, rfl⟩ | ⟨rfl, rfl⟩
    · exact .arguments ⟨.empty, rfl⟩
    · exact .arguments ⟨.plain .penDown .empty, rfl, rfl⟩
    · exact .arguments ⟨.plain .penUp .empty, rfl, rfl⟩
    · exact .arguments ⟨.plain .init .empty, rfl, rfl⟩
    · exact .arguments ⟨.empty, rfl⟩
  · rw [argumentsOf_unknown hsupported]
    exact .skipping ⟨a, b, [], ha, hsupported, by simp⟩

namespace Scan

variable {text read rest : List Char} {d : Drawing} {s next : Scan} {notice : Option Notice}
  {count : Nat}

/-- After the blanks of a sentence. -/
theorem afterBlanks_goesOn {due : Due} (hread : due.Reads read)
    (hsplits : s.Splits text (d.text ++ read) rest) (hcount : s.count = count)
    (hmove : s.afterBlanks (s.view text) due = .moved next notice) :
    GoesOn text d count next notice := by
  cases due with
  | opcode => exact hread.elim
  | terminator c =>
      obtain ⟨sentence, hmeaning, htext⟩ := hread
      simp only [Scan.afterBlanks, hsplits.lookahead] at hmove
      split at hmove
      next hhead =>
        obtain ⟨more, rfl⟩ := List.head?_eq_some_iff.mp hhead
        refine GoesOn.load hsplits hcount ?_ hmove
        rw [← htext]
        exact .closing hmeaning
      next => cases hmove
  | optionalPen =>
      simp only [Scan.afterBlanks] at hmove
      split at hmove
      · have hpen : (Due.integer .pen).Reads read := hread
        exact GoesOn.turn hsplits hcount (.arguments hpen) hmove
      · exact GoesOn.turn hsplits hcount (.arguments hread.noPen) hmove
  | integer slot =>
      have hplace : (s.view text).place = .ofOffset text (d.text.length + read.length) := by
        rw [hsplits.place, List.length_append]
      simp only [Scan.afterBlanks, hsplits.lookahead, hplace] at hmove
      split at hmove
      next hhead =>
        obtain ⟨more, rfl⟩ := List.head?_eq_some_iff.mp hhead
        exact GoesOn.load hsplits hcount (.leading true hread) hmove
      next =>
        refine GoesOn.turn hsplits hcount ?_ hmove
        simpa [Literal.sign] using Phase.Within.leading false hread
  | separator x =>
      simp only [Scan.afterBlanks, hsplits.lookahead] at hmove
      split at hmove
      next hhead =>
        obtain ⟨more, rfl⟩ := List.head?_eq_some_iff.mp hhead
        exact GoesOn.load hsplits hcount (.arguments hread.separated) hmove
      next => cases hmove

theorem mark_ofOffset {phase : Phase} {start : Location} (text : List Char) {offset : Nat}
    (hmark : phase.mark = some start.offset.toNat) (hstart : start = .ofOffset text offset) :
    phase.mark = some offset := by
  rw [hmark, hstart]
  simp [Location.ofOffset]

theorem exists_cons_of_any {cs : List Char} {p : Char → Bool} (h : cs.head?.any p = true) :
    ∃ c more, cs = c :: more ∧ p c = true := by
  cases cs with
  | nil => simp at h
  | cons c more => exact ⟨c, more, rfl, by simpa using h⟩

/-- A step from within a sentence. -/
theorem within_goesOn {owed : Nat} (hphase : s.phase.Within text d.text.length owed read rest)
    (hsplits : s.Splits text (d.text ++ read) rest) (hcount : s.count + owed = count)
    (hmove : s.step text = .moved next notice) : GoesOn text d count next notice := by
  rw [Scan.step, react] at hmove
  generalize hs : s.phase = phase at hphase hmove
  cases hphase with
  | @letter a rest ha =>
      obtain ⟨rfl, hnext, hsame, hrest⟩ := hsplits.advance_cases hmove
      have howed : next.count + 1 = count := by rw [hsame, hcount]
      rcases hrest with ⟨b, more, rfl, hsplits'⟩ | ⟨rfl, hsplits'⟩
      · rw [List.append_assoc] at hsplits'
        exact .within (hnext ▸ .code ha) hsplits' howed
      · exact .within (hnext ▸ .torn ha) hsplits' howed
  | @code a b rest ha =>
      have hmark : s.phase.mark = some d.text.length := by
        rw [hs]
        exact mark_ofOffset text rfl rfl
      simp only [hsplits.token hmark] at hmove
      refine GoesOn.turn (hsplits.of_offset ?_) ?_ ?_ hmove
      · rfl
      · exact hcount
      · exact Machine.argumentsOf_within text d.text.length ha
  | @torn a ha =>
      have hmark : s.phase.mark = some d.text.length := by
        rw [hs]
        exact mark_ofOffset text rfl rfl
      have hunknown : [a] ∉ supportedCodes := by simp [supportedCodes]
      simp only [hsplits.token hmark, Machine.argumentsOf_unknown hunknown] at hmove
      refine GoesOn.turn (hsplits.of_offset ?_) ?_ ?_ hmove
      · rfl
      · exact hcount
      · exact .tornSkipping ha
  | @arguments due read rest hread =>
      simp only [hsplits.lookahead] at hmove
      split at hmove
      next hblank =>
        obtain ⟨c, more, rfl, hc⟩ := exists_cons_of_any hblank
        exact GoesOn.load hsplits hcount (.arguments (hread.blank hc)) hmove
      next => exact afterBlanks_goesOn hread hsplits hcount hmove
  | @leading slot read rest negative hread =>
      simp only [hsplits.lookahead] at hmove
      split at hmove
      next hhead =>
        obtain ⟨more, rfl⟩ := List.head?_eq_some_iff.mp hhead
        refine GoesOn.load hsplits hcount ?_ hmove
        rw [List.append_assoc]
        exact .literal (.zero negative) hread (Nat.le_of_ble_eq_true rfl) (Or.inl rfl)
      next hzero =>
        split at hmove
        next hdigit =>
          obtain ⟨c, more, rfl, hc⟩ := exists_cons_of_any hdigit
          refine GoesOn.load hsplits hcount ?_ hmove
          rw [List.append_assoc]
          have hnonzero : c ≠ '0' := by simpa using hzero
          have hone : ∀ b ∈ [c], Numeral.isDigit b = true := by simpa using hc
          exact .digits negative hread hone hnonzero (Nat.zero_le _)
        next => cases hmove
  | @digits slot read rest c more negative hread hdecimal hzero _ =>
      simp only [hsplits.lookahead] at hmove
      split at hmove
      next => cases hmove
      next hfew =>
        split at hmove
        next hdigit =>
          obtain ⟨b, later, rfl, hb⟩ := exists_cons_of_any hdigit
          refine GoesOn.load hsplits hcount ?_ hmove
          have hmore : ∀ e ∈ c :: (more ++ [b]), Numeral.isDigit e = true := by
            intro e he
            rcases List.mem_append.mp (List.cons_append ▸ he) with hold | hlast
            · exact hdecimal e hold
            · obtain rfl := List.mem_singleton.mp hlast
              exact hb
          have hlength : (more ++ [b]).length ≤ Numeral.maxDigits := by
            simp only [List.length_append, List.length_singleton]
            omega
          simpa using Phase.Within.digits negative hread hmore hzero hlength
        next hover =>
          let lit : Literal := ⟨negative, c :: more, hdecimal, by simp, by simp [hzero]⟩
          have hlength : lit.digits.length ≤ Numeral.maxDigits := Nat.not_lt.mp hfew
          exact GoesOn.turn hsplits hcount
            (.literal lit hread hlength (Or.inr (by simpa using hover))) hmove
  | @literal slot read rest lit hread _ _ =>
      rw [← List.append_assoc] at hsplits
      have hmark : s.phase.mark = some (d.text ++ read).length := by
        rw [hs, List.length_append]
        exact mark_ofOffset text rfl rfl
      simp only [hsplits.token hmark, lit.value_text] at hmove
      split at hmove
      next hrange =>
        let n : Number := ⟨lit, lit.inRange_iff.mp hrange⟩
        rw [List.append_assoc] at hsplits
        exact GoesOn.turn hsplits hcount (.arguments (hread.number n)) hmove
      next => cases hmove
  | @closing c sentence rest hmeaning =>
      refine GoesOn.leave hsplits hcount ?_ hmove
      simp only [Sentence.notice, hmeaning, hsplits.place, List.length_append]
  | @skipping other rest =>
      simp only [hsplits.lookahead] at hmove
      split at hmove
      next hhead =>
        obtain ⟨more, rfl⟩ := List.head?_eq_some_iff.mp hhead
        exact GoesOn.load hsplits hcount (.skipped other) hmove
      next hopen =>
        split at hmove
        next => cases hmove
        next hsome =>
          obtain ⟨c, more, rfl⟩ := List.exists_cons_of_ne_nil (by simpa using hsome)
          have hc : ';' ≠ c := by simpa [eq_comm] using hopen
          let longer : Foreign := { other with
            body := other.body ++ [c]
            unclosed := by simp [other.unclosed, hc] }
          refine GoesOn.load hsplits hcount ?_ hmove
          rw [List.append_assoc]
          exact .skipping longer
  | @tornSkipping a ha =>
      simp [hsplits.lookahead] at hmove
  | skipped other =>
      exact GoesOn.leave hsplits hcount rfl hmove

/-- The explanation is kept by every step. -/
theorem Explained.step {told : List Notice} (h : s.Explained text told)
    (hmove : s.step text = .moved next notice) :
    next.Explained text (told ++ notice.toList) := by
  cases h with
  | within hphase hsplits hcount => exact (within_goesOn hphase hsplits hcount hmove).explained
  | @searching read rest hphase hsplits hcount habsent =>
      rw [Scan.step, react, hphase] at hmove
      simp only [hsplits.lookahead] at hmove
      split at hmove
      next hinit =>
        obtain ⟨preamble, rfl⟩ := List.getLast?_eq_some_iff.mp hinit.1
        obtain ⟨more, rfl⟩ := List.head?_eq_some_iff.mp hinit.2
        rw [hsplits.advance, Move.moved.injEq] at hmove
        obtain ⟨rfl, rfl⟩ := hmove
        have hnext : (s.next (.blanks (.terminator .init))).Splits text
            (preamble ++ ['I', 'N'] ++ Gap.empty.text) more := by
          simpa [Gap.empty] using hsplits.next (.blanks (.terminator .init))
        exact .opening rfl hnext hcount habsent
      next hnot =>
        split at hmove
        next hnone =>
          obtain rfl := List.head?_eq_none_iff.mp hnone
          obtain rfl : text = read := by simpa using hsplits.whole
          rw [Scan.tell, Move.moved.injEq] at hmove
          obtain ⟨rfl, rfl⟩ := hmove
          rw [hsplits.place]
          exact .absent rfl (hsplits.of_offset rfl) hcount habsent
        next hsome =>
          obtain ⟨c, more, rfl⟩ := List.exists_cons_of_ne_nil (by simpa using hsome)
          rw [hsplits.advance, Move.moved.injEq] at hmove
          obtain ⟨rfl, rfl⟩ := hmove
          have hopen : ¬ (read.getLast? = some 'I' ∧ c = 'N') := by simpa using hnot
          refine .searching ?_ (hsplits.next _) hcount (habsent.concat hopen)
          simp [Scan.next]
  | absent hphase hsplits hcount habsent =>
      rw [Scan.step, react, hphase] at hmove
      simp [hsplits.lookahead, Scan.afterBlanks] at hmove
  | @opening preamble rest gap hphase hsplits hcount hfirst =>
      rw [Scan.step, react, hphase] at hmove
      simp only [hsplits.lookahead] at hmove
      split at hmove
      next hblank =>
        obtain ⟨c, more, rfl, hc⟩ := exists_cons_of_any hblank
        rw [hsplits.advance, Move.moved.injEq] at hmove
        obtain ⟨rfl, rfl⟩ := hmove
        have hnext : (s.next (.blanks (.terminator .init))).Splits text
            (preamble ++ ['I', 'N'] ++ (gap.snoc c hc).text) more := by
          simpa [Gap.snoc] using hsplits.next (.blanks (.terminator .init))
        exact .opening rfl hnext hcount hfirst
      next =>
        simp only [Scan.afterBlanks, hsplits.lookahead] at hmove
        split at hmove
        next hhead =>
          obtain ⟨more, rfl⟩ := List.head?_eq_some_iff.mp hhead
          rw [hsplits.advance, Move.moved.injEq] at hmove
          obtain ⟨rfl, rfl⟩ := hmove
          exact .opened rfl (hsplits.next _) hcount hfirst
        next => cases hmove
  | @opened preamble rest gap hphase hsplits hcount hfirst =>
      rw [Scan.step, react, hphase] at hmove
      simp only [Scan.tell, hsplits.place, Move.moved.injEq] at hmove
      obtain ⟨rfl, rfl⟩ := hmove
      let d : Drawing := ⟨preamble, hfirst, gap, [], .empty⟩
      have htext : d.text = preamble ++ ['I', 'N'] ++ gap.text ++ [';'] := by
        simp [d, Drawing.text, Drawing.head, Sentence.textOf, Gap.empty]
      have htold : d.toldIn text = [.command .init
          (.ofOffset text (preamble ++ ['I', 'N'] ++ gap.text ++ [';']).length)] := rfl
      rw [Option.toList_some, List.nil_append, ← htold]
      rw [← htext] at hsplits
      exact .between rfl (hsplits.of_offset rfl) hcount
  | @between d rest hphase hsplits hcount =>
      rw [Scan.step, react, hphase] at hmove
      simp only [hsplits.lookahead] at hmove
      split at hmove
      next hblank =>
        obtain ⟨c, more, rfl, hc⟩ := exists_cons_of_any hblank
        rw [hsplits.advance, Move.moved.injEq] at hmove
        obtain ⟨rfl, rfl⟩ := hmove
        have hnext := hsplits.next (.blanks .opcode)
        rw [← d.text_widen c hc] at hnext
        have htold : (d.widen c hc).toldIn text = d.toldIn text := rfl
        rw [Option.toList_none, List.append_nil, ← htold]
        exact .between rfl hnext hcount
      next hvisible =>
        simp only [Scan.afterBlanks] at hmove
        split at hmove
        next => cases hmove
        next hsome =>
          rw [hsplits.lookahead] at hsome
          obtain ⟨c, more, rfl⟩ := List.exists_cons_of_ne_nil (by simpa using hsome)
          have hc : Text.isBlank c = false := by simpa using hvisible
          have hbegun : Splits text { s with opcodePlace := some (s.view text).place } d.text
              (c :: more) := hsplits.of_offset rfl
          simp only [Scan.advance, hsplits.lookahead, hsplits.place, List.head?_cons,
            Option.isSome_some, if_true, Move.moved.injEq] at hmove
          obtain ⟨rfl, rfl⟩ := hmove
          rw [Option.toList_none, List.append_nil]
          have hnext := hbegun.next (.secondLetter (.ofOffset text d.text.length))
          exact .within (.letter hc) (hnext.of_offset rfl) (congrArg (· + 1) hcount)

theorem Explained.offset_le {told : List Notice} (h : s.Explained text told) :
    s.offset ≤ text.length := by
  cases h with
  | searching _ hsplits _ _ => exact hsplits.offset_le
  | absent _ hsplits _ _ => exact hsplits.offset_le
  | opening _ hsplits _ _ => exact hsplits.offset_le
  | opened _ hsplits _ _ => exact hsplits.offset_le
  | between _ hsplits _ => exact hsplits.offset_le
  | within _ hsplits _ => exact hsplits.offset_le

/-- Every path from the start of a parse is explained. -/
theorem Path.explained {start last : Scan} {told : List Notice}
    (h : Path text start told last) (hphase : start.phase = .preamble none)
    (hoffset : start.offset = 0) (hcount : start.count = 0) : last.Explained text told := by
  have hempty : start.phase = .preamble ([] : List Char).getLast? := hphase
  have hsplits : start.Splits text [] text := ⟨rfl, hoffset⟩
  exact h.preserves (.searching hempty hsplits hcount .nil) Explained.step

end Scan

end PlotStream
