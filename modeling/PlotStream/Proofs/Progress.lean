import Mathlib.Logic.Relation
import PlotStream.Proofs.Numerals
import PlotStream.Proofs.Scan

/-!
Steps of a scan in terms of the text before it and the text behind it. `Arrives` says that a scan
can be brought to a phase with so much of the text read and so much told; each lemma about it
reads one more token. No lemma here says that the text is well formed as a whole.
-/

namespace PlotStream

/-- Whether a phase is within an integer. -/
def Phase.inInteger : Phase → Bool
  | .leadingDigit _ _ => true
  | .digits _ _ _ => true
  | .literal _ _ => true
  | _ => false

namespace Scan

/-- The scan has read the first part of the text, and the second is still to come. -/
structure Splits (text : List Char) (s : Scan) (read rest : List Char) : Prop where
  whole : text = read ++ rest
  offset : s.offset = read.length

/-- The scan after a character. -/
def next (s : Scan) (phase : Phase) : Scan :=
  { s with phase, offset := s.offset + 1 }

namespace Splits

variable {text read rest : List Char} {s : Scan} {c : Char} {phase : Phase}

theorem lookahead (h : s.Splits text read rest) : (s.view text).lookahead = rest.head? := by
  rw [view, h.whole, h.offset, List.getElem?_append_right (Nat.le_refl _), Nat.sub_self,
    List.head?_eq_getElem?]

theorem offset_le (h : s.Splits text read rest) : s.offset ≤ text.length := by
  simp [h.offset, h.whole]

theorem place (h : s.Splits text read rest) :
    (s.view text).place = .ofOffset text read.length := by
  rw [view, h.offset]

theorem token {before token : List Char} (h : s.Splits text (before ++ token) rest)
    (hmark : s.phase.mark = some before.length) : (s.view text).token = token := by
  simp only [view, Scan.token, hmark, h.offset]
  rw [h.whole, List.append_assoc, List.drop_left, List.length_append, Nat.add_sub_cancel_left,
    List.take_left]

theorem advance (h : s.Splits text read (c :: rest)) (phase : Phase) :
    s.advance (s.view text) phase = .moved (s.next phase) none := by
  simp [Scan.advance, h.lookahead, next]

theorem next (h : s.Splits text read (c :: rest)) (phase : Phase) :
    (s.next phase).Splits text (read ++ [c]) rest where
  whole := by simp [h.whole]
  offset := by simp [Scan.next, h.offset]

/-- Only the offset counts. -/
theorem of_offset {s' : Scan} (h : s.Splits text read rest) (hoffset : s'.offset = s.offset) :
    s'.Splits text read rest where
  whole := h.whole
  offset := hoffset.trans h.offset

section Integers

variable {slot : Slot} {place : Location} {seen : Nat}

theorem step_zero (h : s.Splits text read ('0' :: rest))
    (hphase : s.phase = .leadingDigit slot place) :
    s.step text = .moved (s.next (.literal slot place)) none := by
  rw [step, react, hphase, ← h.advance]
  simp [h.lookahead]

theorem step_firstDigit (h : s.Splits text read (c :: rest))
    (hphase : s.phase = .leadingDigit slot place) (hc : Numeral.isDigit c = true)
    (hzero : c ≠ '0') :
    s.step text = .moved (s.next (.digits slot place 1)) none := by
  rw [step, react, hphase, ← h.advance]
  simp [h.lookahead, hc, hzero]

theorem step_noDigit (h : s.Splits text read rest) (hphase : s.phase = .leadingDigit slot place)
    (hrest : rest.head?.any Numeral.isDigit = false) :
    s.step text = .failed ⟨.digit, .ofOffset text read.length⟩ := by
  have hzero : rest.head? ≠ some '0' := by
    intro hhead
    rw [hhead] at hrest
    cases hrest
  rw [step, react, hphase]
  simp [h.lookahead, h.place, hrest, hzero]

theorem step_digit (h : s.Splits text read (c :: rest)) (hphase : s.phase = .digits slot place seen)
    (hc : Numeral.isDigit c = true) (hseen : seen ≤ Numeral.maxDigits) :
    s.step text = .moved (s.next (.digits slot place (seen + 1))) none := by
  rw [step, react, hphase, ← h.advance]
  simp [h.lookahead, hc, Nat.not_lt.mpr hseen]

theorem step_lastDigit (h : s.Splits text read rest) (hphase : s.phase = .digits slot place seen)
    (hseen : seen ≤ Numeral.maxDigits) (hrest : rest.head?.any Numeral.isDigit = false) :
    s.step text = s.become (.literal slot place) := by
  rw [step, react, hphase]
  simp [h.lookahead, hrest, Nat.not_lt.mpr hseen]

theorem step_literal {token : List Char} (h : s.Splits text (read ++ token) rest)
    (hphase : s.phase = .literal slot (.ofOffset text read.length)) :
    s.step text =
      if Numeral.inRange (Numeral.value token) then
        s.become (.blanks (Machine.afterInteger slot (Numeral.value token)))
      else .failed ⟨.integer token, .ofOffset text read.length⟩ := by
  have hmark : s.phase.mark = some read.length := by
    rw [hphase]
    simp [Phase.mark, Location.ofOffset]
  rw [step, react, hphase, h.token hmark]

end Integers

end Splits

theorem step_tooLong {text : List Char} {s : Scan} {slot : Slot} {place : Location} {seen : Nat}
    (hphase : s.phase = .digits slot place seen) (hseen : Numeral.maxDigits < seen) :
    s.step text = .failed ⟨.shortInteger, place⟩ := by
  rw [step, react, hphase]
  simp [hseen]

/-- A step from one character of an integer to the next. -/
structure ReadsOn (text : List Char) (s next : Scan) : Prop where
  step : s.step text = .moved next none
  inInteger : next.phase.inInteger = true
  count : next.count = s.count

/-- Such steps lead the scan to a phase, with so much of the text read. -/
def ReadsTo (text : List Char) (s : Scan) (phase : Phase) (read rest : List Char) : Prop :=
  ∃ last, Relation.ReflTransGen (ReadsOn text) s last ∧ last.phase = phase ∧
    last.Splits text read rest

section Integers

variable {text read rest : List Char} {s last : Scan} {slot : Slot} {place : Location}

theorem path_of_readsOn (h : Relation.ReflTransGen (ReadsOn text) s last) :
    Path text s [] last ∧ last.count = s.count := by
  induction h with
  | refl => exact ⟨.refl s, rfl⟩
  | tail _ hreads ih => exact ⟨ih.1.trans (.single hreads.step), hreads.count.trans ih.2⟩

/-- The digits of an integer behind the first one. -/
theorem reads_digits {more : List Char} {seen : Nat} (h : s.Splits text read (more ++ rest))
    (hphase : s.phase = .digits slot place seen) (hmore : ∀ c ∈ more, Numeral.isDigit c = true)
    (hseen : seen + more.length ≤ Numeral.maxDigits + 1) :
    s.ReadsTo text (.digits slot place (seen + more.length)) (read ++ more) rest := by
  induction more generalizing s read seen with
  | nil => exact ⟨s, .refl, hphase, by simpa using h⟩
  | cons c more ih =>
      rw [List.length_cons] at hseen
      have hstep := Splits.step_digit h hphase (hmore c (by simp)) (by omega)
      have hnext : (s.next (.digits slot place (seen + 1))).Splits text (read ++ [c])
          (more ++ rest) := Splits.next h _
      obtain ⟨last, hpath, hlast, hsplits⟩ :=
        ih hnext rfl (fun d hd => hmore d (by simp [hd])) (by omega)
      refine ⟨last, .head ⟨hstep, rfl, rfl⟩ hpath, ?_, by simpa using hsplits⟩
      rw [hlast, List.length_cons]
      congr 1
      omega

/-- Digits that begin with another one than zero. -/
theorem reads_many {c : Char} {more : List Char} (h : s.Splits text read (c :: more ++ rest))
    (hphase : s.phase = .leadingDigit slot place)
    (hmore : ∀ d ∈ c :: more, Numeral.isDigit d = true) (hzero : c ≠ '0')
    (hlength : (c :: more).length ≤ Numeral.maxDigits + 1) :
    s.ReadsTo text (.digits slot place (c :: more).length) (read ++ c :: more) rest := by
  have hstep := Splits.step_firstDigit h hphase (hmore c (by simp)) hzero
  have hnext := Splits.next h (.digits slot place 1)
  rw [List.length_cons] at hlength ⊢
  obtain ⟨last, hpath, hlast, hsplits⟩ :=
    reads_digits hnext rfl (fun d hd => hmore d (by simp [hd])) (by omega)
  refine ⟨last, .head ⟨hstep, rfl, rfl⟩ hpath, ?_, by simpa using hsplits⟩
  rw [hlast, Nat.add_comm]

/-- A literal that is not too long is read to its end. -/
theorem reads_literal (lit : Literal) (h : s.Splits text read (lit.digits ++ rest))
    (hphase : s.phase = .leadingDigit slot place)
    (hlength : lit.digits.length ≤ Numeral.maxDigits)
    (hend : lit.digits = ['0'] ∨ rest.head?.any Numeral.isDigit = false) :
    s.ReadsTo text (.literal slot place) (read ++ lit.digits) rest := by
  by_cases hzero : lit.digits = ['0']
  · rw [hzero] at h ⊢
    exact ⟨_, .single ⟨Splits.step_zero h hphase, rfl, rfl⟩, rfl, Splits.next h _⟩
  · have hrest := hend.resolve_left hzero
    obtain ⟨c, more, hdigits, hc⟩ := lit.exists_nonzero hzero
    have hdecimal := lit.decimal
    rw [hdigits] at h hdecimal hlength ⊢
    obtain ⟨last, hpath, hlast, hsplits⟩ := reads_many h hphase hdecimal hc (by omega)
    have hstep := hsplits.step_lastDigit hlast hlength hrest
    exact ⟨_, hpath.tail ⟨hstep, rfl, rfl⟩, rfl, hsplits.of_offset rfl⟩

end Integers

/-- A scan comes to the given phase. Only the fields that the end of a parse shows are kept. -/
structure Arrives (text : List Char) (start : Scan) (told : List Notice) (phase : Phase)
    (count : Nat) (read rest : List Char) : Prop where
  exists_path : ∃ s, Path text start told s ∧ s.phase = phase ∧ s.count = count ∧
    s.Splits text read rest

namespace Arrives

variable {text read rest : List Char} {start : Scan} {told : List Notice} {phase : Phase}
  {count : Nat} {c : Char} {due : Due} {slot : Slot} {place : Location} {code : List Char}

/-- Go on to another phase by a step that loads a character. -/
theorem load {phase' : Phase} (h : Arrives text start told phase count read (c :: rest))
    (hstep : ∀ s : Scan, s.phase = phase → s.Splits text read (c :: rest) →
      s.step text = .moved (s.next phase') none) :
    Arrives text start told phase' count (read ++ [c]) rest := by
  obtain ⟨s, hpath, hphase, hcount, hsplits⟩ := h
  have hmove := Path.single (hstep s hphase hsplits)
  refine ⟨s.next phase', ?_, rfl, hcount, hsplits.next phase'⟩
  simpa using hpath.trans hmove

/-- Go on to another phase at the same character. -/
theorem turn {phase' : Phase} (h : Arrives text start told phase count read rest)
    (hstep : ∀ s : Scan, s.phase = phase → s.Splits text read rest →
      s.step text = s.become phase') :
    Arrives text start told phase' count read rest := by
  obtain ⟨s, hpath, hphase, hcount, hsplits⟩ := h
  have hmove := Path.single (hstep s hphase hsplits)
  refine ⟨{ s with phase := phase' }, ?_, rfl, hcount, hsplits.of_offset rfl⟩
  simpa using hpath.trans hmove

/-- Tell something and go on with the next command. -/
theorem notify {notice : Notice} (h : Arrives text start told phase count read rest)
    (hstep : ∀ s : Scan, s.phase = phase → s.Splits text read rest →
      s.step text = s.tell notice) :
    Arrives text start (told ++ [notice]) (.blanks .opcode) count read rest := by
  obtain ⟨s, hpath, hphase, hcount, hsplits⟩ := h
  have hmove := Path.single (hstep s hphase hsplits)
  exact ⟨_, hpath.trans hmove, rfl, hcount, hsplits.of_offset rfl⟩

theorem blank (h : Arrives text start told (.blanks due) count read (c :: rest))
    (hc : Text.isBlank c = true) :
    Arrives text start told (.blanks due) count (read ++ [c]) rest := by
  refine h.load fun s hphase hsplits => ?_
  rw [step, react, hphase, ← hsplits.advance]
  simp [hsplits.lookahead, hc]

theorem blanks {gap : List Char} (hgap : ∀ c ∈ gap, Text.isBlank c = true)
    (h : Arrives text start told (.blanks due) count read (gap ++ rest)) :
    Arrives text start told (.blanks due) count (read ++ gap) rest := by
  induction gap generalizing read with
  | nil => simpa using h
  | cons b more ih =>
      have hmore := ih (fun c hc => hgap c (by simp [hc])) (h.blank (hgap b (by simp)))
      simpa using hmore

/-- An operation code of two characters. -/
theorem opcode {a b : Char}
    (h : Arrives text start told (.blanks .opcode) count read (a :: b :: rest))
    (ha : Text.isBlank a = false) :
    Arrives text start told (Machine.argumentsOf [a, b] (.ofOffset text read.length)) (count + 1)
      (read ++ [a, b]) rest := by
  obtain ⟨s, hpath, hphase, hcount, hsplits⟩ := h
  let place := Location.ofOffset text read.length
  let begun : Scan := { s with opcodePlace := some place }
  let first := begun.next (.secondLetter place)
  let second := first.next (.dispatch place)
  have hbegun : begun.Splits text read (a :: b :: rest) := hsplits.of_offset rfl
  have hfirst : first.Splits text (read ++ [a]) (b :: rest) := hbegun.next _
  have hsecond : second.Splits text (read ++ [a, b]) rest := by
    simpa using hfirst.next (.dispatch place)
  have hbegin : s.step text = .moved first none := by
    rw [step, react, hphase]
    simp [hsplits.lookahead, ha, Scan.afterBlanks, Scan.advance, hsplits.place, first, begun, place,
      Scan.next]
  have hletter : first.step text = .moved second none := by
    have hphase' : first.phase = .secondLetter place := rfl
    rw [step, react, hphase']
    exact hfirst.advance _
  have hmark : second.phase.mark = some read.length := by
    simp [second, Scan.next, place, Phase.mark, Location.ofOffset]
  have hcode : second.step text = .moved { second with
      opcode := some [a, b], count := second.count + 1,
      phase := Machine.argumentsOf [a, b] place } none := by
    have hphase' : second.phase = .dispatch place := rfl
    rw [step, react, hphase', hsecond.token hmark]
    rfl
  have hmoves := hpath.trans (.step hbegin (.step hletter (.single hcode)))
  simp only [Option.toList_none, List.append_nil] at hmoves
  exact ⟨_, hmoves, rfl, congrArg (· + 1) hcount, hsecond.of_offset rfl⟩

theorem closing {command : Command}
    (h : Arrives text start told (.blanks (.terminator command)) count read (';' :: rest)) :
    Arrives text start (told ++ [.command command (.ofOffset text (read.length + 1))])
      (.blanks .opcode) count (read ++ [';']) rest := by
  have hclosed : Arrives text start told (.closing command) count (read ++ [';']) rest := by
    refine h.load fun s hphase hsplits => ?_
    rw [step, react, hphase, ← hsplits.advance]
    have hvisible : Text.isBlank ';' = false := by decide
    simp [hsplits.lookahead, hvisible, Scan.afterBlanks]
  refine hclosed.notify fun s hphase hsplits => ?_
  rw [step, react, hphase]
  simp [hsplits.place]

theorem separator {x : Int}
    (h : Arrives text start told (.blanks (.separator x)) count read (',' :: rest)) :
    Arrives text start told (.blanks (.integer (.ordinate x))) count (read ++ [',']) rest := by
  refine h.load fun s hphase hsplits => ?_
  rw [step, react, hphase, ← hsplits.advance]
  have hvisible : Text.isBlank ',' = false := by decide
  simp [hsplits.lookahead, hvisible, Scan.afterBlanks]

/-- Something that begins like an integer is taken for a pen number. -/
theorem pen (h : Arrives text start told (.blanks .optionalPen) count read (c :: rest))
    (hc : Numeral.isDigit c = true ∨ c = '-') (hvisible : Text.isBlank c = false) :
    Arrives text start told (.blanks (.integer .pen)) count read (c :: rest) := by
  refine h.turn fun s hphase hsplits => ?_
  rw [step, react, hphase]
  rcases hc with hdigit | rfl
  · simp [hsplits.lookahead, hvisible, Scan.afterBlanks, hdigit]
  · simp [hsplits.lookahead, hvisible, Scan.afterBlanks]

theorem noPen (h : Arrives text start told (.blanks .optionalPen) count read (';' :: rest)) :
    Arrives text start told (.blanks (.terminator .resetPen)) count read (';' :: rest) := by
  refine h.turn fun s hphase hsplits => ?_
  have hvisible : Text.isBlank ';' = false := by decide
  have hdigit : Numeral.isDigit ';' = false := by decide
  rw [step, react, hphase]
  simp [hsplits.lookahead, hvisible, hdigit, Scan.afterBlanks]

/-- A digit comes next, after the sign if there is one. -/
theorem sign {negative : Bool}
    (h : Arrives text start told (.blanks (.integer slot)) count read
      (Literal.sign negative ++ c :: rest)) (hc : Numeral.isDigit c = true) :
    Arrives text start told (.leadingDigit slot (.ofOffset text read.length)) count
      (read ++ Literal.sign negative) (c :: rest) := by
  cases negative with
  | true =>
      refine Arrives.load h fun s hphase hsplits => ?_
      rw [step, react, hphase, ← hsplits.advance]
      have hvisible : Text.isBlank '-' = false := by decide
      simp [hsplits.lookahead, hvisible, Scan.afterBlanks, hsplits.place]
  | false =>
      rw [Literal.sign, if_neg Bool.false_ne_true, List.append_nil]
      refine Arrives.turn h fun s hphase hsplits => ?_
      have hsplits : s.Splits text read (c :: rest) := hsplits
      have hvisible := Numeral.isBlank_digit hc
      have hminus : c ≠ '-' := Numeral.ne_minus hc
      rw [step, react, hphase]
      simp [hsplits.lookahead, hvisible, hminus, Scan.afterBlanks, hsplits.place]

/-- Go on to another phase within an integer. -/
theorem readsTo {phase' : Phase} {read' rest' : List Char}
    (h : Arrives text start told phase count read rest)
    (hreads : ∀ s : Scan, s.phase = phase → s.Splits text read rest →
      s.ReadsTo text phase' read' rest') :
    Arrives text start told phase' count read' rest' := by
  obtain ⟨s, hpath, hphase, hcount, hsplits⟩ := h
  obtain ⟨last, hmore, hlast, hbehind⟩ := hreads s hphase hsplits
  obtain ⟨hsilent, hkept⟩ := path_of_readsOn hmore
  refine ⟨last, ?_, hlast, hkept.trans hcount, hbehind⟩
  simpa using hpath.trans hsilent

/-- The digits are over. -/
theorem literal {seen : Nat}
    (h : Arrives text start told (.digits slot place seen) count read rest)
    (hseen : seen ≤ Numeral.maxDigits) (hrest : rest.head?.any Numeral.isDigit = false) :
    Arrives text start told (.literal slot place) count read rest :=
  h.turn fun _ hphase hsplits => hsplits.step_lastDigit hphase hseen hrest

theorem value {token : List Char}
    (h : Arrives text start told (.literal slot (.ofOffset text read.length)) count
      (read ++ token) rest) (hrange : Numeral.inRange (Numeral.value token) = true) :
    Arrives text start told (.blanks (Machine.afterInteger slot (Numeral.value token))) count
      (read ++ token) rest := by
  refine h.turn fun s hphase hsplits => ?_
  rw [hsplits.step_literal hphase, if_pos hrange]

theorem skipped {body : List Char}
    (h : Arrives text start told (.skipping code place) count read (body ++ ';' :: rest))
    (hbody : ';' ∉ body) :
    Arrives text start told (.skipped code place) count (read ++ body ++ [';']) rest := by
  induction body generalizing read with
  | nil =>
      rw [List.append_nil]
      refine Arrives.load h fun s hphase hsplits => ?_
      rw [step, react, hphase, ← hsplits.advance]
      simp [hsplits.lookahead]
  | cons c more ih =>
      simp only [List.mem_cons, not_or] at hbody
      have hone : Arrives text start told (.skipping code place) count (read ++ [c])
          (more ++ ';' :: rest) := by
        refine Arrives.load h fun s hphase hsplits => ?_
        rw [step, react, hphase, ← hsplits.advance]
        simp [hsplits.lookahead, Ne.symm hbody.1]
      simpa using ih hone hbody.2

theorem diagnostic (h : Arrives text start told (.skipped code place) count read rest) :
    Arrives text start (told ++ [.diagnostic (.unsupported code) place]) (.blanks .opcode) count
      read rest :=
  h.notify fun s hphase _ => by rw [step, react, hphase]

end Arrives

end Scan

end PlotStream
