import PlotStream.Proofs.Progress
import PlotStream.Proofs.Unfinished

/-!
Every drawing is decoded. The token by token lemmas are put together in the order of the grammar:
a number, a sentence, the sentences of a drawing, and the preamble in front of them.
-/

namespace PlotStream

namespace Text

/-- No `IN` is to be seen. -/
def WithoutInit (cs : List Char) : Prop :=
  ¬ ['I', 'N'] <:+: cs

theorem WithoutInit.nil : WithoutInit [] := by
  simp [WithoutInit]

theorem WithoutInit.left {cs more : List Char} (h : WithoutInit (cs ++ more)) : WithoutInit cs :=
  fun hinit => h (hinit.trans (List.prefix_append cs more).isInfix)

theorem WithoutInit.not_complete {cs : List Char} {c : Char} (h : WithoutInit (cs ++ [c])) :
    ¬ (cs.getLast? = some 'I' ∧ c = 'N') := by
  rintro ⟨hlast, rfl⟩
  obtain ⟨earlier, rfl⟩ := List.getLast?_eq_some_iff.mp hlast
  exact h ⟨earlier, [], by simp⟩

theorem WithoutInit.concat {cs : List Char} {c : Char} (h : WithoutInit cs)
    (hc : ¬ (cs.getLast? = some 'I' ∧ c = 'N')) : WithoutInit (cs ++ [c]) := by
  rintro ⟨before, after, heq⟩
  rcases List.eq_nil_or_concat after with rfl | ⟨more, last, rfl⟩
  · apply hc
    have hsplit : (before ++ ['I']) ++ ['N'] = cs ++ [c] := by simpa using heq
    obtain ⟨hcs, hlast⟩ := List.append_inj' hsplit rfl
    exact ⟨by simp [← hcs], (List.cons.inj hlast).1.symm⟩
  · have hsplit : (before ++ ['I', 'N'] ++ more) ++ [last] = cs ++ [c] := by simpa using heq
    exact h ⟨before, more, (List.append_inj' hsplit rfl).1⟩

end Text

namespace Scan

namespace Arrives

variable {text read rest : List Char} {start : Scan} {told : List Notice} {phase : Phase}
  {count : Nat} {c : Char} {due : Due} {slot : Slot} {place : Location} {code : List Char}

/-- The digits of a literal that is not just a zero. -/
theorem allDigits (lit : Literal) (hnonzero : lit.digits ≠ ['0'])
    (hlength : lit.digits.length ≤ Numeral.maxDigits + 1)
    (h : Arrives text start told (.blanks (.integer slot)) count read (lit.text ++ rest)) :
    Arrives text start told
      (.digits slot (.ofOffset text read.length) lit.digits.length) count (read ++ lit.text)
      rest := by
  obtain ⟨c, more, hdigits, hc⟩ := lit.exists_nonzero hnonzero
  have hdecimal := lit.decimal
  rw [Literal.text, List.append_assoc, hdigits] at h
  rw [hdigits] at hdecimal hlength
  rw [Literal.text, hdigits, ← List.append_assoc]
  refine (h.sign (hdecimal c (by simp))).readsTo fun s hphase hsplits => ?_
  exact reads_many hsplits hphase hdecimal hc hlength

/-- A literal is over when no digit follows. -/
theorem written (lit : Literal) (hlength : lit.digits.length ≤ Numeral.maxDigits)
    (h : Arrives text start told (.blanks (.integer slot)) count read (lit.text ++ rest))
    (hrest : rest.head?.any Numeral.isDigit = false) :
    Arrives text start told (.literal slot (.ofOffset text read.length)) count
      (read ++ lit.text) rest := by
  obtain ⟨c, more, hdigits⟩ := List.exists_cons_of_ne_nil lit.nonempty
  have hc := lit.decimal c (by simp [hdigits])
  rw [Literal.text, List.append_assoc, hdigits] at h
  rw [Literal.text, ← List.append_assoc]
  refine (h.sign hc).readsTo fun s hphase hsplits => ?_
  have hwhole : s.Splits text (read ++ Literal.sign lit.negative) (lit.digits ++ rest) := by
    rw [hdigits]
    exact hsplits
  exact reads_literal lit hwhole hphase hlength (Or.inr hrest)

theorem number (n : Number)
    (h : Arrives text start told (.blanks (.integer slot)) count read (n.text ++ rest))
    (hrest : rest.head?.any Numeral.isDigit = false) :
    Arrives text start told (.blanks (Machine.afterInteger slot n.value)) count
      (read ++ n.text) rest := by
  have hliteral := h.written n.toLiteral n.fits.length_le hrest
  rw [← n.value_text]
  exact hliteral.value (by rw [n.value_text, n.inRange])

end Arrives

end Scan

/-- What follows a number is not one of its digits. -/
theorem Gap.not_digit (gap : Gap) {c : Char} (hc : Numeral.isDigit c = false)
    (rest : List Char) : (gap.text ++ c :: rest).head?.any Numeral.isDigit = false := by
  obtain ⟨cs, blank⟩ := gap
  cases cs with
  | nil => simpa using hc
  | cons b more =>
      have hb := blank b (by simp)
      cases hdigit : Numeral.isDigit b with
      | false => simpa using hdigit
      | true => simp [Numeral.isBlank_digit hdigit] at hb

/-- A literal begins with a digit or with its sign. -/
theorem Literal.exists_head (lit : Literal) :
    ∃ c more, lit.text = c :: more ∧ (Numeral.isDigit c = true ∨ c = '-') ∧
      Text.isBlank c = false := by
  obtain ⟨negative, digits, decimal, nonempty, _⟩ := lit
  obtain ⟨c, more, rfl⟩ := List.exists_cons_of_ne_nil nonempty
  have hc := decimal c (by simp)
  cases negative with
  | true => exact ⟨'-', c :: more, rfl, Or.inr rfl, by decide⟩
  | false => exact ⟨c, more, rfl, Or.inl hc, Numeral.isBlank_digit hc⟩

namespace Machine

theorem argumentsOf_verb (verb : Verb) (start : Location) :
    argumentsOf verb.code start = .blanks (.terminator verb.command) := by
  cases verb <;> rfl

/-- The codes of the table are the only ones with arguments of their own. -/
theorem ofCode_eq {code : List Char} {operation : Operation} (h : Operation.ofCode code = operation)
    (hknown : operation ≠ .unknown) : code = operation.code.toList := by
  unfold Operation.ofCode at h
  split at h <;> subst h <;> first | rfl | exact absurd rfl hknown

theorem argumentsOf_unknown {code : List Char} (h : code ∉ supportedCodes) (start : Location) :
    argumentsOf code start = .skipping code start := by
  unfold argumentsOf
  split
  all_goals first
    | rfl
    | next hcode =>
        have hlisted := ofCode_eq hcode (by simp)
        exact absurd (by rw [hlisted]; decide) h

end Machine

namespace Scan

namespace Arrives

variable {text read rest : List Char} {start : Scan} {told : List Notice} {count : Nat}

/-- A command up to an integer that is the next thing to come. -/
theorem slot {slot : Slot} {part : List Char} (hpart : slot.Reads part) (lit : Literal)
    (h : Arrives text start told (.blanks .opcode) count read (part ++ (lit.text ++ rest))) :
    Arrives text start told (.blanks (.integer slot)) (count + 1) (read ++ part)
      (lit.text ++ rest) := by
  cases slot with
  | pen =>
      obtain ⟨gap, rfl⟩ := hpart
      rw [List.append_assoc] at h
      have hcode := (h.opcode (by decide)).blanks gap.blank
      obtain ⟨c, more, htext, hhead, hvisible⟩ := lit.exists_head
      rw [htext] at hcode ⊢
      simpa using hcode.pen hhead hvisible
  | abscissa =>
      obtain ⟨gap, rfl⟩ := hpart
      rw [List.append_assoc] at h
      simpa using (h.opcode (by decide)).blanks gap.blank
  | ordinate v =>
      obtain ⟨before, x, between, behind, rfl, rfl⟩ := hpart
      simp only [List.append_assoc] at h
      have hcode := (h.opcode (by decide)).blanks before.blank
      have hx := hcode.number x (between.not_digit (by decide) _)
      have hcomma := (hx.blanks between.blank).separator
      simpa using hcomma.blanks behind.blank

theorem sentence (sentence : Sentence)
    (h : Arrives text start told (.blanks .opcode) count read (sentence.text ++ rest)) :
    Arrives text start (told ++ [sentence.notice text read.length]) (.blanks .opcode) (count + 1)
      (read ++ sentence.text) rest := by
  have hsemicolon : Numeral.isDigit ';' = false := by decide
  cases sentence with
  | plain verb gap =>
      simp only [Sentence.text, List.append_assoc] at h
      have hcode : Arrives text start told (.blanks (.terminator verb.command)) (count + 1)
          (read ++ verb.code) (gap.text ++ ([';'] ++ rest)) := by
        rw [← Machine.argumentsOf_verb verb (.ofOffset text read.length)]
        cases verb <;> exact h.opcode (by decide)
      have hclosed := (hcode.blanks gap.blank).closing
      simpa [Sentence.notice, Sentence.meaning, Sentence.text, Nat.add_assoc] using hclosed
  | resetPen gap =>
      simp only [Sentence.text, List.append_assoc] at h
      have hcode := h.opcode (by decide)
      have hclosed := (hcode.blanks gap.blank).noPen.closing
      simpa [Sentence.notice, Sentence.meaning, Sentence.text, Nat.add_assoc] using hclosed
  | selectPen before pen after =>
      simp only [Sentence.text, List.append_assoc] at h
      have hpart : Slot.pen.Reads (['S', 'P'] ++ before.text) := ⟨before, rfl⟩
      have hpen : Arrives text start told (.blanks (.integer .pen)) (count + 1)
          (read ++ (['S', 'P'] ++ before.text)) (pen.text ++ (after.text ++ ([';'] ++ rest))) := by
        apply Arrives.slot hpart pen.toLiteral
        simpa using h
      have hnumber := hpen.number pen (after.not_digit hsemicolon rest)
      have hclosed := (hnumber.blanks after.blank).closing
      simpa [Sentence.notice, Sentence.meaning, Sentence.text, Nat.add_assoc] using hclosed
  | plotAbsolute before x between behind y after =>
      simp only [Sentence.text, List.append_assoc] at h
      let part := ['P', 'A'] ++ before.text ++ x.text ++ between.text ++ [','] ++ behind.text
      have hpart : (Slot.ordinate x.value).Reads part := ⟨before, x, between, behind, rfl, rfl⟩
      have hordinate : Arrives text start told (.blanks (.integer (.ordinate x.value))) (count + 1)
          (read ++ part) (y.text ++ (after.text ++ ([';'] ++ rest))) := by
        apply Arrives.slot hpart y.toLiteral
        simpa [part] using h
      have hy := hordinate.number y (after.not_digit hsemicolon rest)
      have hclosed := (hy.blanks after.blank).closing
      simpa [Sentence.notice, Sentence.meaning, Sentence.text, Nat.add_assoc, part] using hclosed
  | foreign other =>
      simp only [Sentence.text, List.append_assoc] at h
      have hcode := h.opcode other.visible
      rw [Machine.argumentsOf_unknown other.unknown] at hcode
      have htold := (hcode.skipped other.unclosed).diagnostic
      simpa [Sentence.notice, Sentence.meaning, Sentence.text, Foreign.code] using htold

theorem sentences (sentences : List (Gap × Sentence))
    (h : Arrives text start told (.blanks .opcode) count read
      (Sentence.textOf sentences ++ rest)) :
    Arrives text start (told ++ Sentence.toldFrom text read.length sentences) (.blanks .opcode)
      (count + sentences.length) (read ++ Sentence.textOf sentences) rest := by
  induction sentences generalizing told count read with
  | nil => simpa [Sentence.textOf, Sentence.toldFrom] using h
  | cons entry more ih =>
      obtain ⟨gap, sentence⟩ := entry
      have htext : Sentence.textOf ((gap, sentence) :: more) =
          gap.text ++ (sentence.text ++ Sentence.textOf more) := by
        simp [Sentence.textOf]
      rw [htext, List.append_assoc, List.append_assoc] at h
      have hall := ih ((h.blanks gap.blank).sentence sentence)
      rw [htext]
      simpa [Sentence.toldFrom, Nat.add_assoc, Nat.add_comm 1] using hall

/-- Characters are passed as long as no `IN` is complete. -/
theorem search {more : List Char}
    (h : Arrives text start told (.preamble read.getLast?) count read (more ++ rest))
    (hmore : Text.WithoutInit (read ++ more)) :
    Arrives text start told (.preamble (read ++ more).getLast?) count (read ++ more) rest := by
  induction more generalizing read with
  | nil => simpa using h
  | cons c more ih =>
      rw [List.append_cons] at hmore ⊢
      refine ih ?_ hmore
      have hopen := hmore.left.not_complete
      refine Arrives.load h fun s hphase hsplits => ?_
      rw [step, react, hphase, ← hsplits.advance]
      simp [hsplits.lookahead, hopen]

theorem absent (h : Arrives text start told (.preamble read.getLast?) count read []) :
    Arrives text start (told ++ [.diagnostic .noInit (.ofOffset text read.length)])
      (.blanks .opcode) count read [] := by
  refine h.notify fun s hphase hsplits => ?_
  rw [step, react, hphase]
  simp [hsplits.lookahead, hsplits.place]

theorem init {preamble : List Char}
    (h : Arrives text start told (.preamble none) count [] (preamble ++ 'I' :: 'N' :: rest))
    (hfirst : Text.WithoutInit (preamble ++ ['I'])) :
    Arrives text start told (.blanks (.terminator .init)) count (preamble ++ ['I', 'N']) rest := by
  have hsearch : Arrives text start told (.preamble (preamble ++ ['I']).getLast?) count
      (preamble ++ ['I']) ('N' :: rest) := by
    have hbegin : Arrives text start told (.preamble ([] : List Char).getLast?) count []
        ((preamble ++ ['I']) ++ 'N' :: rest) := by
      simpa using h
    simpa using hbegin.search hfirst
  rw [List.append_cons]
  refine hsearch.load fun s hphase hsplits => ?_
  rw [step, react, hphase, ← hsplits.advance]
  simp [hsplits.lookahead]

/-- A drawing is decoded, whatever comes behind it. -/
theorem drawing (d : Drawing)
    (h : Arrives text start [] (.preamble none) 0 [] (d.text ++ rest)) :
    Arrives text start (d.toldIn text) (.blanks .opcode) d.sentences.length d.text rest := by
  simp only [Drawing.text, Drawing.head, List.append_assoc, List.cons_append, List.nil_append] at h
  have hopened := ((h.init d.first).blanks d.opening.blank).closing
  have hsentences := (hopened.sentences d.sentences).blanks d.closing.blank
  simpa [Drawing.text, Drawing.head, Drawing.toldIn, Nat.add_assoc] using hsentences

theorem finish (h : Arrives text start told (.blanks .opcode) count read []) :
    ∃ last, Path text start told last ∧ last.Ends text (.ok count) := by
  obtain ⟨s, hpath, hphase, rfl, hsplits⟩ := h
  refine ⟨s, hpath, .finished ?_⟩
  rw [step, react, hphase]
  simp [hsplits.lookahead, Scan.afterBlanks]

end Arrives

end Scan

end PlotStream
