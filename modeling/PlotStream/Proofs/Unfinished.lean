import PlotStream.Machine
import PlotStream.Proofs.Grammar

/-!
Sentences that are not finished. What has been read of a command is determined by what is due next,
up to the blanks and numbers that it holds; reading on keeps that, and whatever is due, the rest of
a sentence can be supplied.
-/

namespace PlotStream

/-- What has been read of a command when an integer is due. -/
def Slot.Reads : Slot → List Char → Prop
  | .pen, read => ∃ gap : Gap, read = ['S', 'P'] ++ gap.text
  | .abscissa, read => ∃ gap : Gap, read = ['P', 'A'] ++ gap.text
  | .ordinate v, read => ∃ (before : Gap) (x : Number) (between behind : Gap),
      read = ['P', 'A'] ++ before.text ++ x.text ++ between.text ++ [','] ++ behind.text ∧
        x.value = v

/-- What has been read of a command when something is due. A terminator is due when the command
lacks nothing else. -/
def Due.Reads : Due → List Char → Prop
  | .opcode, _ => False
  | .terminator c, read => ∃ sentence : Sentence,
      sentence.meaning = .ok c ∧ sentence.text = read ++ [';']
  | .optionalPen, read => Slot.pen.Reads read
  | .integer slot, read => slot.Reads read
  | .separator v, read => ∃ (before : Gap) (x : Number) (between : Gap),
      read = ['P', 'A'] ++ before.text ++ x.text ++ between.text ∧ x.value = v

namespace Slot.Reads

variable {slot : Slot} {read : List Char}

theorem blank (h : slot.Reads read) {c : Char} (hc : Text.isBlank c = true) :
    slot.Reads (read ++ [c]) := by
  cases slot with
  | pen =>
      obtain ⟨gap, rfl⟩ := h
      exact ⟨gap.snoc c hc, by simp [Gap.snoc]⟩
  | abscissa =>
      obtain ⟨gap, rfl⟩ := h
      exact ⟨gap.snoc c hc, by simp [Gap.snoc]⟩
  | ordinate v =>
      obtain ⟨before, x, between, behind, rfl, hv⟩ := h
      exact ⟨before, x, between, behind.snoc c hc, by simp [Gap.snoc], hv⟩

theorem number (h : slot.Reads read) (n : Number) :
    (Machine.afterInteger slot n.value).Reads (read ++ n.text) := by
  cases slot with
  | pen =>
      obtain ⟨gap, rfl⟩ := h
      exact ⟨.selectPen gap n .empty, rfl, by simp [Sentence.text, Gap.empty]⟩
  | abscissa =>
      obtain ⟨gap, rfl⟩ := h
      exact ⟨gap, n, .empty, by simp [Gap.empty], rfl⟩
  | ordinate v =>
      obtain ⟨before, x, between, behind, rfl, rfl⟩ := h
      exact ⟨.plotAbsolute before x between behind n .empty, rfl,
        by simp [Sentence.text, Gap.empty]⟩

end Slot.Reads

namespace Due.Reads

variable {due : Due} {read : List Char}

theorem terminator_blank {c : Command}
    (h : (Due.terminator c).Reads read) {b : Char} (hb : Text.isBlank b = true) :
    (Due.terminator c).Reads (read ++ [b]) := by
  obtain ⟨sentence, hmeaning, htext⟩ := h
  -- The blank goes into the last gap, so the sentence has to be taken apart.
  cases sentence with
  | plain verb gap =>
      obtain rfl : verb.code ++ gap.text = read := by
        simpa only [Sentence.text, List.append_left_inj] using htext
      exact ⟨.plain verb (gap.snoc b hb), hmeaning, by simp [Sentence.text, Gap.snoc]⟩
  | resetPen gap =>
      obtain rfl : ['S', 'P'] ++ gap.text = read := by
        simpa only [Sentence.text, List.append_left_inj] using htext
      exact ⟨.resetPen (gap.snoc b hb), hmeaning, by simp [Sentence.text, Gap.snoc]⟩
  | selectPen before pen after =>
      obtain rfl : ['S', 'P'] ++ before.text ++ pen.text ++ after.text = read := by
        simpa only [Sentence.text, List.append_left_inj] using htext
      exact ⟨.selectPen before pen (after.snoc b hb), hmeaning, by simp [Sentence.text, Gap.snoc]⟩
  | plotAbsolute before x between behind y after =>
      obtain rfl : ['P', 'A'] ++ before.text ++ x.text ++ between.text ++ [','] ++ behind.text ++
          y.text ++ after.text = read := by
        simpa only [Sentence.text, List.append_left_inj] using htext
      exact ⟨.plotAbsolute before x between behind y (after.snoc b hb), hmeaning,
        by simp [Sentence.text, Gap.snoc]⟩
  | foreign other => cases hmeaning

theorem blank (h : due.Reads read) {c : Char} (hc : Text.isBlank c = true) :
    due.Reads (read ++ [c]) := by
  cases due with
  | opcode => exact h
  | terminator command => exact terminator_blank h hc
  | optionalPen =>
      have hpen : Slot.pen.Reads read := h
      exact hpen.blank hc
  | integer slot =>
      have hslot : slot.Reads read := h
      exact hslot.blank hc
  | separator v =>
      obtain ⟨before, x, between, rfl, hv⟩ := h
      exact ⟨before, x, between.snoc c hc, by simp [Gap.snoc], hv⟩

theorem noPen (h : Due.optionalPen.Reads read) : (Due.terminator .resetPen).Reads read := by
  obtain ⟨gap, rfl⟩ := h
  exact ⟨.resetPen gap, rfl, rfl⟩

theorem separated {v : Int} (h : (Due.separator v).Reads read) :
    (Due.integer (.ordinate v)).Reads (read ++ [',']) := by
  obtain ⟨before, x, between, rfl, hv⟩ := h
  exact ⟨before, x, between, .empty, by simp [Gap.empty], hv⟩

end Due.Reads

/-- With any number in the slot, a command can be completed. -/
theorem Slot.Reads.completes {slot : Slot} {read : List Char} (h : slot.Reads read) (n : Number) :
    ∃ (sentence : Sentence) (more : List Char), sentence.text = read ++ n.text ++ more := by
  cases slot with
  | pen =>
      obtain ⟨sentence, _, htext⟩ := h.number n
      exact ⟨sentence, [';'], htext⟩
  | abscissa =>
      have hseparator : (Due.separator n.value).Reads (read ++ n.text) := h.number n
      have hordinate : (Slot.ordinate n.value).Reads (read ++ n.text ++ [',']) :=
        hseparator.separated
      obtain ⟨sentence, _, htext⟩ := hordinate.number (.zero false)
      exact ⟨sentence, [','] ++ (Number.zero false).text ++ [';'], by simpa using htext⟩
  | ordinate x =>
      obtain ⟨sentence, _, htext⟩ := h.number n
      exact ⟨sentence, [';'], htext⟩

theorem Due.Reads.completes {due : Due} {read : List Char} (h : due.Reads read) :
    ∃ (sentence : Sentence) (more : List Char), sentence.text = read ++ more := by
  cases due with
  | opcode => exact h.elim
  | terminator c =>
      obtain ⟨sentence, _, htext⟩ := h
      exact ⟨sentence, [';'], htext⟩
  | optionalPen =>
      obtain ⟨sentence, _, htext⟩ := h.noPen
      exact ⟨sentence, [';'], htext⟩
  | integer slot =>
      have hslot : slot.Reads read := h
      obtain ⟨sentence, more, htext⟩ := hslot.completes (.zero false)
      exact ⟨sentence, (Number.zero false).text ++ more, by simpa using htext⟩
  | separator v =>
      have hordinate : (Slot.ordinate v).Reads (read ++ [',']) := h.separated
      obtain ⟨sentence, more, htext⟩ := hordinate.completes (.zero false)
      exact ⟨sentence, [','] ++ (Number.zero false).text ++ more, by simpa using htext⟩

end PlotStream
