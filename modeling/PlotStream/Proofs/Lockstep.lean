import PlotStream.Proofs.Running

/-!
Texts that begin alike are decoded alike for as long as that is all that was looked at. A step
sees the character at its offset and what stands before it, so two texts that agree up to and
including some character share every path that does not go beyond it.
-/

namespace PlotStream

namespace Scan

variable {offset : Nat} {text other : List Char} {s next last : Scan} {notice : Option Notice}
  {told : List Notice}

theorem view_congr (h : Text.SameThrough offset text other) (hle : s.offset ≤ offset) :
    s.view text = s.view other := by
  have hsame := h.mono hle
  have htoken : s.token text = s.token other := by
    unfold token
    split
    next mark _ => rw [← List.drop_take, hsame.take_eq, List.drop_take]
    next => rfl
  simp only [view, hsame.getElem?_eq, hsame.place_eq, htoken]

/-- A move that loads at most one character, and tells nothing when it does. -/
def Move.Near (offset : Nat) : Move → Prop
  | .moved next notice => next.offset = offset ∨ next.offset = offset + 1 ∧ notice = none
  | _ => True

theorem advance_near (s : Scan) (view : View) (phase : Phase) :
    (s.advance view phase).Near s.offset := by
  rw [advance, Move.Near]
  cases view.lookahead with
  | none => exact Or.inl rfl
  | some c => exact Or.inr ⟨rfl, rfl⟩

theorem become_near (s : Scan) (phase : Phase) : (s.become phase).Near s.offset := Or.inl rfl

theorem tell_near (s : Scan) (told : Notice) : (s.tell told).Near s.offset := Or.inl rfl

theorem afterBlanks_near (s : Scan) (view : View) (due : Due) :
    (s.afterBlanks view due).Near s.offset := by
  cases due with
  | opcode =>
      rw [afterBlanks]
      split
      · trivial
      · exact advance_near { s with opcodePlace := some view.place } _ _
  | terminator c =>
      rw [afterBlanks]
      split
      · exact s.advance_near _ _
      · trivial
  | optionalPen =>
      rw [afterBlanks]
      split
      · exact s.become_near _
      · exact s.become_near _
  | integer slot =>
      rw [afterBlanks]
      split
      · exact s.advance_near _ _
      · exact s.become_near _
  | separator x =>
      rw [afterBlanks]
      split
      · exact s.advance_near _ _
      · trivial

theorem step_near (text : List Char) (s : Scan) : (s.step text).Near s.offset := by
  rw [step, react]
  cases s.phase with
  | preamble previous =>
      dsimp only
      split
      · exact s.advance_near _ _
      split
      · exact s.tell_near _
      · exact s.advance_near _ _
  | blanks due =>
      dsimp only
      split
      · exact s.advance_near _ _
      · exact s.afterBlanks_near _ due
  | secondLetter start => exact s.advance_near _ _
  | dispatch start => exact Or.inl rfl
  | leadingDigit slot start =>
      dsimp only
      split
      · exact s.advance_near _ _
      split
      · exact s.advance_near _ _
      · trivial
  | digits slot start count =>
      dsimp only
      split
      · trivial
      split
      · exact s.advance_near _ _
      · exact s.become_near _
  | literal slot start =>
      dsimp only
      split
      · exact s.become_near _
      · trivial
  | closing c => exact s.tell_near _
  | skipping code start =>
      dsimp only
      split
      · exact s.advance_near _ _
      split
      · trivial
      · exact s.advance_near _ _
  | skipped code start => exact s.tell_near _

theorem near_of_step (h : s.step text = .moved next notice) :
    next.offset = s.offset ∨ next.offset = s.offset + 1 ∧ notice = none := by
  have hnear := step_near text s
  rw [h] at hnear
  exact hnear

/-- A scan never goes back. -/
theorem offset_le_of_step (h : s.step text = .moved next notice) : s.offset ≤ next.offset := by
  rcases near_of_step h with hsame | ⟨hnext, _⟩ <;> omega

theorem Path.offset_le (h : Path text s told last) : s.offset ≤ last.offset := by
  induction h with
  | refl _ => exact Nat.le_refl _
  | step hmove _ ih => exact Nat.le_trans (offset_le_of_step hmove) ih

/-- A path that has not gone beyond the common part is a path through both texts. -/
theorem Path.congr (h : Text.SameThrough offset text other) (hpath : Path text s told last)
    (hle : last.offset ≤ offset) : Path other s told last := by
  induction hpath with
  | refl s => exact .refl s
  | @step s next last notice told hmove hrest ih =>
      have hbegin := Nat.le_trans (offset_le_of_step hmove) hrest.offset_le
      have hview := view_congr h (Nat.le_trans hbegin hle)
      rw [step_congr hview] at hmove
      exact .step hmove (ih hle)

theorem Ends.congr (h : Text.SameThrough offset text other) (hle : s.offset ≤ offset)
    {outcome : Except Violation Nat} (hend : s.Ends text outcome) : s.Ends other outcome := by
  have hstep := step_congr (view_congr h hle)
  cases hend with
  | finished hfinished => exact .finished (hstep ▸ hfinished)
  | failed hfailed => exact .failed (hstep ▸ hfailed)

end Scan

end PlotStream
