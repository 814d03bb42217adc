import PlotStream.Proofs.Lockstep
import PlotStream.Proofs.Soundness

/-!
What the end of a text can still add to an account. A sentence is told when the character behind
its terminator has been asked for. So everything was told in front of the end, apart from the last
sentence if its terminator is the last character, and the remark on a text that starts no drawing.
-/

namespace PlotStream

/-- Whether a diagnostic is about a sentence and not about the text as a whole. -/
def Diagnostic.ofSentence : Diagnostic → Bool
  | .unsupported _ => true
  | .noInit => false

def Notice.ofSentence : Notice → Bool
  | .command _ _ => true
  | .diagnostic d _ => d.ofSentence
  | _ => false

/-- The part of an account that tells of sentences. -/
def Notice.sentences (trace : List Notice) : List Notice :=
  trace.filter ofSentence

namespace Notice

@[simp]
theorem sentences_append (trace more : List Notice) :
    sentences (trace ++ more) = sentences trace ++ sentences more :=
  List.filter_append trace more

theorem commands_sentences (trace : List Notice) : commands (sentences trace) = commands trace := by
  rw [sentences, commands_filter]
  exact List.filter_eq_self.mpr fun _ _ => rfl

theorem diagnostics_sentences (trace : List Notice) :
    diagnostics (sentences trace) = (diagnostics trace).filter fun entry => entry.1.ofSentence :=
  diagnostics_filter ofSentence trace

end Notice

/-- Whether a sentence has been read that has not been told yet. -/
def Phase.owes : Phase → Bool
  | .closing _ => true
  | .skipped _ _ => true
  | _ => false

theorem Machine.argumentsOf_owes (code : List Char) (start : Location) :
    (argumentsOf code start).owes = false := by
  unfold argumentsOf
  split <;> rfl

theorem Sentence.exists_terminator (sentence : Sentence) :
    ∃ body, sentence.text = body ++ [';'] := by
  cases sentence <;> exact ⟨_, rfl⟩

namespace Scan

variable {text : List Char} {s next last : Scan} {notice : Option Notice} {told : List Notice}

/-- A move on the spot that tells of no sentence and leaves none to be told. -/
def Move.Idle (offset : Nat) : Move → Prop
  | .moved next notice =>
    next.offset = offset ∧ next.phase.owes = false ∧ ∀ n ∈ notice, n.ofSentence = false
  | _ => True

theorem advance_idle {view : View} {phase : Phase} (hend : view.lookahead = none)
    (howes : phase.owes = false) : (s.advance view phase).Idle s.offset := by
  refine ⟨?_, howes, by simp⟩
  simp [hend]

theorem become_idle {phase : Phase} (howes : phase.owes = false) :
    (s.become phase).Idle s.offset :=
  ⟨rfl, howes, by simp⟩

/-- At the end of the text only an owed sentence is told. -/
theorem step_idle (hend : (s.view text).lookahead = none) (howes : s.phase.owes = false) :
    (s.step text).Idle s.offset := by
  rw [step, react]
  cases hphase : s.phase with
  | preamble previous =>
      simp only [hend, reduceCtorEq, and_false, if_false, if_true]
      exact ⟨rfl, rfl, by simp [Notice.ofSentence, Diagnostic.ofSentence]⟩
  | blanks due =>
      simp only [hend, Option.any_none, Bool.false_eq_true, if_false]
      cases due with
      | opcode => simp only [Scan.afterBlanks, hend, if_true, Move.Idle]
      | terminator c => simp only [Scan.afterBlanks, hend, reduceCtorEq, if_false, Move.Idle]
      | optionalPen =>
          simp only [Scan.afterBlanks, hend, Option.any_none, Bool.false_eq_true, if_false]
          exact become_idle rfl
      | integer slot =>
          simp only [Scan.afterBlanks, hend, reduceCtorEq, if_false]
          exact become_idle rfl
      | separator x => simp only [Scan.afterBlanks, hend, reduceCtorEq, if_false, Move.Idle]
  | secondLetter start => exact advance_idle hend rfl
  | dispatch start => exact ⟨rfl, Machine.argumentsOf_owes _ start, by simp⟩
  | leadingDigit slot start =>
      simp only [hend, reduceCtorEq, if_false, Option.any_none, Bool.false_eq_true, Move.Idle]
  | digits slot start count =>
      dsimp only
      split
      · trivial
      · simp only [hend, Option.any_none, Bool.false_eq_true, if_false]
        exact become_idle rfl
  | literal slot start =>
      dsimp only
      split
      · exact become_idle rfl
      · trivial
  | closing c =>
      rw [hphase] at howes
      cases howes
  | skipping code start => simp only [hend, reduceCtorEq, if_false, if_true, Move.Idle]
  | skipped code start =>
      rw [hphase] at howes
      cases howes

/-- An owed sentence is told at once, and at the same place. -/
theorem exists_tell_of_owes (text : List Char) {s : Scan} (howes : s.phase.owes = true) :
    ∃ n, s.step text = s.tell n ∧ n.ofSentence = true := by
  rw [step, react]
  cases hphase : s.phase with
  | closing c => exact ⟨_, rfl, rfl⟩
  | skipped code start => exact ⟨_, rfl, rfl⟩
  | _ =>
      rw [hphase] at howes
      cases howes

theorem lookahead_at_end (hend : s.offset = text.length) : (s.view text).lookahead = none := by
  simp [view, hend]

namespace Path

theorem sentences_of_idle (h : Path text s told last) (hend : s.offset = text.length)
    (howes : s.phase.owes = false) : Notice.sentences told = [] := by
  induction h with
  | refl _ => rfl
  | @step s next last notice told hmove _ ih =>
      have hidle := step_idle (lookahead_at_end hend) howes
      rw [hmove] at hidle
      obtain ⟨hoffset, hnext, hnone⟩ := hidle
      rw [Notice.sentences_append, ih (hoffset.trans hend) hnext, List.append_nil]
      cases notice with
      | none => rfl
      | some n => simp [Notice.sentences, hnone n rfl]

/-- What is told of sentences at the end of the text is the sentence that was owed there. -/
theorem sentences_at_end (h : Path text s told last) (hend : s.offset = text.length) :
    Notice.sentences told = [] ∨
      ∃ n, s.phase.owes = true ∧ s.step text = s.tell n ∧ Notice.sentences told = [n] := by
  cases howes : s.phase.owes with
  | false => exact Or.inl (h.sentences_of_idle hend howes)
  | true =>
      obtain ⟨n, hstep, hkind⟩ := exists_tell_of_owes text howes
      cases h with
      | refl _ => exact Or.inl rfl
      | step hmove hrest =>
          rw [hstep, tell, Move.moved.injEq] at hmove
          obtain ⟨rfl, rfl⟩ := hmove
          have hnone := hrest.sentences_of_idle hend rfl
          refine Or.inr ⟨n, rfl, hstep, ?_⟩
          rw [Notice.sentences_append, hnone]
          simp [Notice.sentences, hkind]

/-- A path to the end of the text comes there by loading the last character. -/
theorem to_end (h : Path text s told last) (hbegin : s.offset < text.length)
    (hlast : text.length ≤ last.offset) :
    ∃ before next earlier later, Path text s earlier before ∧ before.offset + 1 = text.length ∧
      before.step text = .moved next none ∧ next.offset = text.length ∧
      Path text next later last ∧ told = earlier ++ later := by
  induction h with
  | refl s => omega
  | @step s next last notice told hmove hrest ih =>
      rcases near_of_step hmove with hsame | ⟨hnext, rfl⟩
      · obtain ⟨before, behind, earlier, later, hpath, hbefore, hbehind, hoffset, hlater, rfl⟩ :=
          ih (hsame ▸ hbegin) hlast
        exact ⟨before, behind, notice.toList ++ earlier, later, .step hmove hpath, hbefore, hbehind,
          hoffset, hlater, (List.append_assoc _ _ _).symm⟩
      · rcases Nat.lt_or_eq_of_le (Nat.succ_le_of_lt hbegin) with hmore | hend
        · obtain ⟨before, behind, earlier, later, hpath, hbefore, hbehind, hoffset, hlater, rfl⟩ :=
            ih (hnext ▸ hmore) hlast
          exact ⟨before, behind, earlier, later, .step hmove hpath, hbefore, hbehind, hoffset,
            hlater, rfl⟩
        · exact ⟨s, next, [], told, .refl s, hend, hmove, hnext.trans hend, hrest, rfl⟩

end Path

/-- A sentence is owed right behind its terminator. -/
theorem Explained.terminator_behind (h : s.Explained text told) (howes : s.phase.owes = true) :
    ∃ read rest, s.Splits text (read ++ [';']) rest := by
  cases h with
  | searching hphase _ _ _ => simp [hphase, Phase.owes] at howes
  | absent hphase _ _ _ => simp [hphase, Phase.owes] at howes
  | opening hphase _ _ _ => simp [hphase, Phase.owes] at howes
  | opened _ hsplits _ _ => exact ⟨_, _, hsplits⟩
  | between hphase _ _ => simp [hphase, Phase.owes] at howes
  | @within d owed read rest hphase hsplits _ =>
      have hsentence : ∃ sentence : Sentence, read = sentence.text := by
        generalize s.phase = phase at hphase howes
        cases hphase with
        | @closing c sentence rest _ => exact ⟨sentence, rfl⟩
        | skipped other => exact ⟨.foreign other, rfl⟩
        | _ => cases howes
      obtain ⟨sentence, rfl⟩ := hsentence
      obtain ⟨body, hbody⟩ := sentence.exists_terminator
      rw [hbody, ← List.append_assoc] at hsplits
      exact ⟨_, _, hsplits⟩

end Scan

end PlotStream
