import PlotStream.Proofs.ReaderView
import PlotStream.Reader.Action

/-!
A reader in the hands of a caller who may ask anything of it in any order. All that the actions have
done to the reader so far is told by one number, how many times the lookahead was moved on, and that
number is known from the text: `Action.moves` never looks at a chunk. Whatever the chunks are, the
buffer is then a cut of the text behind the characters loaded from earlier chunks.

A token may be begun even before the first character is there, so the place where it begins is kept
in two ways. `Reader.Stands` has a case for each and is kept by every action, as long as tokens are
begun and ended in turn and nobody replaces a chunk that is not used up.
-/

namespace PlotStream

namespace Reader

namespace Action

/-- The lookahead when it has been moved so many times, before the first move and behind the text
nothing. -/
def lookaheadAt (text : List Char) (moved : Nat) : Option Char :=
  if moved = 0 then none else text[moved - 1]?

/-- How many times an action moves the lookahead that has been moved so often before. -/
def moves (text : List Char) (moved : Nat) : Action → Nat
  | .advance => 1
  | .readChar wanted => if (lookaheadAt text moved).any fun c => wanted == [c] then 1 else 0
  | .readDigit => if (lookaheadAt text moved).any Numeral.isDigit then 1 else 0
  | .skipBlanks =>
    if moved = 0 then 0 else ((text.drop (moved - 1)).takeWhile Text.isBlank).length
  | _ => 0

/-- How many times the lookahead has been moved after actions in order. -/
def movesAfter (text : List Char) (moved : Nat) (actions : List Action) : Nat :=
  actions.foldl (fun moved action => moved + action.moves text moved) moved

/-- Whether an action begins or ends a token. -/
def isCapture : Action → Bool
  | .startCapture => true
  | .endCapture => true
  | _ => false

/-- Tokens are begun and ended in turn, from inside of one or not, and it is left to the reader to
replace its chunks. -/
def Alternate : Bool → List Action → Prop
  | _, [] => True
  | capturing, .startCapture :: rest => capturing = false ∧ Alternate true rest
  | capturing, .endCapture :: rest => capturing = true ∧ Alternate false rest
  | _, .refill :: _ => False
  | capturing, _ :: rest => Alternate capturing rest

theorem Alternate.cases {capturing : Bool} {action : Action} {rest : List Action}
    (h : Alternate capturing (action :: rest)) :
    (action = .startCapture ∧ capturing = false ∧ Alternate true rest) ∨
      (action = .endCapture ∧ capturing = true ∧ Alternate false rest) ∨
      (action.isCapture = false ∧ action ≠ .refill ∧ Alternate capturing rest) := by
  cases action with
  | startCapture => exact Or.inl ⟨rfl, h⟩
  | endCapture => exact Or.inr (Or.inl ⟨rfl, h⟩)
  | refill => exact h.elim
  | _ => exact Or.inr (Or.inr ⟨rfl, by simp, h⟩)

end Action

/-- The reader after so many moves of the lookahead. -/
def advances (r : Reader) : Nat → Reader
  | 0 => r
  | moves + 1 => r.advance.1.advances moves

/-- The reader after actions in order. -/
def after (r : Reader) (actions : List Action) : Reader :=
  actions.foldl (fun r action => (r.perform action).reader) r

/-- What a reader is that has loaded so many characters of a text. -/
structure Represents (text : List Char) (loaded : Nat) (r : Reader) : Prop where
  index_le : r.index ≤ r.fill
  position : r.bufferOffset + r.index = loaded
  buffer : r.buffer.toList = text.extract r.bufferOffset (r.bufferOffset + r.fill)
  current : 1 ≤ loaded → r.exhausted = false → loaded ≤ text.length ∧ r.current = text[loaded - 1]?
  current_eq_none : r.current = none ↔ loaded = 0 ∨ r.exhausted = true
  exhausted : r.exhausted = true →
    loaded = text.length ∧ r.bufferOffset = text.length ∧ r.buffer = #[]

/-- A reader whose lookahead has been moved so many times, with the beginning of its token if it
keeps one. -/
inductive Stands (text : List Char) : Nat → Option Nat → Reader → Prop where
  | fresh {r : Reader} (hloaded : r.Loaded text none 0) (hbuffer : r.buffer = #[])
      (hcapture : r.Captures text none) : Stands text 0 none r
  /-- A token that was begun before the first move, to begin with the first character. -/
  | early {r : Reader} (hloaded : r.Loaded text none 0) (hbuffer : r.buffer = #[])
      (hstart : r.captureStart = some (-1)) (hparts : r.captureParts = []) :
      Stands text 0 (some 0) r
  | moved {moved : Nat} {mark : Option Nat} {r : Reader}
      (hat : r.At text none (min moved text.length)) (hcapture : r.Captures text mark)
      (hmark : ∀ start ∈ mark, start ≤ min moved text.length) : Stands text (moved + 1) mark r

variable {text : List Char} {moved : Nat} {mark : Option Nat} {r : Reader}

/-- The first move loads the first character, or meets the end of an empty text. -/
theorem Loaded.at_advance (h : r.Loaded text none 0) :
    r.advance.1.At text none 0 ∧ r.advance.2.bind Intake.failure? = none := by
  rcases Nat.eq_zero_or_pos text.length with hempty | hpos
  · rcases h.advance_of_eq hempty.symm with ⟨_, hspent, hended⟩ | ⟨cause, hcause, _⟩
    · rw [hended]
      exact ⟨Or.inr ⟨hempty.symm, rfl, hspent⟩, rfl⟩
    · cases hcause
  · obtain ⟨hnext, hindex, hfine⟩ := h.advance_of_lt hpos
    exact ⟨Or.inl ⟨hnext, hindex⟩, hfine⟩

/-- At the first move a token that was begun early is brought to the beginning of the first
chunk. -/
theorem Loaded.captures_advance (h : r.Loaded text none 0) (hbuffer : r.buffer = #[])
    (hstart : r.captureStart = some (-1)) (hparts : r.captureParts = []) :
    r.advance.1.Captures text (some 0) := by
  have hindex : ¬ r.index < r.buffer.size := by simp [hbuffer]
  have hoffset : r.bufferOffset = 0 := Nat.eq_zero_of_add_eq_zero_right h.position
  have hadvance : r.advance.1 = r.refill.1.settle r.refill.2 := by
    rw [Reader.advance, if_neg (by simp [h.running]), if_neg hindex]
  have hleave : r.leaveChunk.Captures text (some 0) := by
    simp [Reader.leaveChunk, hstart, Captures, hparts, hoffset, fill, slice, hbuffer]
  rw [hadvance]
  exact hleave.congr (sameCapture_settle_refill r)

/-- Behind the text a further move changes nothing. -/
theorem At.advance_min (h : r.At text none (min moved text.length)) :
    r.advance.1.At text none (min (moved + 1) text.length) ∧
      r.advance.2.bind Intake.failure? = none := by
  rcases h.advance with ⟨hnext, hfine⟩ | ⟨cause, hcause, _⟩
  · refine ⟨?_, hfine⟩
    rcases Nat.lt_or_ge moved text.length with hlt | hge
    · have hmin : min moved text.length = moved := by omega
      have hmin' : min (moved + 1) text.length = moved + 1 := by omega
      rw [hmin, List.getElem?_eq_getElem hlt, Option.isSome_some, if_pos rfl] at hnext
      rwa [hmin']
    · have hmin : min moved text.length = text.length := by omega
      have hmin' : min (moved + 1) text.length = text.length := by omega
      rw [hmin, List.getElem?_eq_none (Nat.le_refl _), Option.isSome_none] at hnext
      rwa [hmin']
  · cases hcause

namespace Stands

theorem advance (h : Stands text moved mark r) :
    Stands text (moved + 1) mark r.advance.1 ∧ r.advance.2.bind Intake.failure? = none := by
  cases h with
  | fresh hloaded _ hcapture =>
      obtain ⟨hat, hfine⟩ := hloaded.at_advance
      rw [← Nat.zero_min text.length] at hat
      have hkept := hcapture.advance hloaded.buffer (by simp)
      exact ⟨.moved hat hkept (by simp), hfine⟩
  | early hloaded hbuffer hstart hparts =>
      obtain ⟨hat, hfine⟩ := hloaded.at_advance
      rw [← Nat.zero_min text.length] at hat
      have hkept := hloaded.captures_advance hbuffer hstart hparts
      exact ⟨.moved hat hkept (by simp), hfine⟩
  | moved hat hcapture hmark =>
      obtain ⟨hnext, hfine⟩ := hat.advance_min
      have hkept := hcapture.advance hat.buffered fun start hstart =>
        Nat.le_trans (hmark start hstart) hat.le_buffer
      refine ⟨.moved hnext hkept fun start hstart => ?_, hfine⟩
      have hle := hmark start hstart
      omega

theorem current (h : Stands text moved mark r) : r.current = Action.lookaheadAt text moved := by
  cases h with
  | fresh hloaded _ _ => simpa [Action.lookaheadAt] using hloaded.current
  | early hloaded _ _ _ => simpa [Action.lookaheadAt] using hloaded.current
  | @moved moved _ _ hat _ _ =>
      rw [hat.current, Action.lookaheadAt, if_neg (Nat.succ_ne_zero _), Nat.add_sub_cancel]
      rcases Nat.lt_or_ge moved text.length with hlt | hge
      · rw [Nat.min_eq_left (Nat.le_of_lt hlt)]
      · rw [Nat.min_eq_right hge, List.getElem?_eq_none hge,
          List.getElem?_eq_none (Nat.le_refl _)]

/-- The offset of the lookahead, that before the first move counted as zero. -/
theorem offset (h : Stands text moved mark r) :
    r.location.offset.toNat = min (moved - 1) text.length := by
  have hfirst (hloaded : r.Loaded text none 0) : r.location.offset.toNat = 0 := by
    have hposition := hloaded.position
    simp only [location, currentIndex, hloaded.running, Bool.false_eq_true, if_false]
    omega
  cases h with
  | fresh hloaded _ _ => simpa using hfirst hloaded
  | early hloaded _ _ _ => simpa using hfirst hloaded
  | moved hat _ _ =>
      rw [hat.location, Nat.add_sub_cancel]
      exact Int.toNat_natCast _

theorem represents (h : Stands text moved mark r) :
    r.Represents text (min moved text.length) := by
  have hfirst (hloaded : r.Loaded text none 0) : r.Represents text 0 := {
    index_le := hloaded.index_le
    position := hloaded.position
    buffer := by simpa [List.extract_eq_take_drop, fill] using hloaded.buffer
    current := fun hpos => absurd hpos (by decide)
    current_eq_none := iff_of_true (by simpa using hloaded.current) (Or.inl rfl)
    exhausted := fun hexhausted => by simp [hloaded.running] at hexhausted }
  cases h with
  | fresh hloaded _ _ => simpa using hfirst hloaded
  | early hloaded _ _ _ => simpa using hfirst hloaded
  | @moved moved _ _ hat _ _ =>
      have hcurrent := hat.current
      have hbuffer := hat.buffered
      rcases hat with ⟨hloaded, hindex⟩ | ⟨hend, _, hspent⟩
      · have hle := hloaded.le_length
        have hmoved : min moved text.length = moved := by omega
        have hnext : min (moved + 1) text.length = moved + 1 := by omega
        rw [hmoved] at hcurrent hloaded
        rw [hnext]
        have hlt : moved < text.length := by omega
        exact {
          index_le := hloaded.index_le
          position := hloaded.position
          buffer := by simpa [List.extract_eq_take_drop, fill] using hloaded.buffer
          current := fun _ _ => ⟨hlt, by simpa using hcurrent⟩
          current_eq_none := by simp [hcurrent, hlt, hloaded.running]
          exhausted := fun hexhausted => by simp [hloaded.running] at hexhausted }
      · have hnext : min (moved + 1) text.length = text.length := by omega
        rw [hnext]
        exact {
          index_le := by simp [hspent.index]
          position := by simp [hspent.index, hspent.bufferOffset]
          buffer := by simp [hspent.buffer, fill]
          current := fun _ hrunning => by simp [hspent.exhausted] at hrunning
          current_eq_none := by simp [hspent.current, hspent.exhausted]
          exhausted := fun _ => ⟨rfl, hspent.bufferOffset, hspent.buffer⟩ }

end Stands

/-- A blank in front is one move, and then those behind it. -/
theorem Action.moves_skipBlanks_of_blank {c : Char} (hlook : lookaheadAt text moved = some c)
    (hblank : Text.isBlank c = true) :
    moves text moved .skipBlanks = 1 + moves text (moved + 1) .skipBlanks := by
  unfold lookaheadAt at hlook
  split at hlook
  · cases hlook
  next hne =>
    obtain ⟨hlt, hget⟩ := List.getElem?_eq_some_iff.mp hlook
    have hdrop : text.drop (moved - 1) = c :: text.drop moved := by
      rw [List.drop_eq_getElem_cons hlt, hget, Nat.sub_add_cancel (Nat.pos_of_ne_zero hne)]
    simp only [moves, if_neg hne, if_neg (Nat.succ_ne_zero moved), Nat.add_sub_cancel, hdrop,
      List.takeWhile_cons_of_pos hblank, List.length_cons, Nat.add_comm]

theorem Action.moves_skipBlanks_of_not_blank
    (h : (lookaheadAt text moved).any Text.isBlank = false) :
    moves text moved .skipBlanks = 0 := by
  rw [moves]
  split
  · rfl
  next hne =>
    rw [lookaheadAt, if_neg hne] at h
    cases hdrop : text.drop (moved - 1) with
    | nil => rfl
    | cons c rest =>
        have hget : text[moved - 1]? = some c := by
          rw [← List.head?_drop, hdrop, List.head?_cons]
        rw [hget, Option.any_some] at h
        rw [List.takeWhile_cons_of_neg (by simp [h]), List.length_nil]

namespace Stands

theorem atBlank (h : Stands text moved mark r) :
    r.atBlank = (Action.lookaheadAt text moved).any Text.isBlank := by
  rw [Reader.atBlank, h.current]

/-- Blanks are skipped one by one, and the last of them may be the last of the text. -/
theorem skipBlanks_eq (h : Stands text moved mark r) :
    r.skipBlanks.1 = r.advances (Action.skipBlanks.moves text moved) := by
  fun_induction Reader.skipBlanks r generalizing moved with
  | case1 r hgo =>
      rename_i ih
      have hblank : (Action.lookaheadAt text moved).any Text.isBlank = true := by
        rw [← h.atBlank]
        exact (Bool.and_eq_true_iff.mp hgo).1
      obtain ⟨c, hlook, hc⟩ := Option.any_eq_true _ _ |>.mp hblank
      rw [Action.moves_skipBlanks_of_blank hlook hc, Nat.add_comm]
      exact ih h.advance.1
  | case2 r =>
      rename_i hfail
      exact absurd h.advance.2 hfail
  | case3 r hstay =>
      have hnone : (Action.lookaheadAt text moved).any Text.isBlank = false := by
        rw [← h.atBlank]
        cases hexhausted : r.exhausted with
        | false => simpa [hexhausted] using hstay
        | true =>
            have hcurrent := h.represents.current_eq_none.mpr (Or.inr hexhausted)
            simp [Reader.atBlank, hcurrent]
      rw [Action.moves_skipBlanks_of_not_blank hnone]
      rfl

/-- An action that begins and ends no token does nothing but move the lookahead. -/
theorem perform_eq (h : Stands text moved mark r) {action : Action}
    (hfree : action.isCapture = false) (hrefill : action ≠ .refill) :
    (r.perform action).reader = r.advances (action.moves text moved) := by
  have hif (wanted : Bool) :
      (r.advanceIf wanted).reader = r.advances (if wanted then 1 else 0) := by
    cases wanted <;> rfl
  cases action with
  | startCapture => cases hfree
  | endCapture => cases hfree
  | refill => exact absurd rfl hrefill
  | readChar wanted =>
      have hwanted : (wanted ≠ [] && r.current.toList == wanted) =
          (Action.lookaheadAt text moved).any fun c => wanted == [c] := by
        rw [h.current]
        cases Action.lookaheadAt text moved with
        | none => cases wanted <;> rfl
        | some c =>
            cases wanted with
            | nil => rfl
            | cons w rest => simp [BEq.comm (a := w)]
      rw [Reader.perform, hwanted]
      exact hif _
  | readDigit =>
      rw [Reader.perform, h.current]
      exact hif _
  | skipBlanks => exact h.skipBlanks_eq
  | _ => rfl

theorem advances (h : Stands text moved mark r) (moves : Nat) :
    Stands text (moved + moves) mark (r.advances moves) := by
  induction moves generalizing moved r with
  | zero => exact h
  | succ moves ih =>
      have hnext := ih h.advance.1
      rwa [Nat.add_right_comm] at hnext

theorem perform (h : Stands text moved mark r) {action : Action} (hfree : action.isCapture = false)
    (hrefill : action ≠ .refill) :
    Stands text (moved + action.moves text moved) mark (r.perform action).reader := by
  rw [h.perform_eq hfree hrefill]
  exact h.advances _

theorem startCapture (h : Stands text moved none r) :
    Stands text moved (some (min (moved - 1) text.length)) r.startCapture := by
  cases h with
  | fresh hloaded hbuffer hcapture =>
      have hindex : r.index = 0 := Nat.eq_zero_of_add_eq_zero_left hloaded.position
      refine .early { hloaded with } hbuffer ?_ hcapture.2
      simp [Reader.startCapture, currentIndex, hloaded.running, hindex]
  | @moved moved _ _ hat hcapture _ =>
      rw [Nat.add_sub_cancel]
      exact .moved hat.startCapture (hcapture.startCapture hat) (by simp)

theorem endCapture (h : Stands text moved mark r) : Stands text moved none r.endCapture.2 := by
  have hnone := captures_none_endCapture text r
  cases h with
  | fresh hloaded hbuffer _ => exact .fresh { hloaded with } hbuffer hnone
  | early hloaded hbuffer _ _ => exact .fresh { hloaded with } hbuffer hnone
  | moved hat _ _ => exact .moved hat.endCapture hnone (by simp)

/-- The token is the text from where it was begun to the lookahead. -/
theorem token {start : Nat} (h : Stands text moved (some start) r) :
    start ≤ min (moved - 1) text.length ∧
      r.endCapture.1 = text.extract start (min (moved - 1) text.length) := by
  cases h with
  | early hloaded hbuffer hstart hparts =>
      refine ⟨Nat.zero_le _, ?_⟩
      simp [Reader.endCapture, hparts, hstart, slice, hbuffer]
  | moved hat hcapture hmark =>
      have hle := hmark start rfl
      rw [Nat.add_sub_cancel, List.extract_eq_take_drop]
      exact ⟨hle, hcapture.endCapture hat hle⟩

/-- What a reader is after actions, and in which turn it is then. -/
theorem after {actions more : List Action} (h : Stands text moved mark r)
    (halternate : Action.Alternate mark.isSome (actions ++ more)) :
    ∃ mark', Stands text (Action.movesAfter text moved actions) mark' (r.after actions) ∧
      Action.Alternate mark'.isSome more := by
  induction actions generalizing moved mark r with
  | nil => exact ⟨mark, h, halternate⟩
  | cons action rest ih =>
      rcases halternate.cases with ⟨rfl, hnone, hrest⟩ | ⟨rfl, _, hrest⟩ | ⟨hfree, hrefill, hrest⟩
      · obtain rfl : mark = none := by simpa using hnone
        exact ih h.startCapture hrest
      · exact ih h.endCapture hrest
      · exact ih (h.perform hfree hrefill) hrest

/-- Between its beginning and its end a token stays where it began. -/
theorem after_free {actions : List Action} (h : Stands text moved mark r)
    (halternate : Action.Alternate mark.isSome actions)
    (hfree : ∀ action ∈ actions, action.isCapture = false) :
    Stands text (Action.movesAfter text moved actions) mark (r.after actions) := by
  induction actions generalizing moved r with
  | nil => exact h
  | cons action rest ih =>
      have hfirst := hfree action List.mem_cons_self
      rcases halternate.cases with ⟨rfl, _, _⟩ | ⟨rfl, _, _⟩ | ⟨_, hrefill, hrest⟩
      · cases hfirst
      · cases hfirst
      · exact ih (h.perform hfirst hrefill) hrest fun other hmem =>
          hfree other (List.mem_cons_of_mem _ hmem)

end Stands

theorem after_append (r : Reader) (actions more : List Action) :
    r.after (actions ++ more) = (r.after actions).after more :=
  List.foldl_append

/-- A reader keeps to the text whatever is asked of it, as long as tokens are begun and ended in
turn. However the source cuts the text and however many characters are asked for at once, it is known
from the text how many times an action moves the lookahead. Every move loads a character as long as
there is one, and the buffer, the lookahead and the end are what they have to be at the number of
characters loaded. A token that is ended is the text from the place of the lookahead when it was
begun, the one before the first character counted as the first, to its place now; and nothing is kept
of it. -/
theorem after_represents {source : Nat → Source} {size : Int}
    (hgives : (source size.toNat).Gives text none) (hsize : 0 < size) :
    ∃ fresh, Reader.ofSource source size = .ok fresh ∧
      ∀ actions, Action.Alternate false actions →
        let r := fresh.after actions
        let moved := Action.movesAfter text 0 actions
        (∀ action : Action, action.isCapture = false → action ≠ .refill →
          (r.perform action).reader = r.advances (action.moves text moved)) ∧
        r.Represents text (min moved text.length) ∧
          ∀ before between, actions = before ++ .startCapture :: between →
            (∀ action ∈ between, action.isCapture = false) →
            let start := (fresh.after before).location.offset.toNat
            let stop := r.location.offset.toNat
            let ended := r.perform .endCapture
            start ≤ stop ∧ ended.answer = .text (text.extract start stop) ∧
              ended.reader.captureStart = none ∧ ended.reader.captureParts = [] := by
  let fresh : Reader := { source := source size.toNat, bufferSize := size.toNat }
  have hfresh : Stands text 0 none fresh :=
    .fresh (loaded_zero hgives size.toNat) rfl ⟨rfl, rfl⟩
  refine ⟨fresh, if_neg (Int.not_le.mpr hsize), ?_⟩
  intro actions halternate r moved
  have hwhole : Action.Alternate (none : Option Nat).isSome (actions ++ []) := by
    rwa [List.append_nil]
  obtain ⟨_, hstands, _⟩ := hfresh.after hwhole
  refine ⟨fun action => hstands.perform_eq, hstands.represents, ?_⟩
  rintro before between rfl hfree start stop ended
  obtain ⟨mark, hbefore, hturn⟩ := hfresh.after halternate
  obtain ⟨hnone, hbetween⟩ := hturn
  obtain rfl : mark = none := by simpa using hnone
  have hnow := hbefore.startCapture.after_free hbetween hfree
  have hr : r = ((fresh.after before).startCapture).after between := after_append _ _ _
  obtain ⟨hle, htoken⟩ := hnow.token
  have hstop := hnow.offset
  have hstart := hbefore.offset
  rw [← hr] at htoken hstop
  rw [← hstart, ← hstop] at htoken hle
  exact ⟨hle, congrArg Answer.text htoken, rfl, rfl⟩

/-- A token that is begun before anything is loaded and goes on in a second chunk. -/
theorem after_represents_token :
    let pieces := [['1', '2'], ['3', ';']]
    let source := fun _ : Nat => Source.ofChunks (pieces.map .text ++ [])
    let size : Int := 5
    let actions := [Action.startCapture, .advance, .readDigit, .readDigit, .readDigit]
    (source size.toNat).Gives pieces.flatten none ∧ 0 < size ∧ Action.Alternate false actions ∧
      ∃ fresh, Reader.ofSource source size = .ok fresh ∧
        (fresh.after actions).Represents pieces.flatten 4 ∧
        ((fresh.after actions).perform .endCapture).answer = .text ['1', '2', '3'] := by
  intro pieces source size actions
  have hgives : (source size.toNat).Gives pieces.flatten none :=
    Source.gives_ofChunks pieces [] (by decide) (Or.inl rfl)
  have hsize : 0 < size := by decide
  have halternate : Action.Alternate false actions := ⟨rfl, trivial⟩
  obtain ⟨fresh, hfresh, hcalls⟩ := Reader.after_represents hgives hsize
  obtain ⟨_, hrepresents, htokens⟩ := hcalls actions halternate
  obtain ⟨_, htoken, _, _⟩ := htokens [] actions.tail rfl (by decide)
  cases hfresh
  exact ⟨hgives, hsize, halternate, _, rfl, hrepresents, htoken.trans (by decide +kernel)⟩

end Reader

end PlotStream
