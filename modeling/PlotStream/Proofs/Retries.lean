import Mathlib.Data.List.TakeDrop
import PlotStream.Proofs.ReaderCalls
import PlotStream.Proofs.Requests

/-!
A reader in the hands of a caller who goes on after failures. When a request fails, half of the work
of a refill is done: the chunk has been left behind as far as its offset and the token go, and it is
still in the buffer. With every failure it is left behind once more, so offsets and the token drift.
The characters do not, because the chunk stays used up and the next move asks again.

What the moves of a reader come to is therefore known from the characters left in its buffer and the
replies that its source still has. `Reader.Awaits` says so without any offset, and one move takes off
the first of what is awaited, be it a character or a failure.
-/

namespace PlotStream

/-- What a source replies until it tells that the text is over: chunks, and failures anywhere among
them. -/
inductive Source.Replies : Source → List Reply → Prop where
  | ended {source : Source} (h : source.next.1 = .text []) : Replies source []
  | failure {source : Source} {cause : ReadFailure} {replies : List Reply}
      (h : source.next.1 = .failure cause) (hrest : Replies source.next.2 replies) :
      Replies source (.failure cause :: replies)
  | chunk {source : Source} {c : Char} {cs : List Char} {replies : List Reply}
      (h : source.next.1 = .text (c :: cs)) (hrest : Replies source.next.2 replies) :
      Replies source (.text (c :: cs) :: replies)

/-- Replies none of which is empty are given one after the other, and what stands behind an empty one
is never asked for. -/
theorem Source.replies_ofChunks {replies unread : List Reply} (hreplies : .text [] ∉ replies)
    (hunread : unread = [] ∨ unread.head? = some (.text [])) :
    (ofChunks (replies ++ unread)).Replies replies := by
  induction replies with
  | nil =>
      apply Replies.ended
      rcases hunread with rfl | hhead
      · rfl
      · obtain ⟨later, rfl⟩ := List.head?_eq_some_iff.mp hhead
        rfl
  | cons reply more ih =>
      have hmore := ih fun hmember => hreplies (List.mem_cons_of_mem _ hmember)
      match reply with
      | .failure cause => exact .failure rfl hmore
      | .text [] => exact absurd List.mem_cons_self hreplies
      | .text (c :: cs) => exact .chunk rfl hmore

def Reply.isFailure : Reply → Bool
  | .text _ => false
  | .failure _ => true

section Results

variable {ε α : Type}

/-- The values among results that go on with one value for ever. -/
theorem filterMap_takeD (results : List (Except ε α)) (last : α) (n : Nat) :
    (results.takeD n (.ok last)).filterMap Except.toOption =
      (results.filterMap Except.toOption).takeD
        ((results.takeD n (.ok last)).filterMap Except.toOption).length last := by
  induction n generalizing results with
  | zero => rfl
  | succ n ih =>
      match results with
      | [] => exact congrArg (last :: ·) (ih [])
      | .ok value :: rest => exact congrArg (value :: ·) (ih rest)
      | .error fault :: rest => exact ih rest

/-- Nothing but the faults is missing among the values. -/
theorem le_length_filterMap_takeD (results : List (Except ε α)) (last : α) (n : Nat) :
    n ≤ ((results.takeD n (.ok last)).filterMap Except.toOption).length +
      results.countP (·.toOption.isNone) := by
  induction n generalizing results with
  | zero => exact Nat.zero_le _
  | succ n ih =>
      match results with
      | [] => exact Nat.succ_le_succ (ih [])
      | .ok value :: rest =>
          rw [List.countP_cons_of_neg (by simp [Except.toOption])]
          exact Nat.le_trans (Nat.succ_le_succ (ih rest)) (Nat.le_of_eq (Nat.succ_add _ _).symm)
      | .error fault :: rest =>
          rw [List.countP_cons_of_pos rfl]
          exact Nat.succ_le_succ (ih rest)

end Results

namespace Reader

variable {r : Reader} {outlook : List (Except ReadFailure Answer)}

/-- What the caller is told of an action: its answer, unless a request failed. -/
def Performed.outcome (p : Performed) : Except ReadFailure Answer :=
  match p.failure? with
  | some cause => .error cause
  | none => .ok p.answer

/-- What the caller is told of the moves among actions in order, going on after failures. -/
def outcomes (r : Reader) : List Action → List (Except ReadFailure Answer)
  | [] => []
  | action :: rest =>
    let later := (r.perform action).reader.outcomes rest
    if action = .advance then (r.perform action).outcome :: later else later

/-- Whether an action never moves the lookahead and never asks the source for anything. -/
def Action.isIdle : Action → Bool
  | .startCapture => true
  | .endCapture => true
  | .location => true
  | .atBlank => true
  | .atEnd => true
  | _ => false

/-- Only the source, the sizes of the requests, the offset of the buffer and the token may be
different. -/
structure Unmoved (r other : Reader) : Prop where
  current : other.current = r.current
  buffer : other.buffer = r.buffer
  index : other.index = r.index
  fill : other.fill = r.fill
  line : other.line = r.line
  lineOffset : other.lineOffset = r.lineOffset
  exhausted : other.exhausted = r.exhausted
  bufferSize : other.bufferSize = r.bufferSize

/-- What a reply comes to: a move for each of its characters, or one for the failure. -/
def outcomesOf : Reply → List (Except ReadFailure Answer)
  | .text cs => cs.map fun c => .ok (.character (some c))
  | .failure cause => [.error cause]

/-- What a move can be, with what the caller is told of it and the reader that it leaves. -/
inductive MovesOn (r : Reader) : Except ReadFailure Answer → Reader → Prop where
  | spent (hexhausted : r.exhausted = true) : MovesOn r (.ok (.character none)) r
  | buffered (hrunning : r.exhausted = false) (hlt : r.index < r.buffer.size) :
      MovesOn r (.ok (.character (some r.buffer[r.index]))) r.load
  /-- The chunk has been left behind, and nothing has come in its place. -/
  | failed {cause : ReadFailure} (hrunning : r.exhausted = false)
      (hused : ¬ r.index < r.buffer.size) (hreply : r.source.next.1 = .failure cause) :
      MovesOn r (.error cause)
        { r.leaveChunk with source := r.source.next.2, asked := r.bufferSize :: r.asked }
  | ended (hrunning : r.exhausted = false) (hused : ¬ r.index < r.buffer.size)
      (hreply : r.source.next.1 = .text []) :
      MovesOn r (.ok (.character none))
        { r.leaveChunk with
          source := r.source.next.2
          asked := r.bufferSize :: r.asked
          buffer := #[]
          index := 0
          exhausted := true
          current := none }
  | refilled {c : Char} {cs : List Char} (hrunning : r.exhausted = false)
      (hused : ¬ r.index < r.buffer.size) (hreply : r.source.next.1 = .text (c :: cs)) :
      MovesOn r (.ok (.character (some c)))
        (load { r.leaveChunk with
          source := r.source.next.2
          asked := r.bufferSize :: r.asked
          buffer := (c :: cs).toArray
          index := 0 })

/-- What the next moves of a reader come to, up to the end of the text. The characters left in the
buffer are like a chunk in front of the replies of the source. Where the reader takes itself to be in
the text does not enter. -/
inductive Awaits (r : Reader) : List (Except ReadFailure Answer) → Prop where
  | running {replies : List Reply} (hrunning : r.exhausted = false)
      (hreplies : r.source.Replies replies) :
      Awaits r (outcomesOf (.text (r.buffer.toList.drop r.index)) ++ replies.flatMap outcomesOf)
  | spent (hexhausted : r.exhausted = true) : Awaits r []

theorem unmoved_leaveChunk (r : Reader) : r.Unmoved r.leaveChunk := by
  unfold leaveChunk
  split <;> exact ⟨rfl, rfl, rfl, rfl, rfl, rfl, rfl, rfl⟩

theorem lookahead_load (hrunning : r.exhausted = false) (hlt : r.index < r.buffer.size) :
    r.load.lookahead = some r.buffer[r.index] := by
  rw [lookahead, (sameChunk_load r).exhausted, hrunning]
  simp only [load, hlt, dite_true, Bool.false_eq_true, if_false]

/-- One lemma for all that a move can do, the failing ones included. -/
theorem movesOn_advance (r : Reader) :
    r.MovesOn (r.perform .advance).outcome (r.perform .advance).reader := by
  have hperform {moved : Reader × Option Intake} (h : r.advance = moved) :
      r.perform .advance = ⟨moved.1, moved.2.toList, .character moved.1.lookahead⟩ := by
    rw [perform, h]
  cases hexhausted : r.exhausted with
  | true =>
      have hstay : r.advance = (r, none) := if_pos hexhausted
      have hover : r.lookahead = none := if_pos hexhausted
      rw [hperform hstay, hover]
      exact .spent hexhausted
  | false =>
      have hrunning : ¬ r.exhausted = true := by simp [hexhausted]
      by_cases hlt : r.index < r.buffer.size
      · have hload : r.advance = (r.load, none) := by rw [advance, if_neg hrunning, if_pos hlt]
        rw [hperform hload, lookahead_load hexhausted hlt]
        exact .buffered hexhausted hlt
      · have hask : r.advance = (r.refill.1.settle r.refill.2, some r.refill.2) := by
          rw [advance, if_neg hrunning, if_neg hlt]
        rw [hperform hask]
        unfold refill
        cases hreply : r.source.next.1 with
        | failure cause => exact .failed hexhausted hlt hreply
        | text cs =>
            cases cs with
            | nil => exact .ended hexhausted hlt hreply
            | cons c cs =>
                dsimp only [receive, settle]
                rw [lookahead_load (by simpa using hexhausted) (by simp)]
                exact .refilled hexhausted hlt hreply

/-- What is awaited when the next character of the buffer has been loaded. -/
theorem awaits_load {replies : List Reply} (hrunning : r.exhausted = false)
    (hlt : r.index < r.buffer.size) (hreplies : r.source.Replies replies) :
    r.load.Awaits
      (outcomesOf (.text (r.buffer.toList.drop (r.index + 1))) ++ replies.flatMap outcomesOf) := by
  have hsame := sameChunk_load r
  rw [← load_index hlt, ← hsame.buffer]
  exact .running (hsame.exhausted.trans hrunning) (hsame.source ▸ hreplies)

theorem drop_of_used (hused : ¬ r.index < r.buffer.size) :
    r.buffer.toList.drop r.index = [] := by
  simpa using Nat.not_lt.mp hused

/-- What is awaited when a request has failed. The chunk left behind is still used up. -/
theorem awaits_leaveChunk {source : Source} {asked : List Nat} {replies : List Reply}
    (hrunning : r.exhausted = false) (hused : ¬ r.index < r.buffer.size)
    (hreplies : source.Replies replies) :
    Awaits { r.leaveChunk with source, asked } (replies.flatMap outcomesOf) := by
  have hkept := unmoved_leaveChunk r
  have hstill : r.leaveChunk.buffer.toList.drop r.leaveChunk.index = [] := by
    rw [hkept.buffer, hkept.index, drop_of_used hused]
  have hnext : Awaits { r.leaveChunk with source, asked } _ :=
    .running (hkept.exhausted.trans hrunning) hreplies
  dsimp only at hnext
  rwa [hstill] at hnext

/-- A move takes off the first of what is awaited. Behind that the text is over. -/
theorem Awaits.advance (h : r.Awaits outlook) :
    (r.perform .advance).outcome = outlook.headD (.ok (.character none)) ∧
      (r.perform .advance).reader.Awaits outlook.tail := by
  have hmoves := movesOn_advance r
  generalize (r.perform .advance).outcome = outcome at hmoves ⊢
  generalize (r.perform .advance).reader = other at hmoves ⊢
  cases h with
  | spent hexhausted =>
      cases hmoves with
      | spent _ => exact ⟨rfl, .spent hexhausted⟩
      | buffered hrunning _ => simp [hexhausted] at hrunning
      | failed hrunning _ _ => simp [hexhausted] at hrunning
      | ended hrunning _ _ => simp [hexhausted] at hrunning
      | refilled hrunning _ _ => simp [hexhausted] at hrunning
  | @running replies hrunning hreplies =>
      cases hmoves with
      | spent hexhausted => simp [hexhausted] at hrunning
      | buffered _ hlt =>
          have hdrop : r.buffer.toList.drop r.index =
              r.buffer[r.index] :: r.buffer.toList.drop (r.index + 1) := by
            rw [List.drop_eq_getElem_cons (by simpa using hlt), Array.getElem_toList]
          rw [hdrop]
          exact ⟨rfl, awaits_load hrunning hlt hreplies⟩
      -- In the other cases the buffer is used up, and the next reply decides.
      | failed _ hused hreply =>
          rw [drop_of_used hused]
          cases hreplies with
          | ended h => cases hreply.symm.trans h
          | chunk h _ => cases hreply.symm.trans h
          | failure h hrest =>
              cases hreply.symm.trans h
              exact ⟨rfl, awaits_leaveChunk hrunning hused hrest⟩
      | ended _ hused hreply =>
          rw [drop_of_used hused]
          cases hreplies with
          | ended _ => exact ⟨rfl, .spent rfl⟩
          | chunk h _ => cases hreply.symm.trans h
          | failure h _ => cases hreply.symm.trans h
      | refilled _ hused hreply =>
          have hkept := unmoved_leaveChunk r
          rw [drop_of_used hused]
          cases hreplies with
          | ended h => cases hreply.symm.trans h
          | failure h _ => cases hreply.symm.trans h
          | chunk h hrest =>
              cases hreply.symm.trans h
              exact ⟨rfl, awaits_load (hkept.exhausted.trans hrunning) (Nat.zero_lt_succ _) hrest⟩

/-- An action that does not move the lookahead changes at most the token. -/
theorem Awaits.idle {action : Action} (h : r.Awaits outlook) (hidle : action.isIdle = true) :
    (r.perform action).reader.Awaits outlook := by
  have hcapture (start : Option Int) (parts : List (List Char)) :
      Awaits { r with captureStart := start, captureParts := parts } outlook := by
    cases h with
    | running hrunning hreplies => exact .running hrunning hreplies
    | spent hexhausted => exact .spent hexhausted
  cases action with
  | startCapture => exact hcapture _ r.captureParts
  | endCapture => exact hcapture _ _
  | location => exact h
  | atBlank => exact h
  | atEnd => exact h
  | _ => cases hidle

/-- The moves come to what is awaited, in order, and then to the end of the text again and again. -/
theorem Awaits.outcomes_eq {actions : List Action} (h : r.Awaits outlook)
    (hactions : ∀ action ∈ actions, action = .advance ∨ action.isIdle = true) :
    r.outcomes actions = outlook.takeD (actions.count .advance) (.ok (.character none)) := by
  induction actions generalizing r outlook with
  | nil => rfl
  | cons action rest ih =>
      have hrest : ∀ other ∈ rest, other = .advance ∨ other.isIdle = true :=
        fun other hmember => hactions other (List.mem_cons_of_mem _ hmember)
      rw [outcomes]
      rcases hactions action List.mem_cons_self with rfl | hidle
      · obtain ⟨houtcome, hnext⟩ := h.advance
        rw [if_pos rfl, List.count_cons_self, List.takeD, houtcome, ih hnext hrest]
      · have hother : action ≠ .advance := by
          rintro rfl
          cases hidle
        rw [if_neg hother, List.count_cons_of_ne hother]
        exact ih (h.idle hidle) hrest

/-- A move that fails leaves the reader where it was. -/
theorem unmoved_of_failed {cause : ReadFailure} (h : (r.perform .advance).outcome = .error cause) :
    r.Unmoved (r.perform .advance).reader := by
  have hmoves := movesOn_advance r
  rw [h] at hmoves
  generalize (r.perform .advance).reader = other at hmoves ⊢
  cases hmoves with
  | failed _ _ _ => exact { unmoved_leaveChunk r with }

theorem values_outcomesOf (replies : List Reply) :
    (replies.flatMap outcomesOf).filterMap Except.toOption =
      (replies.flatMap Reply.chars).map fun c => .character (some c) := by
  induction replies with
  | nil => rfl
  | cons reply rest ih =>
      rw [List.flatMap_cons, List.flatMap_cons, List.filterMap_append, List.map_append, ih]
      cases reply with
      | text cs =>
          rw [outcomesOf, List.filterMap_map, ← List.filterMap_eq_map]
          rfl
      | failure cause => rfl

theorem faults_outcomesOf (replies : List Reply) :
    (replies.flatMap outcomesOf).countP (·.toOption.isNone) = replies.countP Reply.isFailure := by
  induction replies with
  | nil => rfl
  | cons reply rest ih =>
      rw [List.flatMap_cons, List.countP_append, ih, List.countP_cons, Nat.add_comm]
      congr 1
      cases reply with
      | text cs => simp [outcomesOf, Reply.isFailure, Except.toOption]
      | failure cause => rfl

/-- No character is lost or told twice because requests fail. Whatever failures lie between the chunks
of a source, in front of them or behind them, a caller who goes on moving the lookahead hears of every
failure once and in its place. The moves that do not fail give the characters of the chunks in order
and then the end of the text, and no more moves fail than there are failures. It makes no difference
what is asked of the reader in between that does not move it. A move that fails leaves the reader
where it was, whatever has been asked of it before. -/
theorem advance_loses_nothing {source : Nat → Source} {size : Int} {replies : List Reply}
    (hreplies : (source size.toNat).Replies replies) (hsize : 0 < size) :
    ∃ fresh, Reader.ofSource source size = .ok fresh ∧
      (∀ actions : List Action, (∀ action ∈ actions, action = .advance ∨ action.isIdle = true) →
        let moves := actions.count .advance
        let outcomes := fresh.outcomes actions
        let told := outcomes.filterMap Except.toOption
        let text := replies.flatMap Reply.chars
        outcomes = (replies.flatMap outcomesOf).takeD moves (.ok (.character none)) ∧
          told = (text.map fun c => .character (some c)).takeD told.length (.character none) ∧
          moves ≤ told.length + replies.countP Reply.isFailure) ∧
      ∀ (actions : List Action) (cause : ReadFailure),
        let r := fresh.after actions
        (r.perform .advance).outcome = .error cause → r.Unmoved (r.perform .advance).reader := by
  let fresh : Reader := { source := source size.toNat, bufferSize := size.toNat }
  have hfresh : fresh.Awaits (replies.flatMap outcomesOf) := .running rfl hreplies
  refine ⟨fresh, if_neg (Int.not_le.mpr hsize), ?_, fun _ _ => unmoved_of_failed⟩
  intro actions hactions moves outcomes told text
  have houtcomes : outcomes = (replies.flatMap outcomesOf).takeD moves (.ok (.character none)) :=
    hfresh.outcomes_eq hactions
  have htold : told = outcomes.filterMap Except.toOption := rfl
  refine ⟨houtcomes, ?_, ?_⟩
  · rw [htold, houtcomes, ← values_outcomesOf]
    exact filterMap_takeD _ _ _
  · rw [htold, houtcomes, ← faults_outcomesOf]
    exact le_length_filterMap_takeD _ _ _

/-- Failures before the first chunk, between two chunks while a token is under way, and behind the
last chunk. -/
theorem advance_loses_nothing_interrupted :
    let busy := ReadFailure.device "busy"
    let gone := ReadFailure.device "gone"
    let replies := [.failure busy, .text ['a', '\n'], .failure busy, .failure gone, .text ['b'],
      .failure busy]
    let source := fun _ : Nat => Source.ofChunks (replies ++ [])
    let size : Int := 5
    let before := [Action.advance, .advance, .startCapture, .advance]
    let actions := before ++ [.advance, .advance, .advance, .endCapture, .advance, .advance, .advance]
    (source size.toNat).Replies replies ∧ 0 < size ∧
      (∀ action ∈ actions, action = .advance ∨ action.isIdle = true) ∧
      ∃ fresh, Reader.ofSource source size = .ok fresh ∧
        fresh.outcomes actions =
          [.error busy, .ok (.character 'a'), .ok (.character '\n'), .error busy, .error gone,
            .ok (.character 'b'), .error busy, .ok (.character none), .ok (.character none)] ∧
        ((fresh.after before).perform .advance).outcome = .error busy ∧
        (fresh.after before).Unmoved ((fresh.after before).perform .advance).reader := by
  intro busy gone replies source size before actions
  have hreplies : (source size.toNat).Replies replies :=
    Source.replies_ofChunks (by decide) (Or.inl rfl)
  have hsize : 0 < size := by decide
  have hactions : ∀ action ∈ actions, action = .advance ∨ action.isIdle = true := by decide
  obtain ⟨fresh, hfresh, houtcomes, hfailed⟩ := Reader.advance_loses_nothing hreplies hsize
  obtain ⟨htold, _, _⟩ := houtcomes actions hactions
  have hbusy : ((fresh.after before).perform .advance).outcome = .error busy := by
    cases hfresh
    rfl
  exact ⟨hreplies, hsize, hactions, fresh, hfresh, htold, hbusy, hfailed before busy hbusy⟩

end Reader

end PlotStream
