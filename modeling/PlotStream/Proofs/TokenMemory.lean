import PlotStream.Proofs.ReaderView
import PlotStream.Proofs.RunEnds

/-!
How much of a token is ever set aside. A reader sets aside the characters from the beginning of the
token up to the lookahead when it leaves a chunk, so what it keeps is never longer than what has been
read of the token. Operation codes have two characters, and an integer is given up at its eleventh
digit, so there is a bound whatever the text is and however it is cut. Outside of tokens nothing is
kept at all.

A request can fail. The parse is over then, and the reader is left as it was while the request was
under way, with the chunk before it set aside. What is shown of the reader behind a step holds of
such an end as well.
-/

namespace PlotStream

namespace Reader

variable {r : Reader} {n k : Nat}

/-- The number of characters of a token that have been set aside. -/
def held (r : Reader) : Nat := r.captureParts.flatten.length

/-- There is no token, and nothing is kept of one. -/
structure Clear (r : Reader) : Prop where
  captureStart : r.captureStart = none
  captureParts : r.captureParts = []

/-- The token before the lookahead has at most `n` characters. What has been set aside is a part of
it, and the rest stands in the buffer. -/
structure Short (n : Nat) (r : Reader) : Prop where
  held_le : r.held ≤ n
  token_le : ∀ start ∈ r.captureStart, r.held + (r.currentIndex - start) ≤ n

theorem Clear.held (h : r.Clear) : r.held = 0 := by
  rw [Reader.held, h.captureParts]
  rfl

theorem Clear.congr {other : Reader} (h : r.Clear) (hsame : r.SameCapture other) : other.Clear :=
  ⟨hsame.1.trans h.captureStart, hsame.2.1.trans h.captureParts⟩

theorem clear_endCapture (r : Reader) : r.endCapture.2.Clear := ⟨rfl, rfl⟩

theorem Clear.startCapture (h : r.Clear) : r.startCapture.Short 0 where
  held_le := Nat.le_of_eq h.held
  token_le := by
    rintro start ⟨⟩
    have hheld : r.startCapture.held = 0 := h.held
    have hindex : r.startCapture.currentIndex = r.currentIndex := rfl
    omega

theorem Short.mono (h : r.Short n) (hle : n ≤ k) : r.Short k where
  held_le := Nat.le_trans h.held_le hle
  token_le start hstart := by
    have htoken := h.token_le start hstart
    omega

theorem SameCapture.held {other : Reader} (h : r.SameCapture other) : other.held = r.held := by
  rw [Reader.held, h.2.1, Reader.held]

theorem length_slice_le (r : Reader) (start : Int) :
    (r.slice start r.fill).length ≤ (r.fill - start).toNat := by
  simp only [slice, Text.clampPosition, Array.length_toList, Array.size_extract]
  split <;> split <;> simp only [fill] at * <;> omega

theorem start_leaveChunk {start : Int} (h : start ∈ r.leaveChunk.captureStart) : start = 0 := by
  unfold leaveChunk at h
  split at h
  next hnone => cases hnone.symm.trans h
  · exact (Option.some.inj h).symm

/-- The chunk is left when all of it has been loaded, so the share of the token that is set aside
ends with the lookahead. -/
theorem Short.leaveChunk (h : r.Short n) (hused : r.fill ≤ r.currentIndex + 1) :
    r.leaveChunk.held ≤ n + 1 := by
  have hheld := h.held_le
  unfold Reader.leaveChunk
  split
  · exact Nat.le_succ_of_le hheld
  next start hstart =>
    have htoken := h.token_le start hstart
    have hslice := r.length_slice_le start
    have hsum : Reader.held { r with
        bufferOffset := r.bufferOffset + r.fill
        captureParts := r.captureParts ++ [r.slice start r.fill]
        captureStart := some 0 } = r.held + (r.slice start r.fill).length := by
      simp [Reader.held]
    rw [hsum]
    omega

theorem currentIndex_load (hlt : r.index < r.buffer.size) (hrunning : r.exhausted = false) :
    r.load.currentIndex = r.currentIndex + 1 := by
  simp only [load, hlt, dite_true]
  split <;> simp [currentIndex, hrunning]

/-- A request that does not fail leaves the lookahead at the beginning of the buffer. -/
theorem currentIndex_settle_refill (hrunning : r.exhausted = false)
    (h : r.refill.2.failure? = none) : (r.refill.1.settle r.refill.2).currentIndex = 0 := by
  unfold refill at h ⊢
  cases hreply : r.source.next.1 with
  | failure cause => simp [hreply, receive, Intake.failure?] at h
  | text cs =>
      cases cs with
      | nil => simp [receive, settle, currentIndex]
      | cons c cs =>
          simp only [receive, settle]
          rw [currentIndex_load (by simp) (by simpa using hrunning)]
          simp [currentIndex, hrunning]

/-- One more character belongs to the token when the lookahead moves. If that takes a request, no
more than that has been set aside, also when the request fails. -/
theorem Short.advance (h : r.Short n) :
    r.advance.1.held ≤ n + 1 ∧
      (r.advance.2.bind Intake.failure? = none → r.advance.1.Short (n + 1)) := by
  have hheld := h.held_le
  unfold Reader.advance
  split
  · exact ⟨Nat.le_succ_of_le hheld, fun _ => h.mono (Nat.le_succ n)⟩
  next hexhausted =>
    have hrunning : r.exhausted = false := Bool.eq_false_iff.mpr hexhausted
    split
    next hindex =>
      have hsame := sameCapture_load r
      have hload : r.load.held ≤ n := hsame.held ▸ hheld
      refine ⟨Nat.le_succ_of_le hload, fun _ => ⟨Nat.le_succ_of_le hload, ?_⟩⟩
      intro start hstart
      have htoken := h.token_le start (hsame.1 ▸ hstart)
      rw [hsame.held, currentIndex_load hindex hrunning]
      omega
    next hindex =>
      have hused : r.fill ≤ r.currentIndex + 1 := by
        rw [currentIndex, hrunning, fill]
        simp only [Bool.false_eq_true, if_false]
        omega
      have hsame := sameCapture_settle_refill r
      have hleft := h.leaveChunk hused
      rw [← hsame.held] at hleft
      refine ⟨hleft, fun hfine => ⟨hleft, fun start hstart => ?_⟩⟩
      have hzero : start = 0 := start_leaveChunk (hsame.1 ▸ hstart)
      have hfirst := currentIndex_settle_refill hrunning hfine
      dsimp only
      omega

theorem Clear.advance (h : r.Clear) : r.advance.1.Clear := by
  unfold Reader.advance
  split
  · exact h
  split
  · exact h.congr (sameCapture_load r)
  · have hleave : r.leaveChunk = { r with bufferOffset := r.bufferOffset + r.fill } := by
      simp [Reader.leaveChunk, h.captureStart]
    have hleft : r.leaveChunk.Clear := by
      rw [hleave]
      exact ⟨h.captureStart, h.captureParts⟩
    exact hleft.congr (sameCapture_settle_refill r)

/-- A reader outside of a token, or within one of which no more has been read than a literal with one
digit too many has. -/
def Keeps (r : Reader) : Option Nat → Prop
  | none => r.Clear
  | some n => r.Short n ∧ n ≤ Numeral.maxDigits + 2

end Reader

/-- How much of a token can have been read in a phase. Outside of tokens it is nothing. -/
def Phase.room : Phase → Option Nat
  | .secondLetter _ => some 1
  | .dispatch _ => some 2
  | .leadingDigit _ _ => some 1
  | .digits _ _ count => some (count + 1)
  | .literal _ _ => some (Numeral.maxDigits + 1)
  | .preamble _ => none
  | .blanks _ => none
  | .closing _ => none
  | .skipping _ _ => none
  | .skipped _ _ => none

namespace Machine

variable {m m' : Machine} {r : Reader} {phase : Phase} {n k : Nat}

/-- Whether the step to be made reads an operation code: its first character, its second one, or the
whole of it. -/
def readsCode (m : Machine) : Bool :=
  match m.phase with
  | .secondLetter _ => true
  | .dispatch _ => true
  | .blanks .opcode => !m.reader.lookahead.any Text.isBlank
  | _ => false

/-- Whether the step to be made passes over the preamble, a blank, or a command that is not
supported. -/
def passesOver (m : Machine) : Bool :=
  match m.phase with
  | .preamble _ => true
  | .blanks _ => m.reader.lookahead.any Text.isBlank
  | .skipping _ _ => true
  | _ => false

/-- What a reader may keep of a token while a machine makes its step. -/
structure Spares (m : Machine) (r : Reader) : Prop where
  token : r.held ≤ 12
  code : m.readsCode = true → r.held ≤ 2
  clear : m.passesOver = true → r.Clear

/-- The reader keeps what the phase has room for. -/
def Fits (m : Machine) : Prop := m.reader.Keeps m.phase.room

theorem spares_of_clear (h : r.Clear) : m.Spares r where
  token := h.held ▸ Nat.zero_le _
  code _ := h.held ▸ Nat.zero_le _
  clear _ := h

theorem spares_of_held (h : r.held ≤ n) (htoken : n ≤ 12) (hcode : m.readsCode = true → n ≤ 2)
    (hover : m.passesOver = false) : m.Spares r where
  token := Nat.le_trans h htoken
  code hreads := Nat.le_trans h (hcode hreads)
  clear hpasses := by cases hover.symm.trans hpasses

theorem Fits.clear (h : m.Fits) (hroom : m.phase.room = none) : m.reader.Clear := by
  rw [Fits, hroom] at h
  exact h

theorem Fits.short (h : m.Fits) (hroom : m.phase.room = some n) :
    m.reader.Short n ∧ n ≤ Numeral.maxDigits + 2 := by
  rw [Fits, hroom] at h
  exact h

/-- What fits the phase of a machine is spared in its step as well. -/
theorem Fits.spares (h : m.Fits) : m.Spares m.reader := by
  cases hroom : m.phase.room with
  | none => exact spares_of_clear (h.clear hroom)
  | some n =>
      obtain ⟨hshort, hle⟩ := h.short hroom
      refine spares_of_held hshort.held_le hle ?_ ?_
      · intro hreads
        unfold readsCode at hreads
        split at hreads <;> simp_all [Phase.room]
        all_goals omega
      · unfold passesOver
        split <;> simp_all [Phase.room]

end Machine

/-- What a step leads to fits, and nothing more is kept on the way. -/
inductive Step.Fits (m : Machine) : Step → Prop where
  | moved {next : Machine} {notice : Option Notice} (hspares : m.Spares next.reader)
      (hnext : next.Fits) : Fits m (.moved next notice)
  | finished {last : Machine} (hspares : m.Spares last.reader) : Fits m (.finished last)
  | failed {last : Machine} {fault : Fault} (hspares : m.Spares last.reader) :
      Fits m (.failed last fault)

theorem Step.Fits.spares {m : Machine} {step : Step} (h : step.Fits m) :
    m.Spares step.machine.reader := by
  cases h with
  | moved hspares _ => exact hspares
  | finished hspares => exact hspares
  | failed hspares => exact hspares

namespace Machine

variable {m m' : Machine} {phase : Phase} {n k : Nat}

theorem advance_clear (h : m'.reader.Clear) (hroom : phase.room = none) :
    (m'.advance phase).Fits m := by
  have hnext := h.advance
  unfold advance
  dsimp only
  split
  · exact .failed (spares_of_clear hnext)
  · refine .moved (spares_of_clear hnext) ?_
    rw [Fits, hroom]
    exact hnext

/-- One more character of a token. -/
theorem advance_short (h : m'.reader.Short n) (hroom : phase.room = some k) (hle : n + 1 ≤ k)
    (htoken : k ≤ 12) (hcode : m.readsCode = true → n + 1 ≤ 2) (hover : m.passesOver = false) :
    (m'.advance phase).Fits m := by
  obtain ⟨hheld, hnext⟩ := h.advance
  have hspares : m.Spares m'.reader.advance.1 :=
    spares_of_held hheld (Nat.le_trans hle htoken) hcode hover
  unfold advance
  dsimp only
  split
  · exact .failed hspares
  next hfine =>
    refine .moved hspares ?_
    rw [Fits, hroom]
    exact ⟨(hnext hfine).mono hle, htoken⟩

theorem become_clear (h : m'.reader.Clear) (hroom : phase.room = none) :
    (m'.become phase).Fits m := by
  refine .moved (spares_of_clear h) ?_
  rw [Fits, hroom]
  exact h

theorem tell_clear (h : m'.reader.Clear) (notice : Notice) : (m'.tell notice).Fits m :=
  .moved (spares_of_clear h) h

theorem reject_clear (h : m'.reader.Clear) (expected : Expectation) :
    (m'.reject expected).Fits m := .failed (spares_of_clear h)

theorem afterBlanks_fits {due : Due} (h : m.reader.Clear) (hphase : m.phase = .blanks due)
    (hblank : m.reader.lookahead.any Text.isBlank = false) : (m.afterBlanks due).Fits m := by
  have hstarted := h.startCapture
  have hover : m.passesOver = false := by rw [passesOver, hphase, hblank]
  cases due with
  | opcode =>
      rw [afterBlanks]
      split
      · exact .finished (spares_of_clear h)
      · exact advance_short hstarted rfl (Nat.le_refl _) (by decide) (by simp) hover
  | terminator c =>
      rw [afterBlanks]
      split
      · exact advance_clear h rfl
      · exact reject_clear h _
  | optionalPen =>
      rw [afterBlanks]
      split <;> exact become_clear h rfl
  | integer slot =>
      rw [afterBlanks]
      split
      · exact advance_short hstarted rfl (Nat.le_refl _) (by decide) (by simp) hover
      · refine .moved (spares_of_held hstarted.held_le (by decide) (by simp) hover) ?_
        exact ⟨hstarted.mono (Nat.le_succ 0), by decide⟩
  | separator x =>
      rw [afterBlanks]
      split
      · exact advance_clear h rfl
      · exact reject_clear h _

theorem argumentsOf_room (code : List Char) (start : Location) :
    (argumentsOf code start).room = none := by
  unfold argumentsOf
  split <;> rfl

/-- A step keeps to the room that there is, one case for each phase. An integer is given up at its
eleventh digit, so there is never a twelfth. -/
theorem step_fits (h : m.Fits) : m.step.Fits m := by
  have hended := m.reader.clear_endCapture
  rw [step]
  cases hphase : m.phase with
  | preamble previous =>
      have hclear := h.clear (by rw [hphase]; rfl)
      dsimp only
      split
      · exact advance_clear hclear rfl
      split
      · exact tell_clear hclear _
      · exact advance_clear hclear rfl
  | blanks due =>
      have hclear := h.clear (by rw [hphase]; rfl)
      dsimp only
      split
      · exact advance_clear hclear rfl
      next hblank => exact afterBlanks_fits hclear hphase (Bool.eq_false_iff.mpr hblank)
  | secondLetter start =>
      obtain ⟨hshort, _⟩ := h.short (n := 1) (by rw [hphase]; rfl)
      exact advance_short hshort rfl (Nat.le_refl _) (by decide) (by simp)
        (by rw [passesOver, hphase])
  | dispatch start => exact become_clear hended (argumentsOf_room _ _)
  | leadingDigit slot start =>
      obtain ⟨hshort, _⟩ := h.short (n := 1) (by rw [hphase]; rfl)
      have hover : m.passesOver = false := by rw [passesOver, hphase]
      dsimp only
      split
      · exact advance_short hshort rfl (by decide) (by decide) (by simp) hover
      · split
        · exact advance_short hshort rfl (Nat.le_refl _) (by decide) (by simp) hover
        · exact .failed h.spares
      · exact .failed h.spares
  | digits slot start count =>
      obtain ⟨hshort, _⟩ := h.short (n := count + 1) (by rw [hphase]; rfl)
      have hover : m.passesOver = false := by rw [passesOver, hphase]
      have hcode : m.readsCode = false := by rw [readsCode, hphase]
      dsimp only
      split
      · exact .failed (spares_of_clear hended)
      next hfew =>
        -- The limit comes before the next digit, so there is room for one more.
        have hcount : count ≤ 10 := Nat.not_lt.mp hfew
        split
        · exact advance_short hshort rfl (Nat.le_refl _) (by omega) (by simp [hcode]) hover
        · refine .moved h.spares ⟨hshort.mono (Nat.succ_le_succ hcount), by decide⟩
  | literal slot start =>
      dsimp only [closeLiteral]
      split
      · exact become_clear hended rfl
      · exact .failed (spares_of_clear hended)
  | closing c => exact tell_clear (h.clear (by rw [hphase]; rfl)) _
  | skipping code start =>
      have hclear := h.clear (by rw [hphase]; rfl)
      dsimp only
      split
      · exact advance_clear hclear rfl
      split
      · exact reject_clear hclear _
      · exact advance_clear hclear rfl
  | skipped code start => exact tell_clear (h.clear (by rw [hphase]; rfl)) _

theorem Makes.fits {told : List Notice} {last : Machine} (h : m.Makes n told last)
    (hm : m.Fits) : last.Fits := by
  induction h with
  | nil _ => exact hm
  | @cons _ m _ _ _ _ hstep _ ih =>
      have hfits := step_fits hm
      rw [hstep] at hfits
      cases hfits with
      | moved _ hnext => exact ih hnext

end Machine

namespace Parser

/-- The memory for tokens is bounded. Whatever the input is and however its source cuts and ends it,
at every step of a parse the reader keeps twelve characters of a token at most, and two at most if
the step reads an operation code; it keeps no token at all if the step passes over the preamble, a
blank or a command that is not supported. This holds before the step, and behind it as well, where the
request is included that a step makes and that may have failed. Outside of tokens nothing is kept in
any case. The end of a run lies behind such a step. -/
theorem parse_spares [Encoding.Registry] (parser : Parser) {input : Input} {options : Options}
    {source : Nat → Source} (hsource : input.source options.encoding = .ok source)
    (hsize : 0 < options.bufferSizeFor input) :
    ∃ reader, input.reader options = .ok reader ∧
      let start := parser.start reader
      let run := start.run parser.listener
      parser.parse input options = .ofRun run ∧
        (∀ n told m, start.Makes n told m →
          m.Spares m.reader ∧ m.Spares m.step.machine.reader ∧
            (m.phase.room = none → m.reader.Clear)) ∧
        ∃ n told m, start.Makes n told m ∧ m.step.machine = run.last := by
  have hreader := Input.reader_eq hsource hsize
  refine ⟨_, hreader, parser.parse_of_reader hreader, ?_, ?_⟩
  · intro n told m hmakes
    have hclear : Reader.Clear
        { source := source (options.bufferSizeFor input).toNat
          bufferSize := (options.bufferSizeFor input).toNat } := ⟨rfl, rfl⟩
    have hfits := hmakes.fits hclear
    exact ⟨hfits.spares, (Machine.step_fits hfits).spares, hfits.clear⟩
  · obtain ⟨n, told, final, hmakes, hend, _⟩ := (parser.start _).exists_end parser.listener []
    exact ⟨n, told, final, hmakes, hend.machine⟩

/-- A source that gives digits one by one and fails behind the eleventh. The request that fails finds
a sign and eleven digits set aside. -/
theorem parse_spares_broken :
    let digits := List.replicate 11 (Reply.text ['9'])
    let input := Input.chunks
      (.text ['I', 'N', ';', 'S', 'P', '-'] :: digits ++ [.failure (.device "gone")])
    let options : Options := { bufferSize := some 1 }
    ∃ source reader, input.source options.encoding = .ok source ∧
      0 < options.bufferSizeFor input ∧ input.reader options = .ok reader ∧
      let run := (Parser.start {} reader).run {}
      run.last.reader.held = 12 ∧ ∃ m : Machine, m.Spares run.last.reader := by
  intro digits input options
  have hsource : input.source options.encoding = .ok fun _ => Source.ofChunks
      (.text ['I', 'N', ';', 'S', 'P', '-'] :: digits ++ [.failure (.device "gone")]) := rfl
  have hsize : 0 < options.bufferSizeFor input := by decide
  obtain ⟨reader, hreader, _, hspares, n, told, m, hmakes, hlast⟩ :=
    Parser.parse_spares {} hsource hsize
  refine ⟨_, reader, hsource, hsize, hreader, ?_, m, ?_⟩
  · obtain rfl := Except.ok.inj hreader
    decide +kernel
  · exact hlast ▸ (hspares n told m hmakes).2.1

end Parser

end PlotStream
