import PlotStream.Proofs.Delivery
import PlotStream.Proofs.Place

/-!
A reader seen from the text. Whatever the chunks were, a reader that has loaded some characters
of a text holds a piece of that text in its buffer, stands on a known character, and counts its
lines as `Location.ofOffset` does. Only the reader of an exhausted source looks different: its
buffer is empty and its position is the end itself.

The captured token is spread over the parts set aside and the buffer. It is always the text from
the mark to the lookahead, because every refill moves the start of the capture together with the
buffer.
-/

namespace PlotStream

namespace Reader

section LeaveChunk

@[simp]
theorem leaveChunk_bufferOffset (r : Reader) :
    r.leaveChunk.bufferOffset = r.bufferOffset + r.buffer.size := by
  unfold leaveChunk
  split <;> rfl

@[simp]
theorem leaveChunk_current (r : Reader) : r.leaveChunk.current = r.current := by
  unfold leaveChunk
  split <;> rfl

@[simp]
theorem leaveChunk_line (r : Reader) : r.leaveChunk.line = r.line := by
  unfold leaveChunk
  split <;> rfl

@[simp]
theorem leaveChunk_lineOffset (r : Reader) : r.leaveChunk.lineOffset = r.lineOffset := by
  unfold leaveChunk
  split <;> rfl

end LeaveChunk

/-- The first `loaded` characters of the text have been loaded, and the end has not been met.
The line counted so far is that of the lookahead, so the lookahead itself does not count. -/
structure Loaded (text : List Char) (ending : Option ReadFailure) (loaded : Nat)
    (r : Reader) : Prop where
  running : r.exhausted = false
  index_le : r.index ≤ r.buffer.size
  position : r.bufferOffset + r.index = loaded
  within : r.bufferOffset + r.buffer.size ≤ text.length
  buffer : r.buffer.toList = (text.drop r.bufferOffset).take r.buffer.size
  source : r.source.Gives (text.drop (r.bufferOffset + r.buffer.size)) ending
  current : r.current = (text.take loaded).getLast?
  line : r.line = 1 + (text.take (loaded - 1)).count '\n'
  lineOffset : r.lineOffset = Text.lineStart (text.take (loaded - 1))

/-- The whole text has been loaded, and the source has told that it is over. -/
structure Spent (text : List Char) (r : Reader) : Prop where
  exhausted : r.exhausted = true
  buffer : r.buffer = #[]
  index : r.index = 0
  bufferOffset : r.bufferOffset = text.length
  current : r.current = none
  line : r.line = 1 + (text.take (text.length - 1)).count '\n'
  lineOffset : r.lineOffset = Text.lineStart (text.take (text.length - 1))

variable {text : List Char} {ending : Option ReadFailure} {loaded : Nat} {r : Reader}

/-- Nothing has been loaded by a reader that was just made. -/
theorem loaded_zero {source : Source} (h : source.Gives text ending) (size : Nat) :
    Loaded text ending 0 { source, bufferSize := size } where
  running := rfl
  index_le := Nat.le_refl _
  position := rfl
  within := Nat.zero_le _
  buffer := rfl
  source := h
  current := rfl
  line := rfl
  lineOffset := rfl

theorem Loaded.le_length (h : r.Loaded text ending loaded) : loaded ≤ text.length := by
  have hindex := h.index_le
  have hwithin := h.within
  have hposition := h.position
  omega

/-- The character behind the loaded ones is the next of the buffer, if the buffer has one. -/
theorem Loaded.getElem?_loaded (h : r.Loaded text ending loaded)
    (hlt : r.index < r.buffer.size) : text[loaded]? = some r.buffer[r.index] := by
  have hbuffer : r.buffer.toList[r.index]? = some r.buffer[r.index] := by simp [hlt]
  rw [h.buffer, List.getElem?_take_of_lt hlt, List.getElem?_drop, h.position] at hbuffer
  exact hbuffer

/-- Loading opens a new line exactly when the character left behind is a line feed. -/
theorem Loaded.load (h : r.Loaded text ending loaded) (hlt : r.index < r.buffer.size) :
    r.load.Loaded text ending (loaded + 1) := by
  have hnext := h.getElem?_loaded hlt
  have htake : text.take (loaded + 1) = text.take loaded ++ [r.buffer[r.index]] := by
    rw [List.take_add_one, hnext, Option.toList_some]
  have hlines : r.load.line = 1 + (text.take loaded).count '\n' ∧
      r.load.lineOffset = Text.lineStart (text.take loaded) := by
    simp only [Reader.load, hlt, dite_true]
    rcases loaded with _ | before
    · have hcurrent : r.current = none := by simpa using h.current
      simpa [hcurrent] using And.intro h.line h.lineOffset
    · have hlast : before < text.length := h.le_length
      have hprior : text.take (before + 1) = text.take before ++ [text[before]] := by
        rw [List.take_add_one, List.getElem?_eq_getElem hlast, Option.toList_some]
      have hcurrent : r.current = some text[before] := by
        rw [h.current, hprior, List.getLast?_concat]
      have hposition := h.position
      have hlength : (text.take before).length = before := by
        rw [List.length_take]
        omega
      rw [hprior, List.count_append, List.count_singleton, Text.lineStart_concat, hcurrent]
      by_cases hfeed : text[before] = '\n'
      · simp [hfeed, h.line, hlength]
        omega
      · simpa [hfeed] using And.intro h.line h.lineOffset
  obtain ⟨hline, hlineOffset⟩ := hlines
  have hfields : r.load.exhausted = r.exhausted ∧ r.load.buffer = r.buffer ∧
      r.load.bufferOffset = r.bufferOffset ∧ r.load.source = r.source ∧
      r.load.index = r.index + 1 ∧ r.load.current = some r.buffer[r.index] := by
    simp only [Reader.load, hlt, dite_true]
    split <;> simp
  obtain ⟨hexhausted, hbuffer, hoffset, hsource, hindex, hcurrent⟩ := hfields
  have hposition := h.position
  exact {
    running := by rw [hexhausted, h.running]
    index_le := by rw [hindex, hbuffer]; exact hlt
    position := by omega
    within := by rw [hoffset, hbuffer]; exact h.within
    buffer := by rw [hbuffer, hoffset]; exact h.buffer
    source := by rw [hsource, hoffset, hbuffer]; exact h.source
    current := by rw [hcurrent, htake, List.getLast?_concat]
    line := hline
    lineOffset := hlineOffset }

/-- A chunk that arrives changes where characters are kept and not which have been loaded. -/
theorem Loaded.refill_chunk (h : r.Loaded text ending loaded) (hused : r.index = r.buffer.size)
    {c : Char} {cs rest : List Char} (hreply : r.source.next.1 = .text (c :: cs))
    (hrest : r.source.next.2.Gives rest ending) (htext : text.drop loaded = c :: cs ++ rest) :
    r.refill.1.Loaded text ending loaded ∧ r.refill.1.index < r.refill.1.buffer.size ∧
      r.refill.2 = .chunk (c :: cs).length loaded := by
  have hposition : r.bufferOffset + r.buffer.size = loaded := hused ▸ h.position
  have hlength : (c :: cs).length ≤ text.length - loaded := by
    rw [← List.length_drop, htext, List.length_append]
    exact Nat.le_add_right _ _
  have hle := h.le_length
  have hdrop : text.drop (loaded + (c :: cs).length) = rest := by
    rw [← List.drop_drop, htext, List.drop_left]
  have hrefill : r.refill = ({ r.leaveChunk with
      source := r.source.next.2
      asked := r.bufferSize :: r.asked
      buffer := (c :: cs).toArray
      index := 0 }, .chunk (c :: cs).length loaded) := by
    simp [refill, hreply, receive, hposition]
  rw [hrefill]
  refine ⟨?_, Nat.zero_lt_succ _, rfl⟩
  exact {
    running := by simpa using h.running
    index_le := Nat.zero_le _
    position := by simpa using hposition
    within := by
      simp only [leaveChunk_bufferOffset, hposition, List.size_toArray]
      omega
    buffer := by
      simp only [leaveChunk_bufferOffset, hposition, List.size_toArray, htext, List.take_left]
    source := by
      simp only [leaveChunk_bufferOffset, hposition, List.size_toArray, hdrop]
      exact hrest
    current := by simpa using h.current
    line := by simpa using h.line
    lineOffset := by simpa using h.lineOffset }

theorem load_index (hlt : r.index < r.buffer.size) : r.load.index = r.index + 1 := by
  simp only [load, hlt, dite_true]

/-- As long as the text goes on, the next character is loaded, from the buffer or from a new
chunk. -/
theorem Loaded.advance_of_lt (h : r.Loaded text ending loaded) (hlt : loaded < text.length) :
    r.advance.1.Loaded text ending (loaded + 1) ∧ 0 < r.advance.1.index ∧
      r.advance.2.bind Intake.failure? = none := by
  unfold advance
  rw [if_neg (by simp [h.running])]
  by_cases hindex : r.index < r.buffer.size
  · rw [if_pos hindex]
    exact ⟨h.load hindex, by simp [load_index hindex], rfl⟩
  · have hused : r.index = r.buffer.size := Nat.le_antisymm h.index_le (Nat.not_lt.mp hindex)
    have hposition : r.bufferOffset + r.buffer.size = loaded := hused ▸ h.position
    rw [if_neg hindex]
    have hgives := h.source
    rw [hposition] at hgives
    generalize hmore : text.drop loaded = more at hgives
    cases hgives with
    | ended _ => exact absurd hmore (by simp; omega)
    | broken _ => exact absurd hmore (by simp; omega)
    | chunk hreply hrest =>
        obtain ⟨hloaded, hfirst, hintake⟩ := h.refill_chunk hused hreply hrest hmore
        rw [hintake]
        exact ⟨hloaded.load hfirst, by simp [settle, load_index hfirst], rfl⟩

/-- At the end of the text the source is asked once more. -/
theorem Loaded.advance_of_eq (h : r.Loaded text ending loaded) (heq : loaded = text.length) :
    (ending = none ∧ r.advance.1.Spent text ∧ r.advance.2 = some (.ended loaded)) ∨
      ∃ cause, ending = some cause ∧ r.advance.2 = some (.failed cause) := by
  have hwithin := h.within
  have hindex := h.index_le
  have hposition := h.position
  have hused : ¬ r.index < r.buffer.size := by omega
  have hend : r.bufferOffset + r.buffer.size = text.length := by omega
  unfold advance
  rw [if_neg (by simp [h.running]), if_neg hused]
  have hgives := h.source
  rw [hend, List.drop_length] at hgives
  generalize hmore : ([] : List Char) = more at hgives
  cases hgives with
  | ended hreply =>
      have hrefill : r.refill = ({ r.leaveChunk with
          source := r.source.next.2
          asked := r.bufferSize :: r.asked
          buffer := #[]
          index := 0
          exhausted := true }, .ended loaded) := by
        simp [refill, hreply, receive, hend, heq]
      rw [hrefill]
      refine Or.inl ⟨rfl, ?_, rfl⟩
      exact {
        exhausted := rfl
        buffer := rfl
        index := rfl
        bufferOffset := by simpa [settle] using hend
        current := rfl
        line := by simpa [settle, heq] using h.line
        lineOffset := by simpa [settle, heq] using h.lineOffset }
  | broken hreply =>
      refine Or.inr ⟨_, rfl, ?_⟩
      simp [refill, hreply, receive]
  | chunk _ _ => cases hmore

theorem Spent.advance (h : r.Spent text) : r.advance = (r, none) := by
  simp [Reader.advance, h.exhausted]

/-- The lookahead of the reader stands at an offset of the text, the end included. Between two
steps of a parse the lookahead is in the buffer, so some character of the buffer is loaded. -/
def At (text : List Char) (ending : Option ReadFailure) (offset : Nat) (r : Reader) : Prop :=
  (r.Loaded text ending (offset + 1) ∧ 0 < r.index) ∨
    (offset = text.length ∧ ending = none ∧ r.Spent text)

variable {offset : Nat}

theorem At.lookahead (h : r.At text ending offset) : r.lookahead = text[offset]? := by
  rcases h with ⟨hloaded, _⟩ | ⟨hend, _, hspent⟩
  · have hlt : offset < text.length := hloaded.le_length
    rw [Reader.lookahead, hloaded.running, hloaded.current, List.take_add_one,
      List.getElem?_eq_getElem hlt, Option.toList_some, List.getLast?_concat]
    rfl
  · rw [Reader.lookahead, hspent.exhausted, hend, List.getElem?_eq_none (Nat.le_refl _)]
    rfl

theorem At.exhausted (h : r.At text ending offset) : r.exhausted = text[offset]?.isNone := by
  rcases h with ⟨hloaded, _⟩ | ⟨hend, _, hspent⟩
  · have hlt : offset < text.length := hloaded.le_length
    rw [hloaded.running, List.getElem?_eq_getElem hlt, Option.isNone_some]
  · rw [hspent.exhausted, hend, List.getElem?_eq_none (Nat.le_refl _), Option.isNone_none]

theorem At.current (h : r.At text ending offset) : r.current = text[offset]? := by
  rcases h with ⟨hloaded, _⟩ | ⟨hend, _, hspent⟩
  · have hlt : offset < text.length := hloaded.le_length
    rw [hloaded.current, List.take_add_one, List.getElem?_eq_getElem hlt, Option.toList_some,
      List.getLast?_concat]
  · rw [hspent.current, hend, List.getElem?_eq_none (Nat.le_refl _)]

theorem At.position (h : r.At text ending offset) :
    (r.bufferOffset : Int) + r.currentIndex = offset := by
  rcases h with ⟨hloaded, _⟩ | ⟨hend, _, hspent⟩
  · have hposition := hloaded.position
    simp only [currentIndex, hloaded.running, Bool.false_eq_true, if_false]
    omega
  · simp [currentIndex, hspent.exhausted, hspent.index, hspent.bufferOffset, hend]

/-- The line and column that the reader has counted are those computed from the whole text. -/
theorem At.location (h : r.At text ending offset) : r.location = .ofOffset text offset := by
  have hlines : r.line = 1 + (text.take (min offset (text.length - 1))).count '\n' ∧
      r.lineOffset = Text.lineStart (text.take (min offset (text.length - 1))) := by
    rcases h with ⟨hloaded, _⟩ | ⟨hend, _, hspent⟩
    · have hlt : offset < text.length := hloaded.le_length
      have hmin : min offset (text.length - 1) = offset := by omega
      rw [hmin]
      exact ⟨hloaded.line, hloaded.lineOffset⟩
    · have hmin : min offset (text.length - 1) = text.length - 1 := by omega
      rw [hmin]
      exact ⟨hspent.line, hspent.lineOffset⟩
  obtain ⟨hline, hlineOffset⟩ := hlines
  simp [Reader.location, Location.ofOffset, h.position, hline, hlineOffset]

/-- Loading moves the lookahead by one character, and not at all once the text is over. Only a
source that ends in a failure can stop it, and only behind the last character. -/
theorem At.advance (h : r.At text ending offset) :
    (r.advance.1.At text ending (if text[offset]?.isSome then offset + 1 else offset) ∧
        r.advance.2.bind Intake.failure? = none) ∨
      ∃ cause, ending = some cause ∧ offset + 1 = text.length ∧
        r.advance.2 = some (.failed cause) := by
  rcases h with ⟨hloaded, _⟩ | ⟨hend, hnone, hspent⟩
  · have hlt : offset < text.length := hloaded.le_length
    have hsome : text[offset]?.isSome = true := by simp [hlt]
    rw [hsome, if_pos rfl]
    rcases Nat.lt_or_eq_of_le hloaded.le_length with hmore | hlast
    · obtain ⟨hnext, hindex, hfine⟩ := hloaded.advance_of_lt hmore
      exact Or.inl ⟨Or.inl ⟨hnext, hindex⟩, hfine⟩
    · rcases hloaded.advance_of_eq hlast with ⟨hnone, hspent, hended⟩ | ⟨cause, hcause, hfailed⟩
      · refine Or.inl ⟨Or.inr ⟨hlast, hnone, hspent⟩, ?_⟩
        rw [hended]
        rfl
      · exact Or.inr ⟨cause, hcause, hlast, hfailed⟩
  · have hsome : text[offset]?.isSome = false := by simp [hend]
    rw [hsome, hspent.advance]
    exact Or.inl ⟨Or.inr ⟨hend, hnone, hspent⟩, rfl⟩

/-- What a reader keeps of a token that began at `mark`. As long as the chunk of the mark is in
the buffer nothing has been set aside; later the capture goes on at the start of the buffer. -/
def Captures (text : List Char) (r : Reader) : Option Nat → Prop
  | none => r.captureStart = none ∧ r.captureParts = []
  | some mark =>
    r.captureStart = some ((mark - r.bufferOffset : Nat) : Int) ∧
      r.captureParts.flatten = (text.drop mark).take (r.bufferOffset - mark)

/-- The buffer is a piece of the text. -/
def Buffered (text : List Char) (r : Reader) : Prop :=
  r.buffer.toList = (text.drop r.bufferOffset).take r.buffer.size

theorem At.buffered (h : r.At text ending offset) : r.Buffered text := by
  rcases h with ⟨hloaded, _⟩ | ⟨_, _, hspent⟩
  · exact hloaded.buffer
  · simp [Buffered, hspent.buffer]

/-- The parts set aside and a beginning of the buffer are the text from the mark on. -/
theorem Captures.upTo {mark stop : Nat} (h : r.Captures text (some mark)) (hr : r.Buffered text)
    (hmark : mark ≤ stop) (hfirst : r.bufferOffset ≤ stop)
    (hlast : stop ≤ r.bufferOffset + r.buffer.size) :
    r.captureParts.flatten ++ r.slice (r.captureStart.getD 0) ((stop - r.bufferOffset : Nat) : Int) =
      (text.drop mark).take (stop - mark) := by
  obtain ⟨hstart, hparts⟩ := h
  have hslice : r.slice ((mark - r.bufferOffset : Nat) : Int) ((stop - r.bufferOffset : Nat) : Int) =
      (text.drop (r.bufferOffset + (mark - r.bufferOffset))).take
        (stop - r.bufferOffset - (mark - r.bufferOffset)) := by
    have hstop : min (stop - r.bufferOffset) r.buffer.size = stop - r.bufferOffset := by omega
    have hbegin : min (mark - r.bufferOffset) r.buffer.size = mark - r.bufferOffset := by omega
    have hnonneg (n : Nat) : ¬ (n : Int) < 0 := by omega
    simp only [slice, Text.clampPosition, hnonneg, if_false, Int.toNat_natCast, fill, hstop,
      hbegin, Array.toList_extract, List.extract_eq_take_drop]
    rw [hr, List.drop_take, List.take_take, List.drop_drop]
    congr 1
    omega
  rw [hstart, Option.getD_some, hslice, hparts]
  rcases Nat.le_total r.bufferOffset mark with hbefore | hbehind
  · have hnothing : r.bufferOffset - mark = 0 := by omega
    have hsum : r.bufferOffset + (mark - r.bufferOffset) = mark := by omega
    have hcount : stop - r.bufferOffset - (mark - r.bufferOffset) = stop - mark := by omega
    rw [hnothing, hsum, hcount, List.take_zero, List.nil_append]
  · have hnothing : mark - r.bufferOffset = 0 := by omega
    have hcount : stop - mark = (r.bufferOffset - mark) + (stop - r.bufferOffset) := by omega
    have hsum : mark + (r.bufferOffset - mark) = r.bufferOffset := by omega
    rw [hnothing, hcount, List.take_add, List.drop_drop, hsum]
    rfl

/-- Readers that keep the same token at the same place. -/
def SameCapture (r other : Reader) : Prop :=
  other.captureStart = r.captureStart ∧ other.captureParts = r.captureParts ∧
    other.bufferOffset = r.bufferOffset

theorem Captures.congr {mark : Option Nat} {other : Reader} (h : r.Captures text mark)
    (hsame : r.SameCapture other) : other.Captures text mark := by
  obtain ⟨hstart, hparts, hoffset⟩ := hsame
  cases mark with
  | none => exact ⟨hstart.trans h.1, hparts.trans h.2⟩
  | some mark => exact ⟨by rw [hstart, hoffset, h.1], by rw [hparts, hoffset, h.2]⟩

theorem sameCapture_load (r : Reader) : r.SameCapture r.load := by
  unfold Reader.load
  split
  · split <;> exact ⟨rfl, rfl, rfl⟩
  · exact ⟨rfl, rfl, rfl⟩

theorem sameCapture_settle_refill (r : Reader) :
    r.leaveChunk.SameCapture (r.refill.1.settle r.refill.2) := by
  unfold refill
  cases r.source.next.1 with
  | failure cause => exact ⟨rfl, rfl, rfl⟩
  | text cs =>
      cases cs with
      | nil => exact ⟨rfl, rfl, rfl⟩
      | cons c cs => exact sameCapture_load _

theorem Captures.leaveChunk {mark : Option Nat} (h : r.Captures text mark) (hr : r.Buffered text)
    (hmark : ∀ start ∈ mark, start ≤ r.bufferOffset + r.buffer.size) :
    r.leaveChunk.Captures text mark := by
  cases mark with
  | none =>
      have hstart : r.captureStart = none := h.1
      have hleave : r.leaveChunk = { r with bufferOffset := r.bufferOffset + r.fill } := by
        simp [Reader.leaveChunk, hstart]
      rw [hleave]
      exact h
  | some mark =>
      have hle : mark ≤ r.bufferOffset + r.buffer.size := hmark mark rfl
      have hstart : r.captureStart = some ((mark - r.bufferOffset : Nat) : Int) := h.1
      have htoken := h.upTo hr hle (Nat.le_add_right _ _) (Nat.le_refl _)
      rw [hstart, Option.getD_some, Nat.add_sub_cancel_left] at htoken
      have hleave : r.leaveChunk = { r with
          bufferOffset := r.bufferOffset + r.buffer.size
          captureParts := r.captureParts ++
            [r.slice ((mark - r.bufferOffset : Nat) : Int) r.buffer.size]
          captureStart := some 0 } := by
        simp [Reader.leaveChunk, hstart, fill]
      rw [hleave]
      refine ⟨?_, ?_⟩
      · simp [Nat.sub_eq_zero_of_le hle]
      · simpa using htoken

/-- Loading goes on with the capture, also over the border of two chunks. -/
theorem Captures.advance {mark : Option Nat} (h : r.Captures text mark) (hr : r.Buffered text)
    (hmark : ∀ start ∈ mark, start ≤ r.bufferOffset + r.buffer.size) :
    r.advance.1.Captures text mark := by
  unfold Reader.advance
  by_cases hexhausted : r.exhausted = true
  · rw [if_pos hexhausted]
    exact h
  · rw [if_neg hexhausted]
    by_cases hindex : r.index < r.buffer.size
    · rw [if_pos hindex]
      exact h.congr (sameCapture_load r)
    · rw [if_neg hindex]
      exact (h.leaveChunk hr hmark).congr (sameCapture_settle_refill r)

theorem At.bufferOffset_le (h : r.At text ending offset) : r.bufferOffset ≤ offset := by
  rcases h with ⟨hloaded, hindex⟩ | ⟨hend, _, hspent⟩
  · have hposition := hloaded.position
    omega
  · exact Nat.le_of_eq (hspent.bufferOffset.trans hend.symm)

theorem At.le_buffer (h : r.At text ending offset) :
    offset ≤ r.bufferOffset + r.buffer.size := by
  rcases h with ⟨hloaded, _⟩ | ⟨hend, _, hspent⟩
  · have hposition := hloaded.position
    have hindex := hloaded.index_le
    omega
  · have hoffset := hspent.bufferOffset
    omega

theorem At.le_length (h : r.At text ending offset) : offset ≤ text.length := by
  rcases h with ⟨hloaded, _⟩ | ⟨hend, _, _⟩
  · exact Nat.le_of_succ_le hloaded.le_length
  · exact Nat.le_of_eq hend

theorem Captures.startCapture (h : r.Captures text none) (hr : r.At text ending offset) :
    r.startCapture.Captures text (some offset) := by
  have hposition := hr.position
  have hfirst := hr.bufferOffset_le
  refine ⟨?_, ?_⟩
  · simp only [Reader.startCapture, Option.some.injEq]
    omega
  · simp [Reader.startCapture, h.2, Nat.sub_eq_zero_of_le hfirst]

theorem captures_none_endCapture (text : List Char) (r : Reader) :
    r.endCapture.2.Captures text none := ⟨rfl, rfl⟩

/-- A captured token is the text from its mark to the lookahead. -/
theorem Captures.endCapture {mark : Nat} (h : r.Captures text (some mark))
    (hr : r.At text ending offset) (hmark : mark ≤ offset) :
    r.endCapture.1 = (text.drop mark).take (offset - mark) := by
  have hposition := hr.position
  have hfirst := hr.bufferOffset_le
  have hindex : r.currentIndex = ((offset - r.bufferOffset : Nat) : Int) := by omega
  rw [Reader.endCapture, hindex]
  exact h.upTo hr.buffered hmark hfirst hr.le_buffer

/-- Where a reader stands does not depend on the token that it keeps. -/
theorem At.withCapture (h : r.At text ending offset) (start : Option Int)
    (parts : List (List Char)) :
    At text ending offset { r with captureStart := start, captureParts := parts } := by
  rcases h with ⟨hloaded, hindex⟩ | ⟨hend, hnone, hspent⟩
  · exact Or.inl ⟨{ hloaded with }, hindex⟩
  · exact Or.inr ⟨hend, hnone, { hspent with }⟩

theorem At.startCapture (h : r.At text ending offset) : r.startCapture.At text ending offset :=
  h.withCapture _ _

theorem At.endCapture (h : r.At text ending offset) : r.endCapture.2.At text ending offset :=
  h.withCapture _ _

end Reader

end PlotStream
