import PlotStream.Location
import PlotStream.Source
import PlotStream.Text.Blank

/-!
A reader with one character of lookahead. It keeps one chunk of the text at a time and asks its
source for the next chunk when every character of the present one has been loaded.

A token can be captured while reading: the capture starts at the lookahead and ends before the
lookahead of a later moment. When the chunk is replaced during a capture, the part of the token
in the old chunk is set aside first and the capture goes on at the start of the new chunk.

Line and column are kept up to date while loading: a line feed opens a new line only when a
character after it is loaded, so a final line feed opens none.
-/

namespace PlotStream

structure Reader where
  source : Source
  /-- How many characters are asked for at each request. -/
  bufferSize : Nat
  /-- How many characters each request so far has asked for, the latest one first. -/
  asked : List Nat := []
  buffer : Array Char := #[]
  /-- Offset of the first character of the buffer in the whole text. -/
  bufferOffset : Nat := 0
  /-- Index in the buffer of the next character to load. -/
  index : Nat := 0
  line : Nat := 1
  /-- Offset of the first character of the present line. -/
  lineOffset : Nat := 0
  /-- The lookahead. -/
  current : Option Char := none
  /-- Whether the source has told that the text is over. -/
  exhausted : Bool := false
  /-- Index in the buffer where the captured token begins, if there is a capture. -/
  captureStart : Option Int := none
  /-- Parts of the captured token that were in earlier chunks. -/
  captureParts : List (List Char) := []
  deriving Repr

/-- What a request to the source brought. -/
inductive Intake where
  /-- A chunk of `size` characters, the first of them at `offset`. -/
  | chunk (size offset : Nat)
  /-- The end of the text, at `offset`. -/
  | ended (offset : Nat)
  | failed (cause : ReadFailure)
  deriving Repr, DecidableEq

def Intake.isChunk : Intake → Bool
  | .chunk _ _ => true
  | .ended _ => false
  | .failed _ => false

/-- The failure of a request, if it failed. -/
def Intake.failure? : Intake → Option ReadFailure
  | .chunk _ _ => none
  | .ended _ => none
  | .failed cause => some cause

namespace Reader

/-- How many requests have been made. -/
def requests (r : Reader) : Nat := r.asked.length

def fill (r : Reader) : Nat := r.buffer.size

/-- Index of the lookahead in the buffer. It is `-1` before the first character of a chunk is
loaded, and the end of the empty buffer once the text is over. -/
def currentIndex (r : Reader) : Int :=
  if r.exhausted then r.index else r.index - 1

/-- The lookahead, or nothing once the text is over. -/
def lookahead (r : Reader) : Option Char :=
  if r.exhausted then none else r.current

/-- The characters of the buffer between two positions. -/
def slice (r : Reader) (start stop : Int) : List Char :=
  (r.buffer.extract (Text.clampPosition r.fill start) (Text.clampPosition r.fill stop)).toList

/-- Where the lookahead stands in the text. -/
def location (r : Reader) : Location :=
  let offset := r.bufferOffset + r.currentIndex
  ⟨offset, r.line, offset - r.lineOffset + 1⟩

/-- Leave the present chunk behind: its share of a captured token is set aside, the capture goes
on at the start of the next chunk, and offsets move past the chunk. -/
def leaveChunk (r : Reader) : Reader :=
  match r.captureStart with
  | none => { r with bufferOffset := r.bufferOffset + r.fill }
  | some start =>
    { r with
      bufferOffset := r.bufferOffset + r.fill
      captureParts := r.captureParts ++ [r.slice start r.fill]
      captureStart := some 0 }

/-- Take the reply to a request. A failure leaves the chunk in place. -/
def receive (r : Reader) : Reply → Reader × Intake
  | .failure cause => (r, .failed cause)
  | .text [] => ({ r with buffer := #[], index := 0, exhausted := true }, .ended r.bufferOffset)
  | .text (c :: cs) =>
    ({ r with buffer := (c :: cs).toArray, index := 0 }, .chunk (c :: cs).length r.bufferOffset)

/-- Replace the chunk by the next one of the source, which is asked for as many characters as the
buffer takes. -/
def refill (r : Reader) : Reader × Intake :=
  { r.leaveChunk with source := r.source.next.2, asked := r.bufferSize :: r.asked }.receive
    r.source.next.1

/-- Make the next character of the buffer the lookahead. -/
def load (r : Reader) : Reader :=
  if h : r.index < r.buffer.size then
    let placed :=
      if r.current = some '\n' then
        { r with line := r.line + 1, lineOffset := r.bufferOffset + r.index }
      else r
    { placed with current := some r.buffer[r.index], index := r.index + 1 }
  else r

/-- Set the lookahead after a refill: to the first character of a new chunk, or to nothing at
the end of the text. -/
def settle (r : Reader) : Intake → Reader
  | .chunk _ _ => r.load
  | .ended _ => { r with current := none }
  | .failed _ => r

/-- Move the lookahead to the next character of the text, with a request to the source if the
buffer has been used up. Nothing moves once the text is over. -/
def advance (r : Reader) : Reader × Option Intake :=
  if r.exhausted then (r, none)
  else if r.index < r.buffer.size then (r.load, none)
  else (r.refill.1.settle r.refill.2, some r.refill.2)

/-- Begin a token at the lookahead. -/
def startCapture (r : Reader) : Reader :=
  { r with captureStart := some r.currentIndex }

/-- End the token before the lookahead. Without a capture under way the token is taken from the
start of the buffer. -/
def endCapture (r : Reader) : List Char × Reader :=
  (r.captureParts.flatten ++ r.slice (r.captureStart.getD 0) r.currentIndex,
    { r with captureStart := none, captureParts := [] })

def atBlank (r : Reader) : Bool :=
  r.current.any Text.isBlank

/-- A bound on the characters that can still be loaded, one more while the end has not been
met. -/
def unread (r : Reader) : Nat :=
  (r.buffer.size - r.index) + r.source.weight + (if r.exhausted then 0 else 1)

@[simp]
theorem unread_startCapture (r : Reader) : r.startCapture.unread = r.unread := rfl

@[simp]
theorem unread_endCapture (r : Reader) : r.endCapture.2.unread = r.unread := rfl

theorem unread_load_lt {r : Reader} (h : r.index < r.buffer.size) :
    r.load.unread < r.unread := by
  unfold load
  split
  · simp only [unread]
    split <;> simp <;> omega
  · contradiction

@[simp]
theorem leaveChunk_exhausted (r : Reader) : r.leaveChunk.exhausted = r.exhausted := by
  unfold leaveChunk
  split <;> rfl

/-- As long as the text is not over, a request that does not fail brings the end closer. -/
theorem unread_advance_lt {r : Reader} (hr : r.exhausted = false)
    (h : r.advance.2.bind Intake.failure? = none) : r.advance.1.unread < r.unread := by
  unfold advance at h ⊢
  simp only [hr, Bool.false_eq_true, if_false] at h ⊢
  split
  next hlt => exact unread_load_lt hlt
  next hlt =>
    simp only [hlt, if_false] at h
    unfold refill at h ⊢
    cases hreply : r.source.next.1 with
    | failure cause =>
      simp [hreply, receive, Intake.failure?] at h
    | text cs =>
      cases cs with
      | nil =>
        have hw := Source.weight_next_le r.source
        simp only [receive, settle, unread, hr]
        simp
        omega
      | cons c cs =>
        have hw := Source.weight_next_lt _ hreply
        refine Nat.lt_trans (unread_load_lt (by simp [receive])) ?_
        simp [receive, unread] at hw ⊢
        omega

end Reader

end PlotStream
