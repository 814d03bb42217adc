import PlotStream.Encoding.Failure
import PlotStream.Text.Span

/-!
Where characters come from. A reader asks its source again and again for the same number of
characters, so a source is known by the finitely many replies it will give. An empty text is the
sign that there is nothing more to read.
-/

namespace PlotStream

inductive ReadFailure where
  /-- The device behind the source reports trouble of its own. -/
  | device (message : String)
  /-- More was asked for at once than a position can count. -/
  | oversizedRequest
  /-- A block for all that was asked for would be too large to be counted with its head. -/
  | oversizedBlock
  /-- There is no room for a block of the size asked for. -/
  | noRoom
  /-- The bytes read do not decode. -/
  | undecodable (failure : Encoding.Failure)
  /-- A stream in units of `bits` bits does not begin with a byte order mark. -/
  | missingMark (bits : Nat)
  deriving Repr, DecidableEq

def ReadFailure.message : ReadFailure → String
  | .device message => message
  | .oversizedRequest => "cannot fit 'int' into an index-sized integer"
  | .oversizedBlock => "byte string is too large"
  | .noRoom => ""
  | .undecodable failure => failure.message
  | .missingMark bits => "UTF-" ++ toString bits ++ " stream does not start with BOM"

inductive Reply where
  | text (cs : List Char)
  | failure (cause : ReadFailure)
  deriving Repr, DecidableEq

def Reply.chars : Reply → List Char
  | .text cs => cs
  | .failure _ => []

/-- The replies still to come, in order. After them the text has ended, or, with a `fault`,
every request fails. -/
structure Source where
  pending : List Reply
  fault : Option ReadFailure := none
  deriving Repr, DecidableEq

/-- Ask the source once. -/
def Source.next (s : Source) : Reply × Source :=
  match s.pending, s.fault with
  | reply :: rest, _ => (reply, { s with pending := rest })
  | [], none => (.text [], s)
  | [], some cause => (.failure cause, s)

/-- Every character the source still has to give. -/
def Source.text (s : Source) : List Char :=
  s.pending.flatMap Reply.chars

/-- A bound on what the source can still give: its characters and its pending replies. -/
def Source.weight (s : Source) : Nat :=
  s.text.length + s.pending.length

/-- The greatest number of characters or bytes that may be asked for at once. -/
def maxRequest : Nat := Nat.pow 2 63 - 1

/-- Why a request for `size` characters or bytes is refused whatever there is to read. -/
def refusalOfSize (size : Nat) : Option ReadFailure :=
  if maxRequest < size then some .oversizedRequest else none

/-- A source that gives `replies`, unless it refuses every request. -/
def Source.ofReplies (refusal : Option ReadFailure) (replies : List Reply) : Source where
  pending := if refusal.isSome then [] else replies
  fault := refusal

/-- A text held in memory: `size` characters at a time. -/
def Source.ofText (size : Nat) (cs : List Char) : Source :=
  .ofReplies (refusalOfSize size) ((Text.pieces size cs).map .text)

/-- A text that is handed out at most `limit` characters at a time. A limit of zero gives
nothing at all. -/
def Source.ofLimited (size limit : Nat) (cs : List Char) : Source :=
  if limit = 0 then { pending := [] }
  else { pending := (Text.pieces (min size limit) cs).map .text }

/-- Replies fixed in advance, whatever is asked for. -/
def Source.ofChunks (replies : List Reply) : Source :=
  { pending := replies }

/-- Asking never makes the source heavier. -/
theorem Source.weight_next_le (s : Source) : s.next.2.weight ≤ s.weight := by
  obtain ⟨pending, fault⟩ := s
  cases pending with
  | nil => cases fault <;> simp [Source.next]
  | cons reply rest =>
    simp only [Source.next, Source.weight, Source.text, List.flatMap_cons, List.length_append,
      List.length_cons]
    omega

/-- A reply that brings characters makes the source lighter by more than these characters. -/
theorem Source.weight_next_lt (s : Source) {c : Char} {cs : List Char}
    (h : s.next.1 = .text (c :: cs)) : s.next.2.weight + (c :: cs).length < s.weight := by
  obtain ⟨pending, fault⟩ := s
  cases pending with
  | nil => cases fault <;> simp [Source.next] at h
  | cons reply rest =>
    obtain rfl : reply = .text (c :: cs) := h
    simp only [Source.next, Source.weight, Source.text, Reply.chars, List.flatMap_cons,
      List.length_append, List.length_cons]
    omega

end PlotStream
