import PlotStream.Notice
import PlotStream.Proofs.Numerals
import PlotStream.Proofs.Place
import PlotStream.Text.Blank

/-!
The grammar of plot texts as data. A `Drawing` is a text of the grammar together with the way it
is built from sentences; parts that would not be well formed cannot be made. What a drawing means
is told by its sentences in order. Nothing here refers to the machine.
-/

namespace PlotStream

/-- A run of blanks. -/
structure Gap where
  text : List Char
  blank : ∀ c ∈ text, Text.isBlank c = true

namespace Gap

def empty : Gap where
  text := []
  blank := by simp

def snoc (gap : Gap) (c : Char) (hc : Text.isBlank c = true) : Gap where
  text := gap.text ++ [c]
  blank := by
    intro b hb
    rcases List.mem_append.mp hb with hmem | hlast
    · exact gap.blank b hmem
    · obtain rfl := List.mem_singleton.mp hlast
      exact hc

end Gap

/-- The commands without arguments. -/
inductive Verb where
  | init
  | penDown
  | penUp

namespace Verb

def code : Verb → List Char
  | .init => ['I', 'N']
  | .penDown => ['P', 'D']
  | .penUp => ['P', 'U']

def command : Verb → Command
  | .init => .init
  | .penDown => .penDown
  | .penUp => .penUp

end Verb

/-- The codes of the operations that are carried out. -/
def supportedCodes : List (List Char) :=
  [['P', 'A'], ['P', 'D'], ['P', 'U'], ['I', 'N'], ['S', 'P']]

/-- A command that is not carried out. The second character of its code may be anything. -/
structure Foreign where
  first : Char
  second : Char
  body : List Char
  visible : Text.isBlank first = false
  unknown : [first, second] ∉ supportedCodes
  unclosed : ';' ∉ body

def Foreign.code (foreign : Foreign) : List Char := [foreign.first, foreign.second]

/-- A command with its terminator. -/
inductive Sentence where
  | plain (verb : Verb) (gap : Gap)
  | resetPen (gap : Gap)
  | selectPen (before : Gap) (pen : Number) (after : Gap)
  | plotAbsolute (before : Gap) (x : Number) (between behind : Gap) (y : Number) (after : Gap)
  | foreign (other : Foreign)

namespace Sentence

def text : Sentence → List Char
  | .plain verb gap => verb.code ++ gap.text ++ [';']
  | .resetPen gap => ['S', 'P'] ++ gap.text ++ [';']
  | .selectPen before pen after => ['S', 'P'] ++ before.text ++ pen.text ++ after.text ++ [';']
  | .plotAbsolute before x between behind y after =>
    ['P', 'A'] ++ before.text ++ x.text ++ between.text ++ [','] ++ behind.text ++ y.text ++
      after.text ++ [';']
  | .foreign other => other.code ++ other.body ++ [';']

/-- The command that a sentence gives, or what there is to say of it instead. -/
def meaning : Sentence → Except Diagnostic Command
  | .plain verb _ => .ok verb.command
  | .resetPen _ => .ok .resetPen
  | .selectPen _ pen _ => .ok (.selectPen pen.value)
  | .plotAbsolute _ x _ _ y _ => .ok (.plotAbsolute x.value y.value)
  | .foreign other => .error (.unsupported other.code)

/-- What there is to say of a sentence that gives no command. -/
def remark? (sentence : Sentence) : Option Diagnostic :=
  match sentence.meaning with
  | .ok _ => none
  | .error d => some d

/-- What is told of a sentence at an offset of the text. A command is told behind its terminator,
a diagnostic is about the start of the sentence. -/
def notice (text : List Char) (offset : Nat) (sentence : Sentence) : Notice :=
  match sentence.meaning with
  | .ok c => .command c (.ofOffset text (offset + sentence.text.length))
  | .error d => .diagnostic d (.ofOffset text offset)

/-- The text of sentences with the blanks in front of each. -/
def textOf (sentences : List (Gap × Sentence)) : List Char :=
  sentences.flatMap fun entry => entry.1.text ++ entry.2.text

/-- What is told of sentences that begin at an offset. -/
def toldFrom (text : List Char) : Nat → List (Gap × Sentence) → List Notice
  | _, [] => []
  | offset, (gap, sentence) :: more =>
    sentence.notice text (offset + gap.text.length) ::
      toldFrom text (offset + gap.text.length + sentence.text.length) more

theorem toldFrom_append (text : List Char) (offset : Nat)
    (sentences more : List (Gap × Sentence)) :
    toldFrom text offset (sentences ++ more) =
      toldFrom text offset sentences ++
        toldFrom text (offset + (textOf sentences).length) more := by
  induction sentences generalizing offset with
  | nil => simp [toldFrom, textOf]
  | cons entry rest ih =>
      obtain ⟨gap, sentence⟩ := entry
      simp only [List.cons_append, toldFrom, ih, textOf, List.flatMap_cons, List.length_append,
        Nat.add_assoc]

/-- What is told depends on the text only as far as the sentences and one character more. -/
theorem toldFrom_congr {text other : List Char} {limit : Nat}
    (h : Text.SameThrough limit text other) {offset : Nat} {sentences : List (Gap × Sentence)}
    (hle : offset + (textOf sentences).length ≤ limit) :
    toldFrom text offset sentences = toldFrom other offset sentences := by
  induction sentences generalizing offset with
  | nil => rfl
  | cons entry more ih =>
      obtain ⟨gap, sentence⟩ := entry
      have hlength : (textOf ((gap, sentence) :: more)).length =
          gap.text.length + sentence.text.length + (textOf more).length := by
        simp [textOf, Nat.add_assoc]
      rw [hlength] at hle
      have hbehind : Text.SameThrough (offset + gap.text.length + sentence.text.length) text other :=
        h.mono (by omega)
      have hstart : Text.SameThrough (offset + gap.text.length) text other := h.mono (by omega)
      rw [toldFrom, toldFrom, ih (by omega)]
      simp only [notice, hbehind.place_eq, hstart.place_eq]

/-- What is read off an account without regard to places depends on the sentences only. -/
theorem filterMap_toldFrom {α : Type} (text : List Char) (offset : Nat)
    (sentences : List (Gap × Sentence)) (f : Notice → Option α) (g : Sentence → Option α)
    (h : ∀ (sentence : Sentence) offset, f (sentence.notice text offset) = g sentence) :
    (toldFrom text offset sentences).filterMap f = sentences.filterMap fun entry => g entry.2 := by
  induction sentences generalizing offset with
  | nil => rfl
  | cons entry more ih =>
      obtain ⟨gap, sentence⟩ := entry
      rw [toldFrom, List.filterMap_cons, List.filterMap_cons, h, ih]

end Sentence

/-- A text of the grammar. What stands before the first `IN` is no part of the drawing. -/
structure Drawing where
  preamble : List Char
  /-- Even with the letter that follows, no earlier `IN` can be seen. -/
  first : ¬ ['I', 'N'] <:+: preamble ++ ['I']
  opening : Gap
  sentences : List (Gap × Sentence)
  closing : Gap

namespace Drawing

/-- The text up to the terminator of the first command. -/
def head (d : Drawing) : List Char :=
  d.preamble ++ ['I', 'N'] ++ d.opening.text ++ [';']

def text (d : Drawing) : List Char :=
  d.head ++ Sentence.textOf d.sentences ++ d.closing.text

/-- What is told of a drawing that a text begins with. -/
def toldIn (text : List Char) (d : Drawing) : List Notice :=
  .command .init (.ofOffset text d.head.length) ::
    Sentence.toldFrom text d.head.length d.sentences

def widen (d : Drawing) (c : Char) (hc : Text.isBlank c = true) : Drawing :=
  { d with closing := d.closing.snoc c hc }

def push (d : Drawing) (sentence : Sentence) : Drawing :=
  { d with sentences := d.sentences ++ [(d.closing, sentence)], closing := .empty }

theorem length_text (d : Drawing) :
    d.text.length =
      d.head.length + (Sentence.textOf d.sentences).length + d.closing.text.length := by
  simp only [Drawing.text, List.length_append]

theorem text_widen (d : Drawing) (c : Char) (hc : Text.isBlank c = true) :
    (d.widen c hc).text = d.text ++ [c] := by
  simp [text, widen, head, Gap.snoc]

theorem text_push (d : Drawing) (sentence : Sentence) :
    (d.push sentence).text = d.text ++ sentence.text := by
  simp [text, push, head, Gap.empty, Sentence.textOf]

theorem toldIn_push (text : List Char) (d : Drawing) (sentence : Sentence) :
    (d.push sentence).toldIn text = d.toldIn text ++ [sentence.notice text d.text.length] := by
  rw [d.length_text]
  simp [toldIn, push, head, Sentence.toldFrom_append, Sentence.toldFrom]

theorem toldIn_congr {text other : List Char} (d : Drawing)
    (h : Text.SameThrough d.text.length text other) : d.toldIn text = d.toldIn other := by
  have hlength := d.length_text
  have hhead : Text.SameThrough d.head.length text other := h.mono (by omega)
  rw [toldIn, toldIn, hhead.place_eq, Sentence.toldFrom_congr h (by omega)]

/-- The commands of a drawing are the first one and those of its sentences. -/
theorem commands_toldIn (text : List Char) (d : Drawing) :
    (Notice.commands (d.toldIn text)).map Prod.fst =
      .init :: d.sentences.filterMap fun entry => entry.2.meaning.toOption := by
  have hsentences := Sentence.filterMap_toldFrom text d.head.length d.sentences
    (fun notice => (Notice.commands [notice]).head?.map Prod.fst)
    (fun sentence => sentence.meaning.toOption) fun sentence offset => by
      rw [Sentence.notice]
      cases sentence.meaning <;> rfl
  rw [toldIn, Notice.commands, List.map_filterMap, ← hsentences]
  refine congrArg (Command.init :: ·) (congrArg (List.filterMap · _) ?_)
  funext notice
  cases notice <;> rfl

/-- The diagnostics of a drawing are those of its sentences. -/
theorem diagnostics_toldIn (text : List Char) (d : Drawing) :
    (Notice.diagnostics (d.toldIn text)).map Prod.fst =
      d.sentences.filterMap fun entry => entry.2.remark? := by
  have hsentences := Sentence.filterMap_toldFrom text d.head.length d.sentences
    (fun notice => (Notice.diagnostics [notice]).head?.map Prod.fst) Sentence.remark?
    fun sentence offset => by
      rw [Sentence.notice, Sentence.remark?]
      cases sentence.meaning <;> rfl
  rw [toldIn, Notice.diagnostics, List.map_filterMap, ← hsentences]
  refine congrArg (List.filterMap · (Sentence.toldFrom text d.head.length d.sentences)) ?_
  funext notice
  cases notice <;> rfl

end Drawing

end PlotStream
