import PlotStream.Proofs.Locations
import PlotStream.Proofs.Progress

/-!
The reading of one integer against the integers as they are written. `Machine.readInteger` makes
the steps that read an integer and no others; a run that comes to an integer makes just these. The
steps are the same in the scan that the machine follows, where they can be counted: one for each
character, and none that looks further than one digit too many.
-/

namespace PlotStream

/-- How far a step is from the end of the parse. -/
def Step.effort : Step → Nat
  | .moved next _ => next.effort + 1
  | _ => 0

/-- Go on as long as an integer is being read. -/
def Step.throughInteger (step : Step) : Step :=
  match step with
  | .moved next notice =>
    if next.phase.inInteger then next.step.throughInteger else .moved next notice
  | .finished last => .finished last
  | .failed last fault => .failed last fault
termination_by step.effort
decreasing_by
  cases hstep : next.step with
  | moved further told => exact Nat.succ_lt_succ (Machine.effort_step_lt hstep)
  | finished last => exact Nat.succ_pos _
  | failed last fault => exact Nat.succ_pos _

namespace Machine

/-- Read an integer that begins at the lookahead. -/
def readInteger (m : Machine) (slot : Slot) : Step :=
  (afterBlanks { m with phase := .blanks (.integer slot) } (.integer slot)).throughInteger

theorem throughInteger_steps (m : Machine) :
    ∃ m', m.Reaches m' ∧ m.step.throughInteger = m'.step := by
  induction heffort : m.effort using Nat.strongRecOn generalizing m with
  | ind effort ih =>
      cases hstep : m.step with
      | finished last => exact ⟨m, .refl, by rw [Step.throughInteger, hstep]⟩
      | failed last fault => exact ⟨m, .refl, by rw [Step.throughInteger, hstep]⟩
      | moved next notice =>
          rw [Step.throughInteger]
          split
          · obtain ⟨m', hreaches, hmore⟩ := ih _ (heffort ▸ effort_step_lt hstep) next rfl
            exact ⟨m', .head ⟨notice, hstep⟩ hreaches, hmore⟩
          · exact ⟨m, .refl, hstep.symm⟩

/-- A machine that has come to an integer reads it by steps of its own. -/
theorem readInteger_steps {m : Machine} {slot : Slot} (hphase : m.phase = .blanks (.integer slot))
    (hvisible : m.reader.lookahead.any Text.isBlank = false) :
    ∃ m', m.Reaches m' ∧ m.readInteger slot = m'.step := by
  have hstep :
      afterBlanks { m with phase := .blanks (.integer slot) } (.integer slot) = m.step := by
    obtain ⟨reader, phase, count, opcode, opcodePlace⟩ := m
    obtain rfl : phase = .blanks (.integer slot) := hphase
    simp only [step, hvisible]
    rfl
  rw [readInteger, hstep]
  exact m.throughInteger_steps

end Machine

/-- An integer has been read, and the parse goes on with the character at the offset. No token is
being captured any more. -/
def Step.Reads (text : List Char) (slot : Slot) (v : Int) (offset : Nat) (step : Step) : Prop :=
  ∃ next notice, step = .moved next notice ∧
    next.phase = .blanks (Machine.afterInteger slot v) ∧
    next.reader.At text none offset ∧ next.reader.lookahead = text[offset]? ∧
    next.reader.captureStart = none

/-- The parse ends with a complaint; the lookahead is the character at the offset. -/
def Step.Refuses (text : List Char) (complaint : Complaint) (offset : Nat) (step : Step) : Prop :=
  ∃ last violation, step = .failed last (.violation violation) ∧
    violation.complaint = complaint ∧ last.reader.At text none offset

namespace Literal

/-- A sign that is not written is not a minus sign among the digits. -/
theorem sign_apart (lit : Literal) {rest : List Char} :
    lit.negative = false → (lit.digits ++ rest).head? ≠ some '-' := by
  intro _ hminus
  obtain ⟨c, more, hdigits⟩ := List.exists_cons_of_ne_nil lit.nonempty
  have hdecimal := lit.decimal c (by simp [hdigits])
  rw [hdigits] at hminus
  exact Numeral.ne_minus hdecimal (Option.some.inj hminus)

/-- Nothing longer that the text begins with is a literal. -/
structure Longest (lit : Literal) (text : List Char) : Prop where
  begins : lit.text <+: text
  longest : ∀ other : Literal, other.text <+: text → other.text.length ≤ lit.text.length

/-- A text that begins with a literal has a longest one. -/
theorem exists_longest {lit : Literal} {text : List Char} (h : lit.text <+: text) :
    ∃ longest : Literal, longest.Longest text := by
  induction hshort : text.length - lit.text.length using Nat.strongRecOn generalizing lit with
  | ind short ih =>
      by_cases hmore : ∃ other : Literal, other.text <+: text ∧ lit.text.length < other.text.length
      · obtain ⟨other, hother, hlonger⟩ := hmore
        have hle := hother.length_le
        exact ih _ (by omega) hother rfl
      · refine ⟨lit, h, ?_⟩
        intro other hother
        exact Nat.not_lt.mp fun hlonger => hmore ⟨other, hother, hlonger⟩

/-- A literal with another digit behind it, unless it is a zero. -/
def snoc (lit : Literal) (c : Char) (hc : Numeral.isDigit c = true) (hzero : lit.digits ≠ ['0']) :
    Literal where
  negative := lit.negative
  digits := lit.digits ++ [c]
  decimal := by
    intro d hd
    rcases List.mem_append.mp hd with hmem | hlast
    · exact lit.decimal d hmem
    · rw [List.mem_singleton.mp hlast]
      exact hc
  nonempty := by simp
  canonical := by
    intro hhead
    obtain ⟨d, more, hdigits, hd⟩ := lit.exists_nonzero hzero
    rw [hdigits] at hhead
    exact absurd (Option.some.inj hhead) hd

/-- Behind the longest literal there is no digit that could be taken in. -/
theorem Longest.ends {lit : Literal} {rest : List Char} (h : lit.Longest (lit.text ++ rest)) :
    lit.digits = ['0'] ∨ rest.head?.any Numeral.isDigit = false := by
  by_contra hmore
  obtain ⟨hzero, hdigit⟩ := not_or.mp hmore
  cases rest with
  | nil => exact hdigit rfl
  | cons c behind =>
      have hc : Numeral.isDigit c = true := by simpa using hdigit
      have hlonger : (lit.snoc c hc hzero).text = lit.text ++ [c] := by
        simp [text, snoc]
      have hprefix : (lit.snoc c hc hzero).text <+: lit.text ++ c :: behind :=
        ⟨behind, by simp [hlonger]⟩
      have hle := h.longest _ hprefix
      rw [hlonger, List.length_append, List.length_singleton] at hle
      omega

/-- A single digit. -/
def digit (negative : Bool) (c : Char) (hc : Numeral.isDigit c = true) : Literal where
  negative
  digits := [c]
  decimal := by
    intro d hd
    rw [List.mem_singleton.mp hd]
    exact hc
  nonempty := by simp
  canonical := by simp

end Literal

/-- A text that does not begin with an integer does not begin with a digit, nor does it when a minus
sign in front is taken away. -/
theorem Literal.exists_sign_of_none {text : List Char}
    (h : ∀ lit : Literal, ¬lit.text <+: text) :
    ∃ negative rest, text = sign negative ++ rest ∧
      (negative = false → rest.head? ≠ some '-') ∧
      (sign negative).length = (if text.head? = some '-' then 1 else 0) ∧
      rest.head?.any Numeral.isDigit = false := by
  have hnone (negative : Bool) {rest : List Char} (htext : text = sign negative ++ rest) :
      rest.head?.any Numeral.isDigit = false := by
    cases rest with
    | nil => rfl
    | cons c more =>
        by_contra hc
        have hdigit : Numeral.isDigit c = true := by simpa using hc
        refine h (digit negative c hdigit) ⟨more, ?_⟩
        simp [Literal.text, digit, htext]
  by_cases hminus : text.head? = some '-'
  · obtain ⟨rest, htext⟩ := List.head?_eq_some_iff.mp hminus
    refine ⟨true, rest, htext, by simp, ?_, hnone true htext⟩
    rw [if_pos hminus]
    rfl
  · refine ⟨false, text, rfl, fun _ => hminus, ?_, hnone false rfl⟩
    rw [if_neg hminus]
    rfl

/-- The longest literal at the offset decides, whatever its length and its value. -/
structure Step.DecidedByLiteral (text : List Char) (slot : Slot) (offset : Nat) (step : Step) :
    Prop where
  missing : (∀ lit : Literal, ¬lit.text <+: text.drop offset) →
    let stop := if (text.drop offset).head? = some '-' then offset + 1 else offset
    step.Refuses text ⟨"Expected digit", .ofOffset text stop⟩ stop
  inRange : ∀ lit : Literal, lit.Longest (text.drop offset) → lit.digits.length ≤ 10 → lit.Fits →
    step.Reads text slot lit.value (offset + lit.text.length)
  outOfRange : ∀ lit : Literal, lit.Longest (text.drop offset) → lit.digits.length ≤ 10 →
    ¬lit.Fits → step.Refuses text
      ⟨"Expected integer in [-2147483648, 2147483647], got " ++ String.ofList lit.text,
        .ofOffset text offset⟩
      (offset + lit.text.length)
  /-- One digit too many is read, and no more. -/
  tooLong : ∀ lit : Literal, lit.Longest (text.drop offset) → 10 < lit.digits.length →
    ¬lit.Fits ∧ step.Refuses text
      ⟨"Expected integer in [-2147483648, 2147483647]", .ofOffset text offset⟩
      (offset + (Literal.sign lit.negative).length + 11)

namespace Scan

variable {text read rest : List Char} {s : Scan} {slot : Slot} {place : Location}

/-- Of a literal that is too long one digit too many is read. -/
theorem reads_excess (lit : Literal) (h : s.Splits text read (lit.digits ++ rest))
    (hphase : s.phase = .leadingDigit slot place)
    (hlength : Numeral.maxDigits < lit.digits.length) :
    ∃ last, Relation.ReflTransGen (ReadsOn text) s last ∧
      last.phase = .digits slot place (Numeral.maxDigits + 1) ∧
      last.offset = read.length + (Numeral.maxDigits + 1) := by
  have hzero := lit.ne_zero_of_length (Nat.lt_trans (by decide) hlength)
  obtain ⟨c, more, hdigits, hc⟩ := lit.exists_nonzero hzero
  have hdecimal := lit.decimal
  rw [hdigits, List.length_cons] at hlength
  rw [hdigits] at h hdecimal
  have hfirst : (c :: more.take Numeral.maxDigits).length = Numeral.maxDigits + 1 := by
    rw [List.length_cons, List.length_take, Nat.min_eq_left (by omega)]
  have hsplits : s.Splits text read
      (c :: more.take Numeral.maxDigits ++ (more.drop Numeral.maxDigits ++ rest)) := by
    rw [List.cons_append, ← List.append_assoc, List.take_append_drop]
    exact h
  have hfew : ∀ d ∈ c :: more.take Numeral.maxDigits, Numeral.isDigit d = true := by
    intro d hd
    refine hdecimal d ?_
    rcases List.mem_cons.mp hd with rfl | hmore
    · exact List.mem_cons_self
    · exact List.mem_cons_of_mem _ (List.mem_of_mem_take hmore)
  obtain ⟨last, hpath, hlast, hbehind⟩ :=
    reads_many hsplits hphase hfew hc (Nat.le_of_eq hfirst)
  refine ⟨last, hpath, hfirst ▸ hlast, ?_⟩
  rw [hbehind.offset, List.length_append, hfirst]

/-- The sign, if any, of an integer. -/
theorem afterBlanks_sign {negative : Bool}
    (h : s.Splits text read (Literal.sign negative ++ rest))
    (hsign : negative = false → rest.head? ≠ some '-') :
    ∃ first, s.afterBlanks (s.view text) (.integer slot) = .moved first none ∧
      first.phase = .leadingDigit slot (.ofOffset text read.length) ∧
      first.Splits text (read ++ Literal.sign negative) rest := by
  cases negative with
  | true =>
      have hminus : s.Splits text read ('-' :: rest) := h
      rw [afterBlanks, hminus.lookahead, if_pos List.head?_cons, hminus.advance, hminus.place]
      exact ⟨_, rfl, rfl, hminus.next _⟩
  | false =>
      have hplain : s.Splits text read rest := h
      rw [afterBlanks, hplain.lookahead, if_neg (hsign rfl), hplain.place, Literal.sign,
        if_neg Bool.false_ne_true, List.append_nil]
      exact ⟨_, rfl, rfl, hplain.of_offset rfl⟩

end Scan

namespace Machine.Follows

variable {text : List Char} {s next last : Scan} {m : Machine}

/-- A machine reads on with its scan. -/
theorem throughInteger (h : m.Follows text none s)
    (hpath : Relation.ReflTransGen (Scan.ReadsOn text) s last) :
    ∃ m' : Machine, m'.Follows text none last ∧
      m.step.throughInteger = m'.step.throughInteger := by
  induction hpath using Relation.ReflTransGen.head_induction_on generalizing m with
  | refl => exact ⟨m, h, rfl⟩
  | head hreads _ ih =>
      obtain ⟨hmove, hin, _⟩ := hreads
      have hstep := h.step
      rw [hmove] at hstep
      generalize hmachine : m.step = step at hstep
      cases hstep with
      | broken hending _ _ _ => cases hending
      | @moved _ next' _ notice hnext _ =>
          obtain ⟨m', hlast, hmore⟩ := ih hnext
          refine ⟨m', hlast, ?_⟩
          rw [Step.throughInteger, hnext.phase, if_pos hin]
          exact hmore

theorem throughInteger_failed {violation : Violation} (h : m.Follows text none s)
    (hmove : s.step text = .failed violation) :
    m.step.throughInteger.Refuses text violation.complaint s.offset := by
  have hstep := h.step
  rw [hmove] at hstep
  generalize m.step = step at hstep
  cases hstep with
  | @failed last _ _ hreader =>
      exact ⟨last, violation, by rw [Step.throughInteger], rfl, hreader⟩

/-- With the literal behind it the machine takes its value, if that is in range. -/
theorem throughInteger_literal {read rest : List Char} {slot : Slot} (lit : Literal)
    (h : m.Follows text none s) (hphase : s.phase = .literal slot (.ofOffset text read.length))
    (hsplits : s.Splits text (read ++ lit.text) rest) :
    (lit.Fits →
      m.step.throughInteger.Reads text slot lit.value (read.length + lit.text.length)) ∧
    (¬lit.Fits →
      m.step.throughInteger.Refuses text
        ⟨(Expectation.integer lit.text).text, .ofOffset text read.length⟩
        (read.length + lit.text.length)) := by
  have hmove := hsplits.step_literal hphase
  have hoffset : s.offset = read.length + lit.text.length := by
    rw [hsplits.offset, List.length_append]
  rw [lit.value_text] at hmove
  constructor
  · intro hfits
    rw [if_pos (lit.inRange_iff.mpr hfits)] at hmove
    have hstep := h.step
    rw [hmove] at hstep
    generalize m.step = step at hstep
    cases hstep with
    | broken hending _ _ _ => cases hending
    | @moved _ next _ notice hnext _ =>
        have hat : next.reader.At text none (read.length + lit.text.length) :=
          hoffset ▸ hnext.reader
        have hcapture := hnext.capture
        refine ⟨next, notice, ?_, hnext.phase, hat, hat.lookahead, hcapture.1⟩
        rw [Step.throughInteger, hnext.phase]
        rfl
  · intro hfits
    rw [if_neg (fun hin => hfits (lit.inRange_iff.mp hin))] at hmove
    exact hoffset ▸ h.throughInteger_failed hmove

/-- Reading an integer begins with its sign. -/
theorem readInteger_sign {negative : Bool} {read rest : List Char} (slot : Slot)
    (h : m.Follows text none s) (hnone : s.phase.mark = none)
    (hsplits : s.Splits text read (Literal.sign negative ++ rest))
    (hsign : negative = false → rest.head? ≠ some '-') :
    ∃ (m' : Machine) (first : Scan), m'.Follows text none first ∧
      first.phase = .leadingDigit slot (.ofOffset text read.length) ∧
      first.Splits text (read ++ Literal.sign negative) rest ∧
      m.readInteger slot = m'.step.throughInteger := by
  have hstart : Machine.Follows text none { s with phase := .blanks (.integer slot) }
      { m with phase := .blanks (.integer slot) } := h.withPhase hnone.symm
  have hbehind : Scan.Splits text { s with phase := .blanks (.integer slot) } read
      (Literal.sign negative ++ rest) := hsplits.of_offset rfl
  obtain ⟨first, hmove, hphase, hfirst⟩ := Scan.afterBlanks_sign hbehind hsign
  have hstep := hstart.afterBlanks rfl
  rw [hmove] at hstep
  rw [readInteger]
  generalize Machine.afterBlanks _ _ = step at hstep
  cases hstep with
  | broken hending _ _ _ => cases hending
  | @moved _ m' _ _ hnext _ =>
      refine ⟨m', first, hnext, hphase, hfirst, ?_⟩
      rw [Step.throughInteger, hnext.phase, hphase]
      rfl

variable {read rest : List Char} (slot : Slot)

theorem readInteger_noDigit {negative : Bool} (h : m.Follows text none s)
    (hnone : s.phase.mark = none) (hsplits : s.Splits text read (Literal.sign negative ++ rest))
    (hsign : negative = false → rest.head? ≠ some '-')
    (hrest : rest.head?.any Numeral.isDigit = false) :
    let stop := read.length + (Literal.sign negative).length
    (m.readInteger slot).Refuses text ⟨"Expected digit", .ofOffset text stop⟩ stop := by
  intro stop
  obtain ⟨m', first, hfirst, hphase, hbehind, hread⟩ :=
    h.readInteger_sign slot hnone hsplits hsign
  have hstop : (read ++ Literal.sign negative).length = stop := List.length_append
  have hrefused := hfirst.throughInteger_failed (hbehind.step_noDigit hphase hrest)
  rw [hbehind.offset, hstop] at hrefused
  rw [hread]
  exact hrefused

theorem readInteger_literal (lit : Literal) (h : m.Follows text none s)
    (hnone : s.phase.mark = none) (hsplits : s.Splits text read (lit.text ++ rest))
    (hlength : lit.digits.length ≤ Numeral.maxDigits)
    (hend : lit.digits = ['0'] ∨ rest.head?.any Numeral.isDigit = false) :
    (lit.Fits → (m.readInteger slot).Reads text slot lit.value (read.length + lit.text.length)) ∧
    (¬lit.Fits →
      (m.readInteger slot).Refuses text
        ⟨(Expectation.integer lit.text).text, .ofOffset text read.length⟩
        (read.length + lit.text.length)) := by
  rw [Literal.text, List.append_assoc] at hsplits
  obtain ⟨m', first, hfirst, hphase, hbehind, hread⟩ :=
    h.readInteger_sign slot hnone hsplits lit.sign_apart
  obtain ⟨last, hpath, hlast, hover⟩ := Scan.reads_literal lit hbehind hphase hlength hend
  obtain ⟨m'', hfollows, hmore⟩ := hfirst.throughInteger hpath
  rw [List.append_assoc] at hover
  rw [hread, hmore]
  exact hfollows.throughInteger_literal lit hlast hover

theorem readInteger_excess (lit : Literal) (h : m.Follows text none s)
    (hnone : s.phase.mark = none) (hsplits : s.Splits text read (lit.text ++ rest))
    (hlength : Numeral.maxDigits < lit.digits.length) :
    (m.readInteger slot).Refuses text
      ⟨Expectation.shortInteger.text, .ofOffset text read.length⟩
      (read.length + (Literal.sign lit.negative).length + (Numeral.maxDigits + 1)) := by
  rw [Literal.text, List.append_assoc] at hsplits
  obtain ⟨m', first, hfirst, hphase, hbehind, hread⟩ :=
    h.readInteger_sign slot hnone hsplits lit.sign_apart
  obtain ⟨last, hpath, hlast, hoffset⟩ := Scan.reads_excess lit hbehind hphase hlength
  obtain ⟨m'', hfollows, hmore⟩ := hfirst.throughInteger hpath
  have hrefused :=
    hfollows.throughInteger_failed (Scan.step_tooLong hlast (Nat.lt_succ_self _))
  rw [hoffset, List.length_append] at hrefused
  rw [hread, hmore]
  exact hrefused

/-- The scan stands between the part of the text that has been read and the rest. -/
theorem splits (h : m.Follows text none s) :
    s.Splits text (text.take s.offset) (text.drop s.offset) ∧
      (text.take s.offset).length = s.offset := by
  have hle : s.offset ≤ text.length := h.reader.le_length
  have hlength : (text.take s.offset).length = s.offset := by
    rw [List.length_take, Nat.min_eq_left hle]
  exact ⟨⟨(List.take_append_drop _ _).symm, hlength.symm⟩, hlength⟩

/-- While no token is captured the phase has no mark. -/
theorem mark_eq_none (h : m.Follows text none s) (hcapture : m.reader.captureStart = none) :
    s.phase.mark = none := by
  have hcaptures := h.capture
  cases hmark : s.phase.mark with
  | none => rfl
  | some mark =>
      rw [hmark] at hcaptures
      exact absurd (hcapture.symm.trans hcaptures.1) (by simp)

theorem readInteger_decided (h : m.Follows text none s) (hnone : s.phase.mark = none) :
    (m.readInteger slot).DecidedByLiteral text slot s.offset := by
  obtain ⟨hsplits, hoffset⟩ := h.splits
  refine ⟨?_, ?_, ?_, ?_⟩
  · intro hmissing
    obtain ⟨negative, rest, hrest, hsign, hlength, hdigit⟩ := Literal.exists_sign_of_none hmissing
    rw [hrest] at hsplits
    have hrefused := h.readInteger_noDigit slot hnone hsplits hsign hdigit
    simp only [hoffset, hlength] at hrefused
    intro stop
    have hstop : stop = s.offset + if (text.drop s.offset).head? = some '-' then 1 else 0 := by
      simp only [stop]
      split <;> rfl
    rw [hstop]
    exact hrefused
  · intro lit hlongest hlength hfits
    obtain ⟨rest, hrest⟩ := hlongest.begins
    rw [← hrest] at hlongest hsplits
    have hread := h.readInteger_literal slot lit hnone hsplits hlength hlongest.ends
    rw [hoffset] at hread
    exact hread.1 hfits
  · intro lit hlongest hlength hfits
    obtain ⟨rest, hrest⟩ := hlongest.begins
    rw [← hrest] at hlongest hsplits
    have hread := h.readInteger_literal slot lit hnone hsplits hlength hlongest.ends
    rw [hoffset] at hread
    exact hread.2 hfits
  · intro lit hlongest hlength
    obtain ⟨rest, hrest⟩ := hlongest.begins
    rw [← hrest] at hsplits
    have hrefused := h.readInteger_excess slot lit hnone hsplits hlength
    rw [hoffset] at hrefused
    exact ⟨fun hfits => absurd hfits.length_le (Nat.not_le.mpr hlength), hrefused⟩

/-- An integer in range that is written as usual is read back. -/
theorem readInteger_standard (h : m.Follows text none s) (hnone : s.phase.mark = none) {v : Int}
    (hleast : -(2 ^ 31) ≤ v) (hgreatest : v ≤ 2 ^ 31 - 1)
    (hrest : text.drop s.offset = (toString v).toList ++ rest)
    (hend : rest.head?.any Numeral.isDigit = false) :
    (m.readInteger slot).Reads text slot v (s.offset + (toString v).toList.length) := by
  obtain ⟨hsplits, hoffset⟩ := h.splits
  have hfits : (Literal.ofInt v).Fits := by
    rw [Literal.Fits, Literal.value_ofInt]
    exact ⟨hleast, hgreatest⟩
  rw [hrest, ← Literal.text_ofInt] at hsplits
  have hread :=
    h.readInteger_literal slot (Literal.ofInt v) hnone hsplits hfits.length_le (Or.inr hend)
  rw [hoffset, Literal.text_ofInt, Literal.value_ofInt] at hread
  exact hread.1 hfits

end Machine.Follows

namespace Parser

/-- Reading an integer is exact. Wherever a parse has come, as long as no token is being captured,
the longest literal at the lookahead, or that there is none, decides what reading an integer there
comes to, in whatever pieces the source gives the text. An integer in range that is written as usual
is read back. Where the parse itself has come to an integer, it makes just these steps. -/
theorem readInteger_exact [Encoding.Registry] (parser : Parser) {text : List Char} {input : Input}
    {options : Options}
    {source : Nat → Source} (hsource : input.source options.encoding = .ok source)
    (hgives : (source (options.bufferSizeFor input).toNat).Gives text none)
    (hsize : 0 < options.bufferSizeFor input) {reader : Reader}
    (hreader : input.reader options = .ok reader) {m : Machine}
    (hreaches : Relation.TransGen Machine.Next (parser.start reader) m)
    (hcapture : m.reader.captureStart = none) (slot : Slot) :
    let offset := m.reader.location.offset.toNat
    m.reader.At text none offset ∧
      ((∀ lit : Literal, ¬lit.text <+: text.drop offset) ∨
        ∃ lit : Literal, lit.Longest (text.drop offset)) ∧
      (m.readInteger slot).DecidedByLiteral text slot offset ∧
      (∀ (v : Int) (rest : List Char), -(2 ^ 31) ≤ v → v ≤ 2 ^ 31 - 1 →
        text.drop offset = (toString v).toList ++ rest →
        rest.head?.any Numeral.isDigit = false →
        (m.readInteger slot).Reads text slot v (offset + (toString v).toList.length)) ∧
      (m.phase = .blanks (.integer slot) → m.reader.lookahead.any Text.isBlank = false →
        ∃ m', m.Reaches m' ∧ m.readInteger slot = m'.step) := by
  intro offset
  obtain ⟨reader', hreader', hloaded, hnone⟩ := Input.reader_of_source hsource hgives hsize
  obtain rfl := Except.ok.inj (hreader'.symm.trans hreader)
  rcases parser.first_step hloaded hnone with
    ⟨first, notice, hstep, _, hfirst⟩ | ⟨_, _, _, _, hending, _⟩
  · obtain ⟨next, ⟨told, hnext⟩, hrest⟩ := Relation.TransGen.head'_iff.mp hreaches
    obtain ⟨rfl, rfl⟩ := Step.moved.inj (hstep.symm.trans hnext)
    obtain ⟨s, hfollows, _⟩ := hfirst.reaches (parser.scan_placed text) hrest
    have hmark : s.phase.mark = none := hfollows.mark_eq_none hcapture
    have hoffset : offset = s.offset := by
      simp only [offset, hfollows.reader.location, Location.ofOffset, Int.toNat_natCast]
    rw [hoffset]
    refine ⟨hfollows.reader, ?_, hfollows.readInteger_decided slot hmark, ?_,
      Machine.readInteger_steps⟩
    · by_cases hliteral : ∃ lit : Literal, lit.text <+: text.drop s.offset
      · obtain ⟨lit, hbegins⟩ := hliteral
        exact Or.inr (Literal.exists_longest hbegins)
      · exact Or.inl (not_exists.mp hliteral)
    · intro v rest hleast hgreatest htext hend
      exact hfollows.readInteger_standard slot hmark hleast hgreatest htext hend
  · cases hending

/-- The least integer of all, in pieces of two, where a parse looks for its beginning. -/
theorem readInteger_exact_least :
    let text := ['-', '2', '1', '4', '7', '4', '8', '3', '6', '4', '8', ';']
    let input := Input.limited 2 text
    let options : Options := { bufferSize := some 3 }
    ∃ source reader m, input.source options.encoding = .ok source ∧
      (source (options.bufferSizeFor input).toNat).Gives text none ∧
      0 < options.bufferSizeFor input ∧ input.reader options = .ok reader ∧
      Relation.TransGen Machine.Next (Parser.start {} reader) m ∧
      m.reader.captureStart = none ∧
      (m.readInteger .pen).Reads text .pen (-2147483648) 11 := by
  intro text input options
  have hsize : 0 < options.bufferSizeFor input := by decide
  have hcarries : input.Carries text (options.bufferSizeFor input) := .limited (by decide)
  obtain ⟨source, hsource, hgives⟩ := hcarries.source options.encoding
  obtain ⟨reader, hreader, hloaded, hnone⟩ := hcarries.reader hsize
  rcases Parser.first_step {} hloaded hnone with
    ⟨m, notice, hstep, _, hfollows⟩ | ⟨_, _, _, _, hending, _⟩
  · have hreaches : Relation.TransGen Machine.Next (Parser.start {} reader) m :=
      .single ⟨notice, hstep⟩
    have hcapture : m.reader.captureStart = none := hfollows.capture.1
    have hexact :=
      readInteger_exact {} hsource hgives hsize hreader hreaches hcapture .pen
    have hplace : m.reader.location = .ofOffset text 0 := hfollows.reader.location
    have hread := hexact.2.2.2.1 (-2147483648) [';'] (by decide) (by decide)
    rw [hplace] at hread
    exact ⟨source, reader, m, hsource, hgives, hsize, hreader, hreaches, hcapture,
      hread (by decide +kernel) (by decide)⟩
  · cases hending

end Parser

end PlotStream
