import PlotStream.Proofs.Preamble
import PlotStream.Proofs.Replacing
import PlotStream.Proofs.RunEnds
import PlotStream.Proofs.ViablePrefix

/-!
The picture of a place in a text without tabs. A location is counted up character by character, the
picture is cut out of the whole text; they agree on which line is shown and on where the caret
stands. The picture reaches to either side of its place as far as the line and the reach go, so the
caret is as far from its left edge as the column or the reach says.
-/

namespace PlotStream

namespace Text

variable {text before after : List Char} {offset reach : Nat}

theorem widthFrom_of_notMem {cs : List Char} (h : '\t' ∉ cs) (column : Nat) :
    widthFrom column cs = cs.length := by
  induction cs generalizing column with
  | nil => rfl
  | cons c rest ih =>
      rw [List.mem_cons, not_or] at h
      rw [widthFrom, if_neg (Ne.symm h.1), List.length_cons]
      split <;> rw [ih h.2] <;> omega

theorem forall_ne_feed {cs : List Char} (h : '\n' ∉ cs) :
    ∀ c ∈ cs, (decide (c ≠ '\n')) = true := by
  intro c hc
  have hne : c ≠ '\n' := fun heq => h (heq ▸ hc)
  exact decide_eq_true hne

theorem feed_notMem_firstLine (cs : List Char) : '\n' ∉ firstLine cs := by
  intro hmem
  have hne := List.mem_takeWhile_imp hmem
  simp at hne

theorem feed_notMem_lastLine (cs : List Char) : '\n' ∉ lastLine cs := by
  rw [lastLine, List.mem_reverse]
  exact feed_notMem_firstLine cs.reverse

theorem firstLine_append {cs : List Char} (h : '\n' ∉ cs) (more : List Char) :
    firstLine (cs ++ more) = cs ++ firstLine more := by
  rw [firstLine, List.takeWhile_append_of_pos (forall_ne_feed h), firstLine]

/-- A text read backwards begins with its last line. -/
theorem lastLine_eq (cs : List Char) : lastLine cs = (firstLine cs.reverse).reverse := rfl

theorem lastLine_of_notMem {cs : List Char} (h : '\n' ∉ cs) : lastLine cs = cs := by
  have hreverse : '\n' ∉ cs.reverse := by simpa using h
  have hfirst := firstLine_append hreverse []
  rw [List.append_nil] at hfirst
  rw [lastLine_eq, hfirst]
  simp [firstLine]

theorem lastLine_append_feed {earlier line : List Char} (h : '\n' ∉ line) :
    lastLine (earlier ++ '\n' :: line) = line := by
  have hreverse : '\n' ∉ line.reverse := by simpa using h
  have hfirst := firstLine_append hreverse ('\n' :: earlier.reverse)
  rw [lastLine_eq, List.reverse_append, List.reverse_cons, List.append_assoc, List.singleton_append,
    hfirst]
  simp [firstLine]

theorem length_lastLine (cs : List Char) : (lastLine cs).length = cs.length - lineStart cs := by
  have hle := (lastLine_suffix cs).length_le
  rw [lastLine, List.length_reverse] at hle ⊢
  rw [lineStart]
  omega

/-- The last line of a part that goes to the end is the end of the last line. -/
theorem lastLine_drop (cs : List Char) (n : Nat) :
    lastLine (cs.drop n) = (lastLine cs).drop ((lastLine cs).length - (cs.length - n)) := by
  rw [lastLine, List.reverse_drop, ← List.take_takeWhile, List.reverse_take, lastLine,
    List.length_reverse]

theorem firstLine_take (cs : List Char) (n : Nat) : firstLine (cs.take n) <+: firstLine cs := by
  rw [firstLine, ← List.take_takeWhile]
  exact List.take_prefix _ _

theorem length_splitOn (cs : List Char) : (cs.splitOn '\n').length = cs.count '\n' + 1 := by
  induction cs with
  | nil => rfl
  | cons c rest ih =>
      rw [List.splitOn_cons_eq_if_modifyHead, List.count_cons]
      split
      · rw [List.length_cons, ih]
      · rw [List.length_modifyHead, ih]

theorem head?_splitOn (cs : List Char) : (cs.splitOn '\n').head? = some (firstLine cs) := by
  induction cs with
  | nil => rfl
  | cons c rest ih =>
      rw [List.splitOn_cons_eq_if_modifyHead, firstLine, List.takeWhile_cons]
      by_cases hc : c = '\n'
      · simp [hc]
      · simp [hc, List.head?_modifyHead, ih, firstLine]

/-- The line that an offset is on, by the line feeds before it. -/
theorem line_splitOn (before after : List Char) :
    ((before ++ after).splitOn '\n')[before.count '\n']? =
      some (lastLine before ++ firstLine after) := by
  rcases isLineStart_lineStart before with ⟨_, hnone⟩ | ⟨earlier, line, rfl, hline, _⟩
  · rw [List.count_eq_zero_of_not_mem hnone, ← List.head?_eq_getElem?, head?_splitOn,
      firstLine_append hnone, lastLine_of_notMem hnone]
  · have hcount : (earlier ++ '\n' :: line).count '\n' = (earlier.splitOn '\n').length := by
      rw [length_splitOn, List.count_append, List.count_cons_self,
        List.count_eq_zero_of_not_mem hline]
    rw [hcount, List.append_assoc, List.cons_append, List.splitOn_append_cons_self,
      List.getElem?_append_right (Nat.le_refl _), Nat.sub_self, ← List.head?_eq_getElem?,
      head?_splitOn, firstLine_append hline, lastLine_append_feed hline]

/-- What a picture shows of the text before its place. -/
def leftOf (text : List Char) (offset reach : Nat) : List Char :=
  lastLine ((text.take offset).drop (offset - reach))

/-- What a picture shows of the text from its place on. -/
def rightOf (text : List Char) (offset reach : Nat) : List Char :=
  firstLine ((text.drop offset).take reach)

theorem contextAt_eq (hle : offset ≤ text.length) (reach : Nat) :
    contextAt text offset reach = String.ofList
      (leftOf text offset reach ++ rightOf text offset reach ++
        '\n' :: List.replicate (widthFrom 0 (leftOf text offset reach)) ' ' ++ ['^', '\n']) := by
  have hstart : max ((offset : Int) - reach) 0 = ((offset - reach : Nat) : Int) := by omega
  have hstop : (offset : Int) + reach = ((offset + reach : Nat) : Int) := by omega
  have hleft : span text (max ((offset : Int) - reach) 0) offset =
      (text.take offset).drop (offset - reach) := by
    rw [hstart, span, clampPosition_nat, clampPosition_nat, Nat.min_eq_left hle,
      Nat.min_eq_left (by omega)]
  have hright : span text offset ((offset : Int) + reach) = (text.drop offset).take reach := by
    rw [hstop, span, clampPosition_nat, clampPosition_nat, Nat.min_eq_left hle, List.drop_take,
      List.take_eq_take_iff, List.length_drop]
    omega
  rw [contextAt, hleft, hright, leftOf, rightOf]

/-- The left part ends at the start of the line or of the reach, whichever comes first. -/
theorem length_leftOf (hle : offset ≤ text.length) (reach : Nat) :
    (leftOf text offset reach).length = min (offset - lineStart (text.take offset)) reach := by
  rw [leftOf, lastLine_drop, List.length_drop, length_lastLine, List.length_take,
    Nat.min_eq_left hle]
  omega

theorem leftOf_suffix (text : List Char) (offset reach : Nat) :
    leftOf text offset reach <:+ lastLine (text.take offset) := by
  rw [leftOf, lastLine_drop]
  exact List.drop_suffix _ _

theorem rightOf_prefix (text : List Char) (offset reach : Nat) :
    rightOf text offset reach <+: firstLine (text.drop offset) := firstLine_take _ _

theorem head?_rightOf (hreach : 0 < reach) :
    (rightOf text offset reach).head? = text[offset]?.filter (· ≠ '\n') := by
  rw [rightOf, firstLine, List.head?_takeWhile, List.head?_take, if_neg (Nat.ne_of_gt hreach),
    List.head?_drop]

/-- Both parts together are a part of the line of the place. -/
theorem parts_infix (text : List Char) (offset reach : Nat) :
    leftOf text offset reach ++ rightOf text offset reach <:+:
      lastLine (text.take offset) ++ firstLine (text.drop offset) := by
  obtain ⟨earlier, hleft⟩ := leftOf_suffix text offset reach
  obtain ⟨later, hright⟩ := rightOf_prefix text offset reach
  refine ⟨earlier, later, ?_⟩
  rw [← hleft, ← hright]
  simp only [List.append_assoc]

/-- The picture of the place of a character. -/
theorem contextAt_place (htab : '\t' ∉ text) (hlt : offset < text.length) (hreach : 0 < reach) :
    let place := Location.ofOffset text offset
    let indent := (min (place.column - 1) reach).toNat
    ∃ shown line,
      contextAt text place.offset reach =
          String.ofList (shown ++ '\n' :: List.replicate indent ' ' ++ ['^', '\n']) ∧
        (text.splitOn '\n')[place.line.toNat - 1]? = some line ∧ shown <:+: line ∧ '\n' ∉ shown ∧
        ∀ c, text[offset]? = some c → c ≠ '\n' → shown[indent]? = some c := by
  intro place indent
  have hle := Nat.le_of_lt hlt
  have hmin : min offset (text.length - 1) = offset := by omega
  have hindent : indent = min (offset - lineStart (text.take offset)) reach := by
    simp only [indent, place, Location.ofOffset, hmin]
    omega
  have hline : place.line.toNat - 1 = (text.take offset).count '\n' := by
    simp only [place, Location.ofOffset, hmin]
    omega
  have hlength := (length_leftOf hle reach).trans hindent.symm
  refine ⟨leftOf text offset reach ++ rightOf text offset reach, _, ?_, ?_,
    parts_infix text offset reach, ?_, ?_⟩
  · rw [show place.offset = offset from rfl, contextAt_eq hle, widthFrom_of_notMem, hlength]
    intro hmem
    have hbefore := (leftOf_suffix text offset reach).trans (lastLine_suffix _)
    exact htab (List.mem_of_mem_take (hbefore.subset hmem))
  · rw [hline]
    simpa using line_splitOn (text.take offset) (text.drop offset)
  · rw [List.mem_append, not_or]
    exact ⟨feed_notMem_lastLine _, feed_notMem_firstLine _⟩
  · intro c hc hne
    rw [List.getElem?_append_right (Nat.le_of_eq hlength), hlength, Nat.sub_self,
      ← List.head?_eq_getElem?, head?_rightOf hreach, hc]
    simp [hne]

end Text

theorem Location.Standard.eq_ofOffset {text : List Char} {place : Location}
    (h : place.Standard text) :
    ∃ offset : Nat, offset ≤ text.length ∧ place = ofOffset text offset := by
  obtain ⟨offset, start, hle, hoffset, hline, hstart, hcolumn⟩ := h
  refine ⟨offset, hle, ?_⟩
  obtain ⟨_, _, _⟩ := place
  rw [ofOffset, ← hstart.eq]
  exact (Location.mk.injEq ..).mpr ⟨hoffset, hline, hcolumn⟩

namespace Parser

variable {text : List Char} {ending : Option ReadFailure} {input : Input} {options : Options}
  {source : Nat → Source} {violation : Violation}

/-- A text is violated at a place of its own, whoever listens and however the source ends. -/
theorem violation_standard [Encoding.Registry] (parser : Parser)
    (hsource : input.source options.encoding = .ok source)
    (hgives : (source (options.bufferSizeFor input).toNat).Gives text ending)
    (hsize : 0 < options.bufferSizeFor input)
    (houtcome : (parser.parse input options).outcome = .error (.violation violation)) :
    violation.place.Standard text := by
  obtain ⟨reader, hreader, hloaded, hcapture⟩ := Input.reader_of_source hsource hgives hsize
  rw [parser.parse_of_reader hreader] at houtcome
  rcases parser.exists_last_scan hloaded hcapture with
    ⟨told, s, final, hpath, hfollows, hend⟩ | ⟨cause, _, hcause⟩
  · cases hend with
    | finished _ hfinished => cases hfinished.symm.trans houtcome
    | refused _ hhear hrefused =>
        obtain rfl := Except.error.inj (hrefused.symm.trans houtcome)
        exact absurd (congrArg Prod.snd hhear) (Listener.hear_not_violation _ _ _)
    | failed hstep hfailed =>
        obtain rfl := Except.error.inj (hfailed.symm.trans houtcome)
        exact (parser.scan_placed text).violation hpath (hfollows.violated_step hstep)
  · cases hcause.symm.trans houtcome

/-- The caret stands under the character that breaks the grammar. In a text without tabs, in
whatever pieces it comes, the picture of a violation shows a part of the line that its place names,
and below it the caret, indented by the column or by the reach; above the caret is the character at
the place, unless the line ends there. -/
theorem parse_caret_points [Encoding.Registry] (parser : Parser)
    (hsource : input.source options.encoding = .ok source)
    (hgives : (source (options.bufferSizeFor input).toNat).Gives text ending)
    (hsize : 0 < options.bufferSizeFor input) (htab : '\t' ∉ text)
    (houtcome : (parser.parse input options).outcome = .error (.violation violation))
    (hwithin : violation.place.offset < text.length) :
    let place := violation.complaint.place
    let indent := (min (place.column - 1) 40).toNat
    ∃ shown line,
      violation.complaint.context text Text.defaultReach =
          String.ofList (shown ++ '\n' :: List.replicate indent ' ' ++ ['^', '\n']) ∧
        (text.splitOn '\n')[place.line.toNat - 1]? = some line ∧ shown <:+: line ∧ '\n' ∉ shown ∧
        ∀ c, text[place.offset.toNat]? = some c → c ≠ '\n' → shown[indent]? = some c := by
  obtain ⟨offset, _, hplace⟩ :=
    (parser.violation_standard hsource hgives hsize houtcome).eq_ofOffset
  have hoffset : violation.place.offset = offset := congrArg Location.offset hplace
  have hlt : offset < text.length := by omega
  have hindex : violation.place.offset.toNat = offset := by omega
  have hpicture := Text.contextAt_place htab hlt (by decide : 0 < 40)
  rw [← hplace, ← hindex] at hpicture
  exact hpicture

/-- A violation far to the right on the second line, where the reach cuts the picture. -/
theorem parse_caret_points_cut :
    let preamble := '\n' :: List.replicate 50 'x'
    let text := preamble ++ ['I', 'N', 'P']
    let input := Input.limited 7 text
    let options : Options := { bufferSize := some 3 }
    let source := fun size => Source.ofLimited size 7 text
    let violation : Violation := ⟨.terminator, ⟨53, 2, 53⟩⟩
    input.source options.encoding = .ok source ∧
      (source (options.bufferSizeFor input).toNat).Gives text none ∧
      0 < options.bufferSizeFor input ∧ '\t' ∉ text ∧
      (Parser.parse {} input options).outcome = .error (.violation violation) ∧
      violation.place.offset < text.length ∧
      ∃ shown line,
        violation.complaint.context text Text.defaultReach =
            String.ofList (shown ++ '\n' :: List.replicate 40 ' ' ++ ['^', '\n']) ∧
          (text.splitOn '\n')[1]? = some line ∧ shown <:+: line ∧ shown[40]? = some 'P' := by
  intro preamble text input options source violation
  have hsize : 0 < options.bufferSizeFor input := by decide
  have hgives : (source (options.bufferSizeFor input).toNat).Gives text none :=
    Source.gives_ofLimited _ text (by decide)
  have hfirst : Text.WithoutInit (preamble ++ ['I']) := by
    intro hinit
    have hmem : 'N' ∈ preamble ++ ['I'] := hinit.subset (by simp)
    simp [preamble] at hmem
  have hinit : Scan.Arrives text (Parser.scan {}) [] (.blanks (.terminator .init)) 0
      (preamble ++ ['I', 'N']) ['P'] := (Parser.scan_arrives {} text).init hfirst
  have hrejected : ∀ s : Scan, s.phase = .blanks (.terminator .init) →
      s.Splits text (preamble ++ ['I', 'N']) ['P'] → s.step text = .failed violation := by
    intro s hphase hsplits
    have hvisible : Text.isBlank 'P' = false := by decide
    have hplace : (s.view text).place = ⟨53, 2, 53⟩ := hsplits.place
    rw [Scan.step, Scan.react, hphase]
    simp [hsplits.lookahead, hvisible, Scan.afterBlanks, hplace, violation]
  obtain ⟨last, hpath, hend⟩ := hinit.fail hrejected
  have hshows := parse_shows rfl (.limited (by decide)) hsize hpath hend
  have houtcome := hshows.outcome_violation.mpr rfl
  have htab : '\t' ∉ text := by simp [text, preamble]
  obtain ⟨shown, line, hpicture, hline, hinfix, _, habove⟩ :=
    Parser.parse_caret_points {} rfl hgives hsize htab houtcome (by decide)
  exact ⟨rfl, hgives, hsize, htab, houtcome, by decide, shown, line, hpicture, hline, hinfix,
    habove 'P' rfl (by decide)⟩

end Parser

end PlotStream
