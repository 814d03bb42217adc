import Mathlib.Data.List.TakeWhile
import PlotStream.Proofs.LastCode
import PlotStream.Proofs.Locations
import PlotStream.Proofs.Shift

/-!
What stands before the first command of a text. The search for `IN` remembers one character, and
whatever it has passed, at the `I` of the first `IN` it is where it would be at the start of a text
that begins with this `IN`. From there on the two texts are decoded alike. Places are shifted: lines
are counted on behind the preamble, and only the first line has its columns moved.
-/

namespace PlotStream

namespace Text

theorem IsLineStart.eq {cs : List Char} {start : Nat} (h : IsLineStart cs start) :
    start = lineStart cs := by
  have hline {line : List Char} (hnone : '\n' ∉ line) :
      ∀ c ∈ line.reverse, decide (c ≠ '\n') = true := by
    intro c hc
    rw [decide_eq_true_iff]
    rintro rfl
    exact hnone (List.mem_reverse.mp hc)
  rcases h with ⟨rfl, hnone⟩ | ⟨earlier, line, rfl, hnone, rfl⟩
  · have hall : cs.reverse.takeWhile (· ≠ '\n') = cs.reverse :=
      List.takeWhile_eq_self_iff.mpr (hline hnone)
    rw [lineStart, hall, List.length_reverse, Nat.sub_self]
  · have hlast : (earlier ++ '\n' :: line).reverse.takeWhile (· ≠ '\n') = line.reverse := by
      rw [List.reverse_append, List.reverse_cons, List.append_assoc,
        List.takeWhile_append_of_pos (hline hnone)]
      simp
    rw [lineStart, hlast, List.length_reverse, List.length_append, List.length_cons]
    omega

/-- A line that goes on in a second text began in the first one. -/
theorem lineStart_append_of_notMem {before cs : List Char} (h : '\n' ∉ cs) :
    lineStart (before ++ cs) = lineStart before := by
  refine (IsLineStart.eq ?_).symm
  rcases isLineStart_lineStart before with ⟨hstart, hnone⟩ | ⟨earlier, line, hbefore, hline, hstart⟩
  · exact Or.inl ⟨hstart, by simp [hnone, h]⟩
  · exact Or.inr ⟨earlier, line ++ cs, by simp [hbefore], by simp [hline, h], hstart⟩

theorem lineStart_append_of_mem {before cs : List Char} (h : '\n' ∈ cs) :
    lineStart (before ++ cs) = before.length + lineStart cs := by
  refine (IsLineStart.eq ?_).symm
  rcases isLineStart_lineStart cs with ⟨_, hnone⟩ | ⟨earlier, line, hcs, hline, hstart⟩
  · exact absurd h hnone
  · refine Or.inr ⟨before ++ earlier, line, by rw [List.append_assoc, ← hcs], hline, ?_⟩
    rw [hstart, List.length_append, Nat.add_assoc]

end Text

/-- A place when a text is put in front: its line is counted on, and the first line begins where
the text in front ends. -/
def Location.shift (before : List Char) (place : Location) : Location where
  offset := place.offset + before.length
  line := place.line + before.count '\n'
  column :=
    if place.line = 1 then place.column + (before.reverse.takeWhile (· ≠ '\n')).length
    else place.column

/-- A place of a text that is not empty is shifted by what stands in front of the text. -/
theorem Location.Standard.behind {before rest : List Char} {place : Location}
    (h : place.Standard rest) (hrest : rest ≠ []) :
    place.behind before rest = place.shift before := by
  obtain ⟨offset, start, hle, hoffset, hline, hstart, hcolumn⟩ := h
  have hpos := List.length_pos_iff.mpr hrest
  have htake : (before ++ rest).take
      (min (before.length + offset) ((before ++ rest).length - 1)) =
      before ++ rest.take (min offset (rest.length - 1)) := by
    have hmin : min (before.length + offset) ((before ++ rest).length - 1) =
        before.length + min offset (rest.length - 1) := by
      rw [List.length_append]
      omega
    rw [hmin, List.take_length_add_append]
  obtain rfl := hstart.eq
  have hlast : (before.reverse.takeWhile (· ≠ '\n')).length ≤ before.length := by
    have hprefix : before.reverse.takeWhile (· ≠ '\n') <+: before.reverse :=
      List.takeWhile_prefix _
    simpa using hprefix.length_le
  have hbegin := Text.lineStart.eq_1 before
  simp only [Location.behind, ofOffset, hoffset, Int.toNat_natCast, htake, shift, hline, hcolumn,
    List.count_append, Location.mk.injEq]
  refine ⟨by omega, by omega, ?_⟩
  by_cases hfeed : '\n' ∈ rest.take (min offset (rest.length - 1))
  · have hcount := List.count_pos_iff.mpr hfeed
    rw [Text.lineStart_append_of_mem hfeed, if_neg (by omega)]
    omega
  · have hcount := List.count_eq_zero.mpr hfeed
    rw [Text.lineStart_append_of_notMem hfeed, if_pos (by omega)]
    have hfirst := (Text.IsLineStart.eq (Or.inl ⟨rfl, hfeed⟩)).symm
    omega

namespace Scan

variable {text : List Char} {previous : Option Location}

/-- Whatever a path tells is told of places of the text. -/
theorem Placed.path {s last : Scan} {told : List Notice} (h : s.Placed text previous)
    (hpath : Path text s told last) :
    last.Placed text previous ∧ ∀ notice ∈ told, notice.Placed text := by
  induction hpath with
  | refl _ => exact ⟨h, by simp⟩
  | step hmove _ ih =>
      have hstep := h.step
      rw [hmove] at hstep
      cases hstep with
      | moved hnext hnotice =>
          obtain ⟨hlast, hmore⟩ := ih hnext
          refine ⟨hlast, ?_⟩
          intro notice hmem
          rcases List.mem_append.mp hmem with hfirst | hlater
          · exact hnotice notice (Option.mem_toList.mp hfirst)
          · exact hmore notice hlater

/-- A scan in search of `IN` that has just passed the `I` at the given offset. -/
def behindLetter (offset : Nat) : Scan :=
  { offset := offset + 1, phase := .preamble (some 'I') }

theorem resume_behindLetter (offset : Nat) (f : Location → Location) :
    resume { offset } f (behindLetter 0) = behindLetter offset :=
  rfl

/-- At the `I` of the first `IN` a scan knows nothing but how far it has come. -/
theorem path_preamble {before : List Char} (hfirst : Text.WithoutInit (before ++ ['I']))
    (rest : List Char) :
    Path (before ++ 'I' :: 'N' :: rest) {} [] (behindLetter before.length) := by
  have hbegin : Arrives (before ++ 'I' :: 'N' :: rest) {} [] (.preamble ([] : List Char).getLast?)
      0 [] ((before ++ ['I']) ++ 'N' :: rest) :=
    ⟨{}, .refl _, rfl, rfl, by simp, rfl⟩
  obtain ⟨s, hpath, hphase, hcount, hsplits⟩ := hbegin.search hfirst
  have hrecord : s.remembered = (none, none) := by
    cases hpath.dispatches rfl rfl rfl with
    | before _ hsame => exact hsame
    | between _ hother => rw [hphase] at hother; cases hother
  have hoffset := hsplits.offset
  obtain ⟨offset, phase, count, opcode, opcodePlace⟩ := s
  obtain ⟨rfl, rfl⟩ := Prod.mk.inj hrecord
  simp only [List.nil_append, List.getLast?_concat, List.length_append, List.length_singleton]
    at hphase hcount hoffset
  subst hphase hcount hoffset
  exact hpath

/-- The path of a text from its first `IN` to its end is the path of the whole text, shifted. -/
theorem path_shifts {before rest : List Char} (hfirst : Text.WithoutInit (before ++ ['I']))
    {told plain : List Notice} {last final : Scan} {outcome ending : Except Violation Nat}
    (hpath : Path (before ++ 'I' :: 'N' :: rest) {} told last)
    (hend : last.Ends (before ++ 'I' :: 'N' :: rest) outcome)
    (hplain : Path ('I' :: 'N' :: rest) {} plain final)
    (hending : final.Ends ('I' :: 'N' :: rest) ending) :
    told = plain.map (Notice.mapPlace (.shift before)) ∧
      outcome = ending.mapError (Violation.mapPlace (.shift before)) ∧
      last.opcode = final.opcode ∧ last.opcodePlace = final.opcodePlace.map (.shift before) := by
  have hplaced := Parser.scan_placed {} ('I' :: 'N' :: rest)
  have hnone : Text.WithoutInit (([] : List Char) ++ ['I']) := by
    intro hinit
    simpa using hinit.length_le
  obtain ⟨later, rfl, hlater⟩ := (path_preamble hfirst rest).continues hpath hend
  obtain ⟨more, rfl, hmore⟩ := (path_preamble hnone rest).continues hplain hending
  -- The whole text has come to where the other one begins.
  rw [← resume_behindLetter before.length (.behind before ('I' :: 'N' :: rest))] at hlater
  obtain ⟨more', final', hmore', rfl, rfl⟩ := hlater.exists_resumed rfl
  obtain ⟨ending', hending', rfl⟩ := hend.exists_resumed rfl
  obtain ⟨rfl, rfl⟩ := hmore.unique hending hmore' hending'
  obtain rfl := hending.unique hending'
  obtain ⟨hfinal, htold⟩ := hplaced.path hplain
  have hshift {place : Location} (hstandard : place.Standard ('I' :: 'N' :: rest)) :
      place.behind before ('I' :: 'N' :: rest) = place.shift before :=
    hstandard.behind (by simp)
  refine ⟨?_, ?_, ?_, ?_⟩
  · refine List.map_congr_left fun notice hmem => ?_
    have hnotice := htold notice hmem
    cases notice with
    | command c place => exact congrArg (Notice.command c) (hshift (hnotice place rfl))
    | diagnostic d place => exact congrArg (Notice.diagnostic d) (hshift (hnotice place rfl))
    | _ => rfl
  · cases hending with
    | finished _ => exact congrArg Except.ok (Nat.zero_add _)
    | failed hfailed =>
        have hplace := hshift (hplaced.violation hplain hfailed)
        exact congrArg (fun place => Except.error (Violation.mk _ place)) hplace
  · exact Option.or_none
  · rcases hfinal.opcodePlace with hprevious | ⟨place, hrecorded, hstandard⟩
    · have hsame : final.opcodePlace = none := hprevious
      simp [resume, hsame]
    · simp [resume, hrecorded, hshift hstandard]

end Scan

/-- A fault that is about a place is about another one. -/
def Fault.mapPlace (f : Location → Location) : Fault → Fault
  | .violation v => .violation (v.mapPlace f)
  | fault => fault

namespace Parser

/-- What stands in front of the first `IN` of a text makes no difference but a shift: the same
commands and diagnostics, the same count or the same violation, and every place shifted. -/
theorem parse_preamble_shifts [Encoding.Registry] {before rest : List Char}
    (hfirst : Text.WithoutInit (before ++ ['I'])) {input input' : Input}
    {options options' : Options}
    (hinput : input.Carries (before ++ ['I', 'N'] ++ rest) (options.bufferSizeFor input))
    (hsize : 0 < options.bufferSizeFor input)
    (hinput' : input'.Carries (['I', 'N'] ++ rest) (options'.bufferSizeFor input'))
    (hsize' : 0 < options'.bufferSizeFor input') :
    let report := Parser.parse {} input options
    let plain := Parser.parse {} input' options'
    Notice.commands report.trace =
        (Notice.commands plain.trace).map (fun entry => (entry.1, entry.2.shift before)) ∧
      Notice.diagnostics report.trace =
        (Notice.diagnostics plain.trace).map (fun entry => (entry.1, entry.2.shift before)) ∧
      report.outcome = plain.outcome.mapError (Fault.mapPlace (.shift before)) ∧
      report.parser.opcode = plain.parser.opcode ∧
      report.parser.opcodePlace = plain.parser.opcodePlace.map (.shift before) := by
  intro report plain
  rw [List.append_assoc] at hinput
  obtain ⟨told, last, outcome, hpath, hend, hshows⟩ := exists_path_shown {} rfl hinput hsize
  obtain ⟨more, final, ending, hplain, hending, hshows'⟩ :=
    exists_path_shown {} rfl hinput' hsize'
  obtain ⟨rfl, rfl, hopcode, hplace⟩ := Scan.path_shifts hfirst hpath hend hplain hending
  refine ⟨?_, ?_, ?_, ?_, ?_⟩
  · rw [hshows.commands, hshows'.commands, Notice.commands_mapPlace]
  · rw [hshows.diagnostics, hshows'.diagnostics, Notice.diagnostics_mapPlace]
  · rw [hshows.result, hshows'.result]
    cases ending <;> rfl
  · rw [hshows.opcode, hshows'.opcode, hopcode]
  · rw [hshows.opcodePlace, hshows'.opcodePlace, hplace]

/-- Letters `I` and a line feed before a command that is not supported, in pieces of two. -/
theorem parse_preamble_shifts_letters :
    let before := ['X', '\n', 'I', 'I']
    let rest := [';', 'X', 'Y', ';', '\n', 'P', 'U']
    let input := Input.limited 2 (before ++ ['I', 'N'] ++ rest)
    let options : Options := { bufferSize := some 3 }
    let input' := Input.text (['I', 'N'] ++ rest)
    let report := Parser.parse {} input options
    let plain := Parser.parse {} input' {}
    Text.WithoutInit (before ++ ['I']) ∧
      input.Carries (before ++ ['I', 'N'] ++ rest) (options.bufferSizeFor input) ∧
      input'.Carries (['I', 'N'] ++ rest) (Options.bufferSizeFor {} input') ∧
      Notice.diagnostics report.trace =
        (Notice.diagnostics plain.trace).map (fun entry => (entry.1, entry.2.shift before)) ∧
      report.outcome = plain.outcome.mapError (Fault.mapPlace (.shift before)) := by
  intro before rest input options input' report plain
  have hfirst : Text.WithoutInit (before ++ ['I']) := by
    unfold Text.WithoutInit
    decide
  have hinput : input.Carries (before ++ ['I', 'N'] ++ rest) (options.bufferSizeFor input) :=
    .limited (by decide)
  have hinput' := Input.carries_text (['I', 'N'] ++ rest)
  have hshifts := parse_preamble_shifts hfirst hinput (by decide) hinput' (by decide)
  exact ⟨hfirst, hinput, hinput', hshifts.2.1, hshifts.2.2.1⟩

end Parser

end PlotStream
