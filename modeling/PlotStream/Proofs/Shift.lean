import PlotStream.Proofs.Scan

/-!
A text behind a beginning. A step looks at characters and copies places, it never looks at a place.
So a scan of the rest of a text and a scan that has come to this rest within the whole text go the
same way: the offsets differ by the length of the beginning, the counts by what was counted there,
and every place is that of the same character in the whole text.
-/

namespace PlotStream

/-- The place of a character of a text when something else stands in front of the text. -/
def Location.behind (before rest : List Char) (place : Location) : Location :=
  ofOffset (before ++ rest) (before.length + place.offset.toNat)

def Phase.mapPlace (f : Location → Location) : Phase → Phase
  | .preamble previous => .preamble previous
  | .blanks due => .blanks due
  | .secondLetter start => .secondLetter (f start)
  | .dispatch start => .dispatch (f start)
  | .leadingDigit slot start => .leadingDigit slot (f start)
  | .digits slot start count => .digits slot (f start) count
  | .literal slot start => .literal slot (f start)
  | .closing c => .closing c
  | .skipping code start => .skipping code (f start)
  | .skipped code start => .skipped code (f start)

def Notice.mapPlace (f : Location → Location) : Notice → Notice
  | .command c place => .command c (f place)
  | .diagnostic d place => .diagnostic d (f place)
  | notice => notice

def Violation.mapPlace (f : Location → Location) (violation : Violation) : Violation :=
  { violation with place := f violation.place }

def View.mapPlace (f : Location → Location) (view : View) : View :=
  { view with place := f view.place }

theorem Notice.commands_mapPlace (f : Location → Location) (trace : List Notice) :
    commands (trace.map (mapPlace f)) = (commands trace).map fun entry => (entry.1, f entry.2) := by
  rw [commands, commands, List.filterMap_map, List.map_filterMap]
  congr 1
  funext notice
  cases notice <;> rfl

theorem Notice.diagnostics_mapPlace (f : Location → Location) (trace : List Notice) :
    diagnostics (trace.map (mapPlace f)) =
      (diagnostics trace).map fun entry => (entry.1, f entry.2) := by
  rw [diagnostics, diagnostics, List.filterMap_map, List.map_filterMap]
  congr 1
  funext notice
  cases notice <;> rfl

theorem Machine.argumentsOf_mapPlace (f : Location → Location) (code : List Char)
    (start : Location) : argumentsOf code (f start) = (argumentsOf code start).mapPlace f := by
  unfold argumentsOf
  split <;> rfl

theorem Phase.mark_mapPlace (before rest : List Char) (phase : Phase) :
    (phase.mapPlace (.behind before rest)).mark = phase.mark.map (before.length + ·) := by
  cases phase <;> rfl

namespace Scan

/-- The scan of a rest of the text as one that goes on from an earlier scan of the whole text. -/
def resume (earlier : Scan) (f : Location → Location) (s : Scan) : Scan where
  offset := earlier.offset + s.offset
  phase := s.phase.mapPlace f
  count := earlier.count + s.count
  opcode := s.opcode.or earlier.opcode
  opcodePlace := (s.opcodePlace.map f).or earlier.opcodePlace

def Move.resumed (earlier : Scan) (f : Location → Location) : Move → Move
  | .moved next notice => .moved (earlier.resume f next) (notice.map (Notice.mapPlace f))
  | .finished => .finished
  | .failed violation => .failed (violation.mapPlace f)

/-- The end of a parse of the rest when so many commands have been counted in front of it. -/
def endAfter (counted : Nat) (f : Location → Location) :
    Except Violation Nat → Except Violation Nat
  | .ok count => .ok (counted + count)
  | .error violation => .error (violation.mapPlace f)

variable {earlier : Scan} {f : Location → Location}

theorem advance_resumed (s : Scan) (view : View) (phase : Phase) :
    (earlier.resume f s).advance (view.mapPlace f) (phase.mapPlace f) =
      (s.advance view phase).resumed earlier f := by
  rw [advance, advance, View.mapPlace]
  cases view.lookahead <;> rfl

theorem afterBlanks_resumed (s : Scan) (view : View) (due : Due) :
    (earlier.resume f s).afterBlanks (view.mapPlace f) due =
      (s.afterBlanks view due).resumed earlier f := by
  cases due with
  | opcode =>
      rw [afterBlanks, afterBlanks, apply_ite (Move.resumed earlier f), ← advance_resumed]
      rfl
  | terminator c =>
      rw [afterBlanks, afterBlanks, apply_ite (Move.resumed earlier f), ← advance_resumed]
      rfl
  | optionalPen =>
      rw [afterBlanks, afterBlanks, apply_ite (Move.resumed earlier f)]
      rfl
  | integer slot =>
      rw [afterBlanks, afterBlanks, apply_ite (Move.resumed earlier f), ← advance_resumed]
      rfl
  | separator x =>
      rw [afterBlanks, afterBlanks, apply_ite (Move.resumed earlier f), ← advance_resumed]
      rfl

/-- A step does not look at places. -/
theorem react_resumed (s : Scan) (view : View) :
    (earlier.resume f s).react (view.mapPlace f) = (s.react view).resumed earlier f := by
  obtain ⟨offset, phase, count, opcode, opcodePlace⟩ := s
  cases phase with
  | preamble previous =>
      simp only [react, apply_ite (Move.resumed earlier f), ← advance_resumed]
      rfl
  | blanks due =>
      simp only [react, apply_ite (Move.resumed earlier f), ← advance_resumed,
        ← afterBlanks_resumed]
      rfl
  | secondLetter start =>
      simp only [react, ← advance_resumed]
      rfl
  | dispatch start =>
      have harguments := Machine.argumentsOf_mapPlace f view.token start
      simp only [react, resume, Phase.mapPlace, View.mapPlace, harguments]
      rfl
  | leadingDigit slot start =>
      simp only [react, apply_ite (Move.resumed earlier f), ← advance_resumed]
      rfl
  | digits slot start count =>
      simp only [react, apply_ite (Move.resumed earlier f), ← advance_resumed]
      rfl
  | literal slot start =>
      simp only [react, apply_ite (Move.resumed earlier f)]
      rfl
  | closing c => rfl
  | skipping code start =>
      simp only [react, apply_ite (Move.resumed earlier f), ← advance_resumed]
      rfl
  | skipped code start => rfl

section Behind

variable {before rest : List Char} (hoffset : earlier.offset = before.length)
include hoffset

theorem view_resumed (s : Scan) :
    (earlier.resume (.behind before rest) s).view (before ++ rest) =
      (s.view rest).mapPlace (.behind before rest) := by
  have htoken : (earlier.resume (.behind before rest) s).token
      (before ++ rest) = s.token rest := by
    rw [token, token, resume, Phase.mark_mapPlace]
    cases s.phase.mark with
    | none => rfl
    | some mark =>
        simp only [Option.map_some, hoffset]
        rw [List.drop_append, List.drop_of_length_le (Nat.le_add_right _ _), List.nil_append,
          Nat.add_sub_cancel_left, Nat.add_sub_add_left]
  have hlookahead : (before ++ rest)[before.length + s.offset]? = rest[s.offset]? := by
    rw [List.getElem?_append_right (Nat.le_add_right _ _), Nat.add_sub_cancel_left]
  rw [view, htoken]
  simp only [view, View.mapPlace, Location.behind, Location.ofOffset, resume, hlookahead,
    hoffset, Int.toNat_natCast]

theorem step_resumed (rest : List Char) (s : Scan) :
    (earlier.resume (.behind before rest) s).step (before ++ rest) =
      (s.step rest).resumed earlier (.behind before rest) := by
  rw [step, view_resumed hoffset, react_resumed, step]

/-- What goes on from the earlier scan in the whole text comes from the rest. -/
theorem Path.exists_resumed {s last : Scan} {told : List Notice}
    (h : Path (before ++ rest) (earlier.resume (.behind before rest) s) told last) :
    ∃ told' last', Path rest s told' last' ∧
      told = told'.map (Notice.mapPlace (.behind before rest)) ∧
      last = earlier.resume (.behind before rest) last' := by
  generalize hs : earlier.resume (.behind before rest) s = at' at h
  induction h generalizing s with
  | refl _ => exact ⟨[], s, .refl s, rfl, hs.symm⟩
  | step hmove _ ih =>
      subst hs
      rw [step_resumed hoffset rest] at hmove
      cases hstep : s.step rest with
      | moved next' notice' =>
          rw [hstep, Move.resumed, Move.moved.injEq] at hmove
          obtain ⟨hnext, rfl⟩ := hmove
          obtain ⟨told', last', hpath, rfl, rfl⟩ := ih hnext
          refine ⟨notice'.toList ++ told', last', .step hstep hpath, ?_, rfl⟩
          rw [List.map_append, Option.toList_map]
      | finished => simp [hstep, Move.resumed] at hmove
      | failed violation => simp [hstep, Move.resumed] at hmove

theorem Ends.resume {s : Scan} {outcome : Except Violation Nat} (h : s.Ends rest outcome) :
    (earlier.resume (.behind before rest) s).Ends (before ++ rest)
      (endAfter earlier.count (.behind before rest) outcome) := by
  have hstep := step_resumed hoffset rest s
  cases h with
  | finished hfinished =>
      rw [hfinished] at hstep
      exact .finished hstep
  | failed hfailed =>
      rw [hfailed] at hstep
      exact .failed hstep

theorem Ends.exists_resumed {s : Scan} {outcome : Except Violation Nat}
    (h : (earlier.resume (.behind before rest) s).Ends (before ++ rest) outcome) :
    ∃ outcome', s.Ends rest outcome' ∧
      outcome = endAfter earlier.count (.behind before rest) outcome' := by
  have hends : ∃ outcome', s.Ends rest outcome' := by
    cases hstep : s.step rest with
    | moved next notice =>
        have hmoved := step_resumed hoffset rest s
        rw [hstep] at hmoved
        exact absurd hmoved h.not_moved
    | finished => exact ⟨_, .finished hstep⟩
    | failed violation => exact ⟨_, .failed hstep⟩
  obtain ⟨outcome', hends⟩ := hends
  exact ⟨outcome', hends, h.unique (hends.resume hoffset)⟩

end Behind

end Scan

end PlotStream
