import PlotStream.Proofs.Running

/-!
How runs come to their end. Every step that does not end the parse costs effort, so a run consists
of finitely many steps, and the effort at its start is a bound on their number. It ends at the
machine where the next step finishes or fails, or where the listener refuses what is told. As far
as it goes, it follows the scan of the text.
-/

namespace PlotStream

namespace Machine

/-- So many steps lead from one machine to the other, and this is what they tell. -/
inductive Makes : Nat → Machine → List Notice → Machine → Prop where
  | nil (m : Machine) : Makes 0 m [] m
  | cons {n : Nat} {m next last : Machine} {notice : Option Notice} {told : List Notice}
      (h : m.step = .moved next notice) (hrest : Makes n next told last) :
      Makes (n + 1) m (notice.toList ++ told) last

theorem Makes.effort_le {n : Nat} {m last : Machine} {told : List Notice}
    (h : Makes n m told last) : n + last.effort ≤ m.effort := by
  induction h with
  | nil m => omega
  | cons hstep _ ih =>
      have hlt := effort_step_lt hstep
      omega

end Machine

/-- A run that ends at a machine: the next step finishes or fails, or it tells what the listener
refuses. -/
inductive Run.EndsAt (run : Run) (final : Machine) : Prop where
  | finished (hstep : final.step = .finished run.last)
      (houtcome : run.outcome = .ok run.last.count) : EndsAt run final
  | failed {fault : Fault} (hstep : final.step = .failed run.last fault)
      (houtcome : run.outcome = .error fault) : EndsAt run final
  | refused {notice : Notice} {listener : Listener} {fault : Fault}
      (hstep : final.step = .moved run.last (some notice))
      (hhear : listener.hear notice = (run.listener, some fault))
      (houtcome : run.outcome = .error fault) : EndsAt run final

/-- The machine that a step leads to or ends with. -/
def Step.machine : Step → Machine
  | .moved next _ => next
  | .finished last => last
  | .failed last _ => last

/-- A run is left where the step behind its end leads. -/
theorem Run.EndsAt.machine {run : Run} {final : Machine} (h : run.EndsAt final) :
    final.step.machine = run.last := by
  cases h with
  | finished hstep _ => rw [hstep, Step.machine]
  | failed hstep _ => rw [hstep, Step.machine]
  | refused hstep _ _ => rw [hstep, Step.machine]

/-- The notice that a run adds to the account when it comes to a good end. -/
def Run.closing (run : Run) : List Notice :=
  (run.outcome.toOption.map Notice.finished).toList

/-- Whoever listens, a run ends at a machine that is reached by finitely many steps, and the account
is what they tell, with a closing notice if the end is a good one. -/
theorem Machine.exists_end (m : Machine) (listener : Listener) (before : List Notice) :
    let run := m.runFrom listener before
    ∃ n told final, m.Makes n told final ∧ run.EndsAt final ∧
      run.trace = before.reverse ++ told ++ run.closing := by
  induction m, listener, before using runFrom.induct with
  | case1 m listener before next hstep ih =>
      obtain ⟨n, told, final, hmakes, hend, htrace⟩ := ih
      rw [runFrom_moved hstep]
      exact ⟨n + 1, told, final, .cons hstep hmakes, hend, htrace⟩
  | case2 m listener before next notice hstep after hhear ih =>
      obtain ⟨n, told, final, hmakes, hend, htrace⟩ := ih
      rw [runFrom_heard hstep hhear]
      refine ⟨n + 1, notice :: told, final, .cons hstep hmakes, hend, ?_⟩
      simpa using htrace
  | case3 m listener before next notice hstep after fault hhear =>
      rw [runFrom_refused hstep hhear]
      exact ⟨0, [], m, .nil m, .refused hstep hhear rfl, by simp [Run.closing, Except.toOption]⟩
  | case4 m listener before last hstep =>
      rw [runFrom_finished hstep]
      exact ⟨0, [], m, .nil m, .finished hstep rfl, by simp [Run.closing, Except.toOption]⟩
  | case5 m listener before last fault hstep =>
      rw [runFrom_failed hstep]
      exact ⟨0, [], m, .nil m, .failed hstep rfl, by simp [Run.closing, Except.toOption]⟩

namespace Machine

variable {text : List Char} {ending : Option ReadFailure} {s : Scan} {m m' last : Machine}

/-- The steps of a machine are steps of the scan that it follows. -/
theorem Follows.next_step (h : m.Follows text ending s) {told : Option Notice}
    (hmachine : m.step = .moved m' told) :
    ∃ s' notice, s.step text = .moved s' notice ∧ m'.Follows text ending s' := by
  have hstep := h.step
  rw [hmachine] at hstep
  generalize s.step text = move at hstep
  cases hstep with
  | moved hfollows _ => exact ⟨_, _, rfl, hfollows⟩

theorem Follows.makes (h : m.Follows text ending s) {n : Nat} {account : List Notice}
    (hmakes : m.Makes n account m') :
    ∃ told s', Scan.Path text s told s' ∧ m'.Follows text ending s' := by
  induction hmakes generalizing s with
  | nil m => exact ⟨[], s, .refl s, h⟩
  | cons hstep _ ih =>
      obtain ⟨middle, notice, hmove, hfollows⟩ := h.next_step hstep
      obtain ⟨told, s', hpath, hlast⟩ := ih hfollows
      exact ⟨_, s', .step hmove hpath, hlast⟩

theorem Follows.violated_step (h : m.Follows text ending s) {violation : Violation}
    (hmachine : m.step = .failed last (.violation violation)) :
    s.step text = .failed violation := by
  have hstep := h.step
  rw [hmachine] at hstep
  generalize s.step text = move at hstep
  cases hstep with
  | failed _ _ => rfl

end Machine

/-- The reader of an input that has a source. -/
theorem Input.reader_eq [Encoding.Registry] {input : Input} {options : Options}
    {source : Nat → Source} (hsource : input.source options.encoding = .ok source)
    (hsize : 0 < options.bufferSizeFor input) :
    input.reader options = .ok
      { source := source (options.bufferSizeFor input).toNat
        bufferSize := (options.bufferSizeFor input).toNat } := by
  simp only [Input.reader, hsource, Reader.ofSource, Int.not_le.mpr hsize, if_false, bind,
    Except.bind]

namespace Parser

variable {reader : Reader} {text : List Char} {ending : Option ReadFailure}

/-- Behind the first step, every machine of a parse follows a scan of the text. -/
theorem follows_of_makes (parser : Parser) (hloaded : reader.Loaded text ending 0)
    (hcapture : reader.Captures text none) {n : Nat} {account : List Notice} {m : Machine}
    (hmakes : (parser.start reader).Makes (n + 1) account m) :
    ∃ told s, Scan.Path text parser.scan told s ∧ m.Follows text ending s := by
  cases hmakes with
  | cons hmachine hrest =>
      rcases parser.first_step hloaded hcapture with
        ⟨first, told, hstep, _, hfirst⟩ | ⟨last, cause, hstep, _, _, _⟩
      · obtain ⟨rfl, rfl⟩ := Step.moved.inj (hstep.symm.trans hmachine)
        exact hfirst.makes hrest
      · cases hstep.symm.trans hmachine

/-- A parse that does not fail at the first step ends at a machine that follows a scan. -/
theorem exists_last_scan (parser : Parser) (hloaded : reader.Loaded text ending 0)
    (hcapture : reader.Captures text none) :
    let run := (parser.start reader).run parser.listener
    (∃ told s final, Scan.Path text parser.scan told s ∧ final.Follows text ending s ∧
        run.EndsAt final) ∨
      ∃ cause, ending = some cause ∧ run.outcome = .error (.source cause) := by
  intro run
  obtain ⟨n, account, final, hmakes, hend, _⟩ :=
    (parser.start reader).exists_end parser.listener []
  cases n with
  | succ n =>
      obtain ⟨told, s, hpath, hfollows⟩ := parser.follows_of_makes hloaded hcapture hmakes
      exact Or.inl ⟨told, s, final, hpath, hfollows, hend⟩
  | zero =>
      -- A run that ends at once has not got past the request for the first character.
      cases hmakes
      rcases parser.first_step hloaded hcapture with
        ⟨first, notice, hstep, hsilent, _⟩ | ⟨last, cause, hstep, _, hending, _⟩
      · cases hend with
        | finished hfinished _ => cases hstep.symm.trans hfinished
        | failed hfailed _ => cases hstep.symm.trans hfailed
        | @refused told listener fault hmoved hhear _ =>
            obtain ⟨_, rfl⟩ := Step.moved.inj (hstep.symm.trans hmoved)
            have hreading : told.aboutReading = true := by simpa using hsilent
            rw [listener.hear_aboutReading hreading] at hhear
            cases hhear
      · cases hend with
        | finished hfinished _ => cases hstep.symm.trans hfinished
        | refused hmoved _ _ => cases hstep.symm.trans hmoved
        | failed hfailed houtcome =>
            obtain ⟨_, rfl⟩ := Step.failed.inj (hstep.symm.trans hfailed)
            exact Or.inr ⟨cause, hending, houtcome⟩

end Parser

end PlotStream
