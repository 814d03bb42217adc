import Mathlib.Data.List.Forall2
import PlotStream.Proofs.Acceptance
import PlotStream.Proofs.Locations

/-!
The commands of a text tile it. Behind the first command each further one begins at the first
character that is not blank and reaches to its terminator, where the next one is looked for. Every
notice of an account belongs to one tile: a command is told at the end of its tile, a diagnostic is
about the start. Since whatever was told is explained by a drawing, this is shown of drawings; it
holds for every parse, also if the source fails or the listener refuses to go on.
-/

namespace PlotStream

/-- A stretch of the text that a command takes, from its code to behind its terminator. -/
structure Tile where
  start : Nat
  stop : Nat

/-- The tile begins with a visible character and ends with a terminator; behind the two characters
of the code there is no other terminator. -/
structure Tile.Holds (text : List Char) (tile : Tile) : Prop where
  long : tile.start + 2 < tile.stop
  visible : ∃ c, text[tile.start]? = some c ∧ Text.isBlank c = false
  terminated : text[tile.stop - 1]? = some ';'
  unbroken : ';' ∉ text.extract (tile.start + 2) (tile.stop - 1)

/-- The tiles lie in order between two offsets, with nothing but blanks in front of each. -/
inductive Tiles (text : List Char) : Nat → List Tile → Nat → Prop where
  | nil (offset : Nat) : Tiles text offset [] offset
  | cons {offset stop : Nat} {tile : Tile} {more : List Tile} (hle : offset ≤ tile.start)
      (hblank : ∀ c ∈ text.extract offset tile.start, Text.isBlank c = true)
      (htile : tile.Holds text) (hmore : Tiles text tile.stop more stop) :
      Tiles text offset (tile :: more) stop

/-- What is told of a tile: a command behind it, or at its start that its code is not supported. -/
inductive Tile.Tells (text : List Char) (tile : Tile) : Notice → Prop where
  | command (c : Command) : Tells text tile (.command c (.ofOffset text tile.stop))
  | unsupported :
      Tells text tile (.diagnostic (.unsupported (text.extract tile.start (tile.start + 2)))
        (.ofOffset text tile.start))

namespace Notice

/-- The commands and the diagnostics of an account, in order. -/
def placed (trace : List Notice) : List Notice :=
  trace.filter fun notice => notice.place?.isSome

theorem placed_told (trace : List Notice) : placed (told trace) = placed trace := by
  rw [placed, told, List.filter_filter]
  refine List.filter_congr fun notice _ => ?_
  cases notice <;> rfl

theorem placed_append (trace more : List Notice) :
    placed (trace ++ more) = placed trace ++ placed more :=
  List.filter_append trace more

theorem placed_congr {trace other : List Notice} (h : told trace = told other) :
    placed trace.reverse = placed other.reverse := by
  rw [placed, List.filter_reverse, ← placed, ← placed_told, h, placed_told, placed,
    ← List.filter_reverse, ← placed]

theorem commands_placed (trace : List Notice) : commands (placed trace) = commands trace := by
  rw [placed, commands_filter]
  exact List.filter_eq_self.mpr fun _ _ => rfl

theorem length_placed (trace : List Notice) :
    (placed trace).length = (commands trace).length + (diagnostics trace).length := by
  induction trace with
  | nil => rfl
  | cons notice more ih =>
      cases notice with
      | command c place =>
          change (placed more).length + 1 = (commands more).length + 1 + (diagnostics more).length
          omega
      | diagnostic d place =>
          change (placed more).length + 1 = (commands more).length + ((diagnostics more).length + 1)
          omega
      | _ => exact ih

end Notice

namespace Sentence

theorem terminator_notMem_gap (gap : Gap) : ';' ∉ gap.text := by
  intro hmem
  exact absurd (gap.blank _ hmem) (by decide)

theorem terminator_notMem_number (n : Number) : ';' ∉ n.text := by
  intro hmem
  rcases List.mem_append.mp hmem with hsign | hdigit
  · cases hnegative : n.negative <;> simp [hnegative, Literal.sign] at hsign
  · exact absurd (n.decimal _ hdigit) (by decide)

/-- A sentence is its code, something without a terminator, and the terminator. -/
theorem exists_body (sentence : Sentence) :
    ∃ a b body, sentence.text = [a, b] ++ body ++ [';'] ∧ Text.isBlank a = false ∧ ';' ∉ body := by
  cases sentence with
  | plain verb gap =>
      have hgap := terminator_notMem_gap gap
      cases verb with
      | init => exact ⟨'I', 'N', gap.text, rfl, by decide, hgap⟩
      | penDown => exact ⟨'P', 'D', gap.text, rfl, by decide, hgap⟩
      | penUp => exact ⟨'P', 'U', gap.text, rfl, by decide, hgap⟩
  | resetPen gap => exact ⟨'S', 'P', gap.text, rfl, by decide, terminator_notMem_gap gap⟩
  | selectPen before pen after =>
      refine ⟨'S', 'P', before.text ++ pen.text ++ after.text, by simp [text], by decide, ?_⟩
      simp [terminator_notMem_gap, terminator_notMem_number]
  | plotAbsolute before x between behind y after =>
      refine ⟨'P', 'A', before.text ++ x.text ++ between.text ++ [','] ++ behind.text ++ y.text ++
        after.text, by simp [text], by decide, ?_⟩
      simp [terminator_notMem_gap, terminator_notMem_number]
  | foreign other =>
      exact ⟨other.first, other.second, other.body, rfl, other.visible, other.unclosed⟩

/-- The tiles of sentences that begin at an offset. -/
def tilesFrom : Nat → List (Gap × Sentence) → List Tile
  | _, [] => []
  | offset, (gap, sentence) :: more =>
    ⟨offset + gap.text.length, offset + gap.text.length + sentence.text.length⟩ ::
      tilesFrom (offset + gap.text.length + sentence.text.length) more

theorem length_tilesFrom (offset : Nat) (sentences : List (Gap × Sentence)) :
    (tilesFrom offset sentences).length = sentences.length := by
  induction sentences generalizing offset with
  | nil => rfl
  | cons entry more ih => exact congrArg (· + 1) (ih _)

variable {whole before rest : List Char}

theorem holds (sentence : Sentence) (h : whole = before ++ sentence.text ++ rest) :
    Tile.Holds whole ⟨before.length, before.length + sentence.text.length⟩ := by
  obtain ⟨a, b, body, htext, hvisible, hbody⟩ := sentence.exists_body
  have hlength : sentence.text.length = body.length + 3 := by
    simp only [htext, List.length_append, List.length_cons, List.length_nil]
    omega
  have hwhole : whole = before ++ a :: b :: (body ++ ';' :: rest) := by
    simp [h, htext]
  have hstart : before ++ a :: b :: (body ++ ';' :: rest) =
      (before ++ [a, b]) ++ (body ++ ';' :: rest) := by simp
  have hstop : before ++ a :: b :: (body ++ ';' :: rest) =
      (before ++ [a, b] ++ body) ++ (';' :: rest) := by simp
  have hbegin : before.length + 2 = (before ++ [a, b]).length := by simp
  have hend : before.length + sentence.text.length - 1 = (before ++ [a, b] ++ body).length := by
    simp only [hlength, List.length_append, List.length_cons, List.length_nil]
    omega
  refine ⟨?_, ⟨a, ?_, hvisible⟩, ?_, ?_⟩
  · dsimp only
    omega
  · rw [hwhole, List.getElem?_append_right (Nat.le_refl _), Nat.sub_self]
    rfl
  · rw [hend, hwhole, hstop, List.getElem?_append_right (Nat.le_refl _), Nat.sub_self]
    rfl
  · have hbetween : whole.extract (before.length + 2)
        (before.length + sentence.text.length - 1) = body := by
      rw [List.extract_eq_take_drop, hend, hbegin, hwhole, hstart, List.drop_left,
        List.length_append, Nat.add_sub_cancel_left, List.take_left]
    rwa [hbetween]

/-- A notice of a sentence tells of its tile. -/
theorem tells (sentence : Sentence) (h : whole = before ++ sentence.text ++ rest) :
    Tile.Tells whole ⟨before.length, before.length + sentence.text.length⟩
      (sentence.notice whole before.length) := by
  rw [notice]
  cases hmeaning : sentence.meaning with
  | ok c => exact .command c
  | error d =>
      cases sentence with
      | foreign other =>
          obtain rfl := Except.error.inj hmeaning
          have hcode : whole.extract before.length (before.length + 2) = other.code := by
            rw [List.extract_eq_take_drop, h, List.append_assoc, List.drop_left,
              Nat.add_sub_cancel_left]
            rfl
          rw [← hcode]
          exact .unsupported
      | _ => cases hmeaning

/-- Sentences tile their text, and what is told of them tells of the tiles. -/
theorem tiles (sentences : List (Gap × Sentence))
    (h : whole = before ++ textOf sentences ++ rest) :
    Tiles whole before.length (tilesFrom before.length sentences)
        (before.length + (textOf sentences).length) ∧
      List.Forall₂ (Tile.Tells whole) (tilesFrom before.length sentences)
        (toldFrom whole before.length sentences) := by
  induction sentences generalizing before with
  | nil => exact ⟨.nil _, .nil⟩
  | cons entry more ih =>
      obtain ⟨gap, sentence⟩ := entry
      have htext : textOf ((gap, sentence) :: more) =
        gap.text ++ sentence.text ++ textOf more := rfl
      have hsentence : whole = (before ++ gap.text) ++ sentence.text ++ (textOf more ++ rest) := by
        rw [h, htext]
        simp
      have hmore : whole = (before ++ gap.text ++ sentence.text) ++ textOf more ++ rest := by
        rw [h, htext]
        simp
      obtain ⟨htiles, htold⟩ := ih hmore
      have hholds := sentence.holds hsentence
      have htells := sentence.tells hsentence
      have hgap : whole.extract before.length (before.length + gap.text.length) = gap.text := by
        rw [List.extract_eq_take_drop, hsentence]
        simp
      simp only [List.length_append] at htiles htold hholds htells
      rw [htext, tilesFrom, toldFrom, List.length_append, List.length_append, ← Nat.add_assoc,
        ← Nat.add_assoc]
      refine ⟨.cons (Nat.le_add_right _ _) ?_ hholds htiles, .cons htells htold⟩
      rw [hgap]
      exact gap.blank

end Sentence

/-- Whoever listens and however the source ends, a run tells what a path of its scan tells. It comes
to a good end only where the path does. -/
theorem Machine.Follows.run_placed_told {text : List Char} {ending : Option ReadFailure} {s : Scan}
    {m : Machine} (h : m.Follows text ending s) (listener : Listener) (before : List Notice) :
    ∃ told last, Scan.Path text s told last ∧
      Notice.placed (m.runFrom listener before).trace =
        Notice.placed before.reverse ++ Notice.placed told ∧
      ∀ n, (m.runFrom listener before).outcome = .ok n →
        last.step text = .finished ∧ n = last.count := by
  induction heffort : m.effort using Nat.strongRecOn generalizing s m listener before with
  | ind effort ih =>
      have hstep := h.step
      generalize hmove : s.step text = move at hstep
      generalize hmachine : m.step = step at hstep
      cases hstep with
      | @moved next next' notice notice' hnext hnotice =>
          have hlt := heffort ▸ Machine.effort_step_lt hmachine
          cases notice with
          | none =>
              obtain ⟨more, hmore, hrun⟩ := runFrom_silent hmachine hnotice listener before
              obtain ⟨told, last, hpath, htold, hend⟩ := ih _ hlt hnext listener more rfl
              rw [Notice.placed_congr hmore] at htold
              rw [hrun]
              exact ⟨told, last, .step hmove hpath, htold, hend⟩
          | some noticed =>
              obtain ⟨rfl, _⟩ := Option.filter_eq_some_iff.mp hnotice
              rcases hhear : listener.hear noticed with ⟨after, refusal⟩
              cases refusal with
              | none =>
                  rw [runFrom_heard hmachine hhear]
                  obtain ⟨told, last, hpath, htold, hend⟩ :=
                    ih _ hlt hnext after (noticed :: before) rfl
                  refine ⟨noticed :: told, last, .step hmove hpath, ?_, hend⟩
                  rw [htold, List.reverse_cons, Notice.placed_append, List.append_assoc,
                    ← Notice.placed_append, List.singleton_append]
              | some fault =>
                  rw [runFrom_refused hmachine hhear]
                  exact ⟨[], s, .refl s, (List.append_nil _).symm, by simp⟩
      | broken _ _ _ _ =>
          rw [runFrom_failed hmachine]
          exact ⟨[], s, .refl s, (List.append_nil _).symm, by simp⟩
      | @finished last hlast _ =>
          rw [runFrom_finished hmachine]
          refine ⟨[], s, .refl s, ?_, ?_⟩
          · rw [List.reverse_cons, Notice.placed_append]
            rfl
          · intro n hn
            exact ⟨hmove, (Except.ok.inj hn).symm.trans hlast.count⟩
      | failed _ _ =>
          rw [runFrom_failed hmachine]
          exact ⟨[], s, .refl s, (List.append_nil _).symm, by simp⟩

/-- Once a command has been told, what was told is that of a drawing, and a parse comes to a good
end only behind it. -/
theorem Scan.Explained.exists_drawing {text : List Char} {s : Scan} {told : List Notice}
    (h : s.Explained text told) (hcommands : Notice.commands told ≠ []) :
    ∃ (d : Drawing) (rest : List Char), text = d.text ++ rest ∧ told = d.toldIn text ∧
      (s.step text = .finished → rest = [] ∧ s.count = d.sentences.length) := by
  by_cases hfinished : s.step text = .finished
  · rcases h.finished hfinished with ⟨_, _, rfl⟩ | ⟨d, rfl, hcount, rfl⟩
    · exact absurd rfl hcommands
    · exact ⟨d, [], (List.append_nil _).symm, rfl, fun _ => ⟨rfl, hcount⟩⟩
  · cases h with
    | between _ hsplits _ =>
        exact ⟨_, _, hsplits.whole, rfl, fun hother => absurd hother hfinished⟩
    | within _ hsplits _ =>
        have hwhole := hsplits.whole
        rw [List.append_assoc] at hwhole
        exact ⟨_, _, hwhole, rfl, fun hother => absurd hother hfinished⟩
    | _ => exact absurd rfl hcommands

theorem Sentence.placed_toldFrom (text : List Char) (offset : Nat)
    (sentences : List (Gap × Sentence)) :
    Notice.placed (toldFrom text offset sentences) = toldFrom text offset sentences := by
  induction sentences generalizing offset with
  | nil => rfl
  | cons entry more ih =>
      obtain ⟨gap, sentence⟩ := entry
      rw [toldFrom, Notice.placed, List.filter_cons_of_pos, ← Notice.placed, ih]
      rw [notice]
      cases sentence.meaning <;> rfl

theorem Drawing.placed_toldIn (text : List Char) (d : Drawing) :
    Notice.placed (d.toldIn text) = d.toldIn text :=
  congrArg (Notice.command .init (.ofOffset text d.head.length) :: ·)
    (Sentence.placed_toldFrom text d.head.length d.sentences)

namespace Parser

/-- What a parse tells is told on a path of its text. -/
theorem exists_path_told [Encoding.Registry] (parser : Parser) {text : List Char}
    {ending : Option ReadFailure} {input : Input} {options : Options} {source : Nat → Source}
    (hsource : input.source options.encoding = .ok source)
    (hgives : (source (options.bufferSizeFor input).toNat).Gives text ending)
    (hsize : 0 < options.bufferSizeFor input) :
    ∃ told last, Scan.Path text parser.scan told last ∧
      Notice.placed (parser.parse input options).trace = Notice.placed told ∧
      ∀ n, (parser.parse input options).outcome = .ok n →
        last.step text = .finished ∧ n = last.count := by
  obtain ⟨reader, hreader, hloaded, hcapture⟩ := Input.reader_of_source hsource hgives hsize
  rw [parser.parse_of_reader hreader, Machine.run]
  rcases parser.first_step hloaded hcapture with
    ⟨next, notice, hstep, hsilent, hnext⟩ | ⟨last, cause, hstep, _⟩
  · obtain ⟨more, hmore, hrun⟩ := Machine.runFrom_silent hstep hsilent parser.listener []
    have hfollows := hnext.run_placed_told parser.listener more
    rw [Notice.placed_congr hmore, ← hrun] at hfollows
    exact hfollows
  · rw [Machine.runFrom_failed hstep]
    exact ⟨[], parser.scan, .refl _, rfl, by simp [Report.ofRun]⟩

/-- The commands behind the first one tile the text. Whoever listens and however the source ends, an
account that has a command begins with the first one, told behind its terminator; from there on
there is a notice for each tile. A parse that comes to a good end leaves nothing but blanks behind
the last tile, and its result is the number of tiles. -/
theorem parse_tiles [Encoding.Registry] (parser : Parser) {text : List Char}
    {ending : Option ReadFailure} {input : Input} {options : Options} {source : Nat → Source}
    (hsource : input.source options.encoding = .ok source)
    (hgives : (source (options.bufferSizeFor input).toNat).Gives text ending)
    (hsize : 0 < options.bufferSizeFor input)
    (hcommands : Notice.commands (parser.parse input options).trace ≠ []) :
    let report := parser.parse input options
    ∃ (first : Nat) (tiles : List Tile) (stop : Nat) (notices : List Notice),
      Notice.placed report.trace = .command .init (.ofOffset text first) :: notices ∧
        0 < first ∧ text[first - 1]? = some ';' ∧
        Tiles text first tiles stop ∧ List.Forall₂ (Tile.Tells text) tiles notices ∧
        ∀ n, report.outcome = .ok n →
          (∀ c ∈ text.drop stop, Text.isBlank c = true) ∧ n = tiles.length ∧
            n = (Notice.commands report.trace).length - 1 +
              (Notice.diagnostics report.trace).length := by
  intro report
  obtain ⟨told, last, hpath, htold, hend⟩ := parser.exists_path_told hsource hgives hsize
  have hpos : 0 < (Notice.commands report.trace).length := List.length_pos_iff.mpr hcommands
  rw [← Notice.commands_placed, htold, Notice.commands_placed] at hcommands
  obtain ⟨d, rest, rfl, rfl, hfinished⟩ :=
    (hpath.explained rfl rfl rfl).exists_drawing hcommands
  rw [d.placed_toldIn] at htold
  have hwhole : d.text ++ rest =
      d.head ++ Sentence.textOf d.sentences ++ (d.closing.text ++ rest) := by
    simp [Drawing.text]
  obtain ⟨htiles, htells⟩ := Sentence.tiles d.sentences hwhole
  refine ⟨d.head.length, _, _, _, htold, ?_, ?_, htiles, htells, ?_⟩
  · simp [Drawing.head]
  · simp [Drawing.text, Drawing.head]
  · intro n hn
    obtain ⟨hlast, rfl⟩ := hend n hn
    obtain ⟨rfl, hcount⟩ := hfinished hlast
    have hlength : (Notice.placed report.trace).length = _ := Notice.length_placed report.trace
    have hnotices := htells.length_eq
    rw [htold, Drawing.toldIn, List.length_cons] at hlength
    rw [Sentence.length_tilesFrom] at hnotices ⊢
    refine ⟨?_, hcount, ?_⟩
    · intro c hc
      rw [← List.length_append, hwhole, List.drop_left, List.append_nil] at hc
      exact d.closing.blank c hc
    · omega

/-- A command and one that is not supported, whose code has a terminator in it. -/
theorem parse_tiles_terminator :
    let pieces := [['I', 'N', ';', ' ', 'P'], ['U', ';', 'X', ';', 'Y', ';', '\n']]
    let input := Input.chunks (pieces.map .text ++ [])
    let options : Options := { bufferSize := some 4 }
    let report := Parser.parse {} input options
    input.Carries pieces.flatten (options.bufferSizeFor input) ∧
      0 < options.bufferSizeFor input ∧ Notice.commands report.trace ≠ [] ∧
      report.outcome = .ok 2 ∧
      ∃ (first : Nat) (tiles : List Tile) (stop : Nat) (notices : List Notice),
        Notice.placed report.trace = .command .init (.ofOffset pieces.flatten first) :: notices ∧
          Tiles pieces.flatten first tiles stop ∧ tiles.length = 2 ∧
          List.Forall₂ (Tile.Tells pieces.flatten) tiles notices := by
  intro pieces input options report
  have hcarries : input.Carries pieces.flatten (options.bufferSizeFor input) :=
    .chunks (by decide) rfl (Or.inl rfl)
  have hsize : 0 < options.bufferSizeFor input := by decide
  let blank : Gap := Gap.empty.snoc ' ' (by decide)
  let other : Foreign := ⟨'X', ';', ['Y'], by decide, by decide, by decide⟩
  let d : Drawing :=
    { preamble := []
      first := fun hinit => absurd hinit.length_le (by decide)
      opening := .empty
      sentences := [(blank, .plain .penUp .empty), (.empty, .foreign other)]
      closing := Gap.empty.snoc '\n' (by decide) }
  have hdrawing := Parser.arrives_drawing {} d []
  rw [List.append_nil] at hdrawing
  obtain ⟨last, hpath, hend⟩ := hdrawing.finish
  have hshows : report.Shows (d.toldIn d.text) last (.ok 2) :=
    parse_shows rfl hcarries hsize hpath hend
  have hok : report.outcome = .ok 2 := hshows.outcome_ok.mpr rfl
  have hcommands : Notice.commands report.trace ≠ [] := by
    rw [hshows.commands]
    exact List.cons_ne_nil _ _
  obtain ⟨source, hsource, hgives⟩ := hcarries.source options.encoding
  obtain ⟨first, tiles, stop, notices, hplaced, _, _, htiles, htells, hresult⟩ :=
    parse_tiles {} hsource hgives hsize hcommands
  exact ⟨hcarries, hsize, hcommands, hok, first, tiles, stop, notices, hplaced, htiles,
    (hresult 2 hok).2.1.symm, htells⟩

end Parser

end PlotStream
