import PlotStream.Proofs.RunEnds

/-!
What a parse asks its source for. A source yields chunks, and then the end of the text or a failure.
A run asks for them one by one and tells of each; a step makes at most one request, and it is only
in the loading of a character that one is made. So the notices about reading are known from the
chunks of the source and the number of requests, whatever the text says and whoever listens.
-/

namespace PlotStream

/-- The chunks that a source gives when it is asked again and again, and the failure that ends them
if one does. -/
inductive Source.Yields : Source → List (List Char) → Option ReadFailure → Prop where
  | ended {source : Source} (h : source.next.1 = .text []) : Yields source [] none
  | broken {source : Source} {cause : ReadFailure} (h : source.next.1 = .failure cause) :
      Yields source [] (some cause)
  | chunk {source : Source} {c : Char} {cs : List Char} {chunks : List (List Char)}
      {ending : Option ReadFailure} (h : source.next.1 = .text (c :: cs))
      (hrest : Yields source.next.2 chunks ending) : Yields source ((c :: cs) :: chunks) ending

/-- The chunks are the text, cut into pieces. -/
theorem Source.Yields.gives {source : Source} {chunks : List (List Char)}
    {ending : Option ReadFailure} (h : source.Yields chunks ending) :
    source.Gives chunks.flatten ending := by
  induction h with
  | ended h => exact .ended h
  | broken h => exact .broken h
  | chunk h _ ih => exact .chunk h ih

/-- Every source yields something. -/
theorem Source.exists_yields (source : Source) : ∃ chunks ending, source.Yields chunks ending := by
  obtain ⟨pending, fault⟩ := source
  induction pending with
  | nil =>
      cases fault with
      | none => exact ⟨[], none, .ended rfl⟩
      | some cause => exact ⟨[], some cause, .broken rfl⟩
  | cons reply rest ih =>
      obtain ⟨chunks, ending, hrest⟩ := ih
      match reply with
      | .text [] => exact ⟨[], none, .ended rfl⟩
      | .text (c :: cs) => exact ⟨(c :: cs) :: chunks, ending, .chunk rfl hrest⟩
      | .failure cause => exact ⟨[], some cause, .broken rfl⟩

namespace Notice

/-- The notices about chunks that follow one another from an offset on. -/
def refills : Nat → List (List Char) → List Notice
  | _, [] => []
  | offset, chunk :: more => .refilled chunk.length offset :: refills (offset + chunk.length) more

theorem refills_concat (offset : Nat) (chunks : List (List Char)) (chunk : List Char) :
    refills offset (chunks ++ [chunk]) =
      refills offset chunks ++ [.refilled chunk.length (offset + chunks.flatten.length)] := by
  induction chunks generalizing offset with
  | nil => rfl
  | cons first more ih => simp [refills, ih, Nat.add_assoc]

/-- What there is to tell of reading after so many requests to a source. -/
def readingsOf (chunks : List (List Char)) (ending : Option ReadFailure) (requests : Nat) :
    List Notice :=
  refills 0 (chunks.take requests) ++
    if requests = chunks.length + 1 ∧ ending = none then [.endOfText chunks.flatten.length] else []

/-- The part of an account that is about the reading of chunks. -/
def readings (trace : List Notice) : List Notice :=
  trace.filter aboutReading

@[simp]
theorem readings_append (trace more : List Notice) :
    readings (trace ++ more) = readings trace ++ readings more :=
  List.filter_append ..

/-- Whether a notice is about what the text says. -/
def aboutText : Notice → Bool
  | .command _ _ => true
  | .diagnostic _ _ => true
  | _ => false

theorem aboutReading_of_aboutText {notice : Notice} (h : notice.aboutText = true) :
    notice.aboutReading = false := by
  cases notice <;> first | rfl | cases h

end Notice

namespace Reader

variable {r r' : Reader} {chunks : List (List Char)} {ending : Option ReadFailure}
  {told : List Notice}

/-- The readers have asked for the same and hold the same chunk. -/
structure SameChunk (r r' : Reader) : Prop where
  source : r'.source = r.source
  asked : r'.asked = r.asked
  exhausted : r'.exhausted = r.exhausted
  buffer : r'.buffer = r.buffer
  bufferOffset : r'.bufferOffset = r.bufferOffset

theorem SameChunk.refl (r : Reader) : r.SameChunk r := ⟨rfl, rfl, rfl, rfl, rfl⟩

theorem SameChunk.requests (h : r.SameChunk r') : r'.requests = r.requests :=
  congrArg List.length h.asked

theorem sameChunk_startCapture (r : Reader) : r.SameChunk r.startCapture :=
  ⟨rfl, rfl, rfl, rfl, rfl⟩

theorem sameChunk_endCapture (r : Reader) : r.SameChunk r.endCapture.2 :=
  ⟨rfl, rfl, rfl, rfl, rfl⟩

theorem sameChunk_load (r : Reader) : r.SameChunk r.load := by
  unfold load
  split
  · dsimp only
    split <;> exact ⟨rfl, rfl, rfl, rfl, rfl⟩
  · exact .refl r

/-- A reader that has asked for the first chunks, or for all of them and the end as well, together
with what there is to tell of that. -/
inductive Asked (chunks : List (List Char)) (ending : Option ReadFailure) (r : Reader) :
    List Notice → Prop where
  | chunks {seen left : List (List Char)} (hchunks : chunks = seen ++ left)
      (hrequests : r.requests = seen.length) (hrunning : r.exhausted = false)
      (hoffset : r.bufferOffset + r.buffer.size = seen.flatten.length)
      (hsource : r.source.Yields left ending) : Asked chunks ending r (Notice.refills 0 seen)
  | ended (hending : ending = none) (hrequests : r.requests = chunks.length + 1)
      (hexhausted : r.exhausted = true) :
      Asked chunks ending r (Notice.refills 0 chunks ++ [.endOfText chunks.flatten.length])

theorem asked_nil {source : Source} (h : source.Yields chunks ending) (size : Nat) :
    Asked chunks ending { source, bufferSize := size } [] := by
  have hnone : chunks = [] ++ chunks := rfl
  exact .chunks hnone rfl rfl rfl h

theorem Asked.congr (h : r.Asked chunks ending told) (hsame : r.SameChunk r') :
    r'.Asked chunks ending told := by
  cases h with
  | chunks hchunks hrequests hrunning hoffset hsource =>
      refine .chunks hchunks ?_ ?_ ?_ ?_
      · rw [hsame.requests, hrequests]
      · rw [hsame.exhausted, hrunning]
      · rw [hsame.bufferOffset, hsame.buffer, hoffset]
      · rw [hsame.source]
        exact hsource
  | ended hending hrequests hexhausted =>
      refine .ended hending ?_ ?_
      · rw [hsame.requests, hrequests]
      · rw [hsame.exhausted, hexhausted]

theorem Asked.eq_readingsOf (h : r.Asked chunks ending told) :
    told = Notice.readingsOf chunks ending r.requests := by
  cases h with
  | @chunks seen left hchunks hrequests _ _ _ =>
      have hfew : ¬ (seen.length = chunks.length + 1 ∧ ending = none) := by
        rw [hchunks, List.length_append]
        omega
      rw [Notice.readingsOf, hrequests, if_neg hfew, List.append_nil, hchunks, List.take_left]
  | ended hending hrequests _ =>
      rw [Notice.readingsOf, hrequests, if_pos ⟨rfl, hending⟩, List.take_of_length_le (by omega)]

/-- What a request has to tell is what is told next, unless the request fails; then it came when all
chunks had been asked for. -/
theorem Asked.advance (h : r.Asked chunks ending told) :
    (r.advance.2.bind Intake.failure? = none ∧
        r.advance.1.Asked chunks ending (told ++ (r.advance.2.bind Intake.notice?).toList)) ∨
      ∃ cause, r.advance.2.bind Intake.failure? = some cause ∧ ending = some cause ∧
        r.advance.1.requests = chunks.length + 1 ∧ told = Notice.refills 0 chunks := by
  cases h with
  | ended hending hrequests hexhausted =>
      have hidle : r.advance = (r, none) := by simp [Reader.advance, hexhausted]
      rw [hidle]
      refine Or.inl ⟨rfl, ?_⟩
      simpa using Asked.ended hending hrequests hexhausted
  | @chunks seen left hchunks hrequests hrunning hoffset hsource =>
      unfold Reader.advance
      rw [if_neg (by simp [hrunning])]
      split
      · refine Or.inl ⟨rfl, ?_⟩
        have hloaded := (Asked.chunks hchunks hrequests hrunning hoffset hsource).congr
          (sameChunk_load r)
        simpa using hloaded
      · cases hsource with
        | ended hreply =>
            rw [List.append_nil] at hchunks
            subst hchunks
            refine Or.inl ⟨by simp [refill, hreply, receive, Intake.failure?], ?_⟩
            have htold : r.refill.2.notice? = some (.endOfText chunks.flatten.length) := by
              simp [refill, hreply, receive, Intake.notice?, hoffset]
            simp only [Option.bind_some, htold, Option.toList_some]
            refine .ended rfl ?_ ?_
            · simp [refill, hreply, receive, settle, requests, ← hrequests]
            · simp [refill, hreply, receive, settle]
        | broken hreply =>
            rw [List.append_nil] at hchunks
            subst hchunks
            refine Or.inr ⟨_, by simp [refill, hreply, receive, Intake.failure?], rfl, ?_, rfl⟩
            simp [refill, hreply, receive, settle, requests, ← hrequests]
        | @chunk _ c cs left _ hreply hrest =>
            refine Or.inl ⟨by simp [refill, hreply, receive, Intake.failure?], ?_⟩
            have htold : r.refill.2.notice? =
                some (.refilled (c :: cs).length (0 + seen.flatten.length)) := by
              simp [refill, hreply, receive, Intake.notice?, hoffset]
            have hsettle : r.refill.1.settle r.refill.2 = r.refill.1.load := by
              simp [refill, hreply, receive, settle]
            simp only [Option.bind_some, htold, Option.toList_some, ← Notice.refills_concat,
              hsettle]
            refine Asked.congr (.chunks (by simpa using hchunks) ?_ ?_ ?_ ?_) (sameChunk_load _)
            · simp [refill, hreply, receive, requests, ← hrequests]
            · simp [refill, hreply, receive, hrunning]
            · simp [refill, hreply, receive, hoffset]
            · simpa [refill, hreply, receive] using hrest

end Reader

/-- What a step has to do with the reader that it starts with: it leaves the chunk alone and tells
of the text at most, or it loads one character and tells of the request, if that makes one. -/
inductive Step.Asks (r : Reader) : Step → Prop where
  | kept {next : Machine} {notice : Option Notice} (hsame : r.SameChunk next.reader)
      (habout : ∀ told ∈ notice, told.aboutText = true) : Asks r (.moved next notice)
  | loaded {next : Machine} {r' : Reader} (hsame : r.SameChunk r')
      (hfine : r'.advance.2.bind Intake.failure? = none) (hreader : next.reader = r'.advance.1) :
      Asks r (.moved next (r'.advance.2.bind Intake.notice?))
  | finished {last : Machine} (hsame : r.SameChunk last.reader) : Asks r (.finished last)
  | failed {last : Machine} {fault : Fault} (hsame : r.SameChunk last.reader) :
      Asks r (.failed last fault)
  | broken {last : Machine} {r' : Reader} {cause : ReadFailure} (hsame : r.SameChunk r')
      (hfailure : r'.advance.2.bind Intake.failure? = some cause)
      (hreader : last.reader = r'.advance.1) : Asks r (.failed last (.source cause))

namespace Machine

variable {m : Machine} {r : Reader}

theorem advance_asks (hsame : r.SameChunk m.reader) (phase : Phase) :
    (m.advance phase).Asks r := by
  unfold advance
  dsimp only
  split
  next hfailure => exact .broken hsame hfailure rfl
  next hfine => exact .loaded hsame hfine rfl

theorem become_asks (hsame : r.SameChunk m.reader) (phase : Phase) :
    (m.become phase).Asks r := .kept hsame (by simp)

theorem tell_asks (hsame : r.SameChunk m.reader) {notice : Notice}
    (habout : notice.aboutText = true) : (m.tell notice).Asks r :=
  .kept hsame (by simpa using habout)

theorem afterBlanks_asks (m : Machine) (due : Due) : (m.afterBlanks due).Asks m.reader := by
  have hsame := Reader.SameChunk.refl m.reader
  have hstarted := m.reader.sameChunk_startCapture
  cases due with
  | opcode =>
      rw [afterBlanks]
      split
      · exact .finished hsame
      · exact advance_asks hstarted _
  | terminator c =>
      rw [afterBlanks]
      split
      · exact advance_asks hsame _
      · exact .failed hsame
  | optionalPen =>
      rw [afterBlanks]
      split
      · exact become_asks hsame _
      · exact become_asks hsame _
  | integer slot =>
      rw [afterBlanks]
      split
      · exact advance_asks hstarted _
      · exact become_asks hstarted _
  | separator x =>
      rw [afterBlanks]
      split
      · exact advance_asks hsame _
      · exact .failed hsame

theorem step_asks (m : Machine) : m.step.Asks m.reader := by
  have hsame := Reader.SameChunk.refl m.reader
  have hended := m.reader.sameChunk_endCapture
  rw [step]
  cases m.phase with
  | preamble previous =>
      dsimp only
      split
      · exact advance_asks hsame _
      split
      · exact tell_asks hsame rfl
      · exact advance_asks hsame _
  | blanks due =>
      dsimp only
      split
      · exact advance_asks hsame _
      · exact m.afterBlanks_asks due
  | secondLetter start => exact advance_asks hsame _
  | dispatch start => exact become_asks hended _
  | leadingDigit slot start =>
      dsimp only
      split
      · exact advance_asks hsame _
      · split
        · exact advance_asks hsame _
        · exact .failed hsame
      · exact .failed hsame
  | digits slot start count =>
      dsimp only
      split
      · exact .failed hended
      split
      · exact advance_asks hsame _
      · exact become_asks hsame _
  | literal slot start =>
      dsimp only [closeLiteral]
      split
      · exact become_asks hended _
      · exact .failed hended
  | closing c => exact tell_asks hsame rfl
  | skipping code start =>
      dsimp only
      split
      · exact advance_asks hsame _
      split
      · exact .failed hsame
      · exact advance_asks hsame _
  | skipped code start => exact tell_asks hsame rfl

end Machine

namespace Step.Asks

variable {r : Reader} {chunks : List (List Char)} {ending : Option ReadFailure}
  {before : List Notice} {next : Machine} {notice : Option Notice}

/-- What a step tells is about the text or about reading. -/
theorem about (h : Step.Asks r (.moved next notice)) :
    ∀ told ∈ notice, told.aboutText = true ∨ told.aboutReading = true := by
  cases h with
  | kept _ habout => exact fun told htold => Or.inl (habout told htold)
  | @loaded _ r' _ _ _ =>
      intro told htold
      have hreading := Intake.notice?_aboutReading r'.advance.2
      rw [Option.filter_eq_none_iff] at hreading
      exact Or.inr (by simpa using hreading told htold)

theorem asked (h : Step.Asks r (.moved next notice)) (hasked : r.Asked chunks ending before) :
    next.reader.Asked chunks ending (before ++ Notice.readings notice.toList) := by
  cases h with
  | kept hsame habout =>
      have hnone : Notice.readings notice.toList = [] := by
        rw [Notice.readings, List.filter_eq_nil_iff]
        intro told htold
        simp [Notice.aboutReading_of_aboutText (habout told (by simpa using htold))]
      rw [hnone, List.append_nil]
      exact hasked.congr hsame
  | @loaded _ r' hsame hfine hreader =>
      have hall : Notice.readings (r'.advance.2.bind Intake.notice?).toList =
          (r'.advance.2.bind Intake.notice?).toList := by
        rcases r'.advance.2 with _ | ⟨_, _⟩ | _ | _ <;> rfl
      rw [hall, hreader]
      rcases (hasked.congr hsame).advance with ⟨_, hnext⟩ | ⟨cause, hfailure, _⟩
      · exact hnext
      · cases hfine.symm.trans hfailure

end Step.Asks

namespace Machine.Makes

variable {m last : Machine} {n : Nat} {told before : List Notice} {chunks : List (List Char)}
  {ending : Option ReadFailure}

theorem about (h : m.Makes n told last) :
    ∀ notice ∈ told, notice.aboutText = true ∨ notice.aboutReading = true := by
  induction h with
  | nil _ => simp
  | @cons _ m _ _ _ _ hstep _ ih =>
      have hasks := hstep ▸ m.step_asks
      intro notice hmem
      rcases List.mem_append.mp hmem with hfirst | hlater
      · exact hasks.about notice (by simpa using hfirst)
      · exact ih notice hlater

theorem asked (h : m.Makes n told last) (hasked : m.reader.Asked chunks ending before) :
    last.reader.Asked chunks ending (before ++ Notice.readings told) := by
  induction h generalizing before with
  | nil _ => simpa [Notice.readings] using hasked
  | @cons _ m _ _ _ _ hstep _ ih =>
      have hasks := hstep ▸ m.step_asks
      rw [Notice.readings_append, ← List.append_assoc]
      exact ih (hasks.asked hasked)

end Machine.Makes

/-- Where a run ends, all has been told of what was asked for on the way, unless a request fails;
the notice that a listener refuses is never one about reading. -/
theorem Run.EndsAt.readings_eq {run : Run} {final : Machine} (h : run.EndsAt final)
    {chunks : List (List Char)} {ending : Option ReadFailure} {told : List Notice}
    (hasked : final.reader.Asked chunks ending told) :
    told = Notice.readingsOf chunks ending run.last.reader.requests := by
  have hasks := final.step_asks
  cases h with
  | finished hstep _ =>
      rw [hstep] at hasks
      cases hasks with
      | finished hsame => exact (hasked.congr hsame).eq_readingsOf
  | @refused notice listener _ hstep hhear _ =>
      rw [hstep] at hasks
      have hlast := hasks.asked hasked
      have hnone : ¬ notice.aboutReading = true := fun hreading => by
        cases hhear.symm.trans (listener.hear_aboutReading hreading)
      have hsilent : Notice.readings [notice] = [] := by simp [Notice.readings, hnone]
      rw [Option.toList_some, hsilent, List.append_nil] at hlast
      exact hlast.eq_readingsOf
  | failed hstep _ =>
      rw [hstep] at hasks
      cases hasks with
      | failed hsame => exact (hasked.congr hsame).eq_readingsOf
      | broken hsame hfailure hreader =>
          rcases (hasked.congr hsame).advance with
            ⟨hfine, _⟩ | ⟨cause, _, hending, hrequests, htold⟩
          · cases hfailure.symm.trans hfine
          · rw [hreader, hrequests, Notice.readingsOf, hending, htold,
              List.take_of_length_le (by omega)]
            simp

namespace Parser

variable {input : Input} {options : Options} {source : Nat → Source}

/-- The account of a parse, whoever listens: what is told on the way and, after a parse that comes
to a good end, the number of commands. The notices about reading are those of the requests made. -/
theorem parse_account [Encoding.Registry] (parser : Parser)
    (hsource : input.source options.encoding = .ok source)
    (hsize : 0 < options.bufferSizeFor input) :
    let report := parser.parse input options
    ∃ told, report.trace = told ++ (report.outcome.toOption.map Notice.finished).toList ∧
      (∀ notice ∈ told, notice.aboutText = true ∨ notice.aboutReading = true) ∧
      ∀ chunks ending, (source (options.bufferSizeFor input).toNat).Yields chunks ending →
        Notice.readings told = Notice.readingsOf chunks ending report.requests.length := by
  intro report
  have hreader := Input.reader_eq hsource hsize
  have hreport : report = _ := parser.parse_of_reader hreader
  obtain ⟨n, told, final, hmakes, hend, htrace⟩ := (parser.start _).exists_end parser.listener []
  refine ⟨told, ?_, hmakes.about, fun chunks ending hyields => ?_⟩
  · rw [hreport]
    exact htrace
  · have hasked := Reader.asked_nil hyields (options.bufferSizeFor input).toNat
    have hreadings := hend.readings_eq (hmakes.asked hasked)
    rw [hreport, Report.length_requests_ofRun]
    simpa [Machine.run] using hreadings

end Parser

end PlotStream
