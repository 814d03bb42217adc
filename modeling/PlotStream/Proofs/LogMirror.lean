import Mathlib.Data.List.Basic
import PlotStream.Proofs.Requests
import PlotStream.Session

/-!
The log as a mirror of the parse. A parse does not look at its log, and what gets into the log at
some level is what gets into it at the level of debug records, less what that level drops. There is
one level of which this would not be true, or rather nine of them: below the level of debug records
no refill is worth a record. No name sets such a level.

At the level of debug records everything gets through. Then the records of each severity are known
from the commands, from the diagnostics, and from the requests to the source.
-/

namespace PlotStream

namespace Logger

/-- The logger after its level was set by names, one after the other. -/
def setLevels (logger : Logger) (names : List String) : Logger :=
  names.foldl (fun logger name => (logger.setLevel name).1) logger

/-- The level is none of those between no level and the level of debug records. -/
def Leveled (logger : Logger) : Prop :=
  logger.level = 0 ∨ Log.Severity.debug.level ≤ logger.level

/-- At any other level a refill is not minded although its record would pass. -/
theorem write_not_leveled :
    let logger : Logger := { level := 5 }
    let trace : List Notice := [.refilled 6 0]
    ¬ logger.Leveled ∧ logger.write {} trace = [] ∧
      ((Logger.setLevel {} "debug").1.write {} trace).filter logger.passes =
        [⟨.debug, "Refill: 6 chars at offset 0"⟩] := by
  refine ⟨?_, by decide, by decide +kernel⟩
  rintro (h | h)
  · cases h
  · exact absurd h (by decide)

theorem leveled_of_levelOf? {name : String} {level : Nat} (h : levelOf? name = some level) :
    level = 0 ∨ Log.Severity.debug.level ≤ level := by
  unfold levelOf? at h
  split at h <;> cases h <;> decide

theorem Leveled.setLevel {logger : Logger} (h : logger.Leveled) (name : String) :
    (logger.setLevel name).1.Leveled := by
  unfold Logger.setLevel
  dsimp only
  split
  · exact h
  · split
    next hlevel => exact leveled_of_levelOf? hlevel
    · exact h

theorem Leveled.setLevels {logger : Logger} (h : logger.Leveled) (names : List String) :
    (logger.setLevels names).Leveled := by
  induction names generalizing logger with
  | nil => exact h
  | cons name more ih => exact ih (h.setLevel name)

theorem setLevel_debug (logger : Logger) :
    (logger.setLevel "debug").1 = { level := 10, fileLevel := 10 } := by
  have hupper : String.ofList (Text.upper "debug".toList) = "DEBUG" := by decide +kernel
  rw [setLevel, hupper]
  rfl

variable {logger : Logger} {reporting : Reporting} {trace : List Notice}

/-- Such a logger minds every notice whose record it passes. -/
theorem Leveled.minds_of_passes (h : logger.Leveled) {notice : Notice} {record : Log.Record}
    (hrecord : notice.record? reporting = some record) (hpasses : logger.passes record = true) :
    logger.minds notice = true := by
  cases notice with
  | refilled size offset =>
      obtain rfl := Option.some.inj hrecord
      have hle : logger.effectiveLevel ≤ Log.Severity.debug.level := by
        simp [passes] at hpasses
        exact hpasses.2
      rw [effectiveLevel] at hle
      have hlevel : logger.level = Log.Severity.debug.level := by
        split at hle
        · exact absurd hle (by decide)
        · rcases h with h | h <;> omega
      simpa [minds] using hlevel
  | _ => rfl

/-- At the level of debug records everything is minded and passes. -/
theorem write_debug (reporting : Reporting) (trace : List Notice) :
    (logger.setLevel "debug").1.write reporting trace = Notice.records reporting trace := by
  have hminds : ∀ notice, Logger.minds { level := 10, fileLevel := 10 } notice = true := by
    intro notice
    cases notice <;> rfl
  have hpasses : ∀ record, Logger.passes { level := 10, fileLevel := 10 } record = true := by
    rintro ⟨severity, text⟩
    cases severity <;> rfl
  rw [setLevel_debug, write, emit, handed, List.filter_eq_self.mpr fun n _ => hminds n,
    List.filter_eq_self.mpr fun r _ => hpasses r]

/-- What a logger writes is what it passes of all records. -/
theorem Leveled.write_eq (h : logger.Leveled) (reporting : Reporting) (trace : List Notice) :
    logger.write reporting trace = (Notice.records reporting trace).filter logger.passes := by
  rw [write, emit, handed, Notice.records, Notice.records, List.filterMap_filter,
    List.filter_filterMap, List.filter_filterMap]
  refine List.filterMap_congr fun notice _ => ?_
  cases hrecord : notice.record? reporting with
  | none => simp
  | some record =>
      cases hpasses : logger.passes record with
      | true => simp [h.minds_of_passes hrecord hpasses]
      | false =>
          cases logger.minds notice <;> simp [Option.filter, hpasses]

end Logger

/-- The texts of the records of one severity. -/
def Log.texts (severity : Log.Severity) (records : List Log.Record) : List String :=
  (records.filter fun record => record.severity = severity).map Log.Record.text

namespace Notice

variable {severity : Log.Severity} {reporting : Reporting} {trace told : List Notice}

/-- The text of the record for a notice, if it has the severity. -/
def textAt? (severity : Log.Severity) (reporting : Reporting) (notice : Notice) : Option String :=
  ((notice.record? reporting).filter fun record => record.severity = severity).map Log.Record.text

theorem texts_records (severity : Log.Severity) (reporting : Reporting) (trace : List Notice) :
    Log.texts severity (records reporting trace) =
      trace.filterMap (textAt? severity reporting) := by
  rw [Log.texts, records, List.filter_filterMap, List.map_filterMap]
  rfl

theorem texts_append (severity : Log.Severity) (reporting : Reporting)
    (trace more : List Notice) :
    Log.texts severity (records reporting (trace ++ more)) =
      Log.texts severity (records reporting trace) ++
        Log.texts severity (records reporting more) := by
  simp only [texts_records, List.filterMap_append]

theorem texts_finished (reporting : Reporting) (n : Nat) :
    Log.texts .info (records reporting [.finished n]) =
      ["Parsed " ++ toString n ++ " commands"] := rfl

/-- Warnings are the diagnostics, each with its place. -/
theorem texts_warning (h : reporting.diagnostics = true) (trace : List Notice) :
    Log.texts .warning (records reporting trace) =
      (diagnostics trace).map fun entry => entry.2.annotate entry.1.text := by
  rw [texts_records, diagnostics, List.map_filterMap]
  refine List.filterMap_congr fun notice _ => ?_
  cases notice with
  | command c place => cases hshown : reporting.commands <;> simp [textAt?, record?, hshown]
  | diagnostic d place => simp [textAt?, record?, h]
  | _ => simp [textAt?, record?]

/-- As long as the end has not been told, what is said at the level of information is the
commands. -/
theorem texts_info (h : reporting.commands = true)
    (htold : ∀ notice ∈ told, notice.aboutText = true ∨ notice.aboutReading = true) :
    Log.texts .info (records reporting told) =
      (commands told).map fun entry => entry.1.summary := by
  rw [texts_records, commands, List.map_filterMap]
  refine List.filterMap_congr fun notice hmem => ?_
  cases notice with
  | command c place => simp [textAt?, record?, h]
  | diagnostic d place => cases hshown : reporting.diagnostics <;> simp [textAt?, record?, hshown]
  | finished count => simpa [aboutText, aboutReading] using htold _ hmem
  | _ => simp [textAt?, record?]

/-- Debug records are about reading. -/
theorem texts_debug (reporting : Reporting) (trace : List Notice) :
    Log.texts .debug (records reporting trace) =
      (readings trace).filterMap (textAt? .debug reporting) := by
  rw [texts_records, readings, List.filterMap_filter]
  refine List.filterMap_congr fun notice _ => ?_
  cases notice with
  | command c place =>
      cases hshown : reporting.commands <;> simp [textAt?, record?, aboutReading, hshown]
  | diagnostic d place =>
      cases hshown : reporting.diagnostics <;> simp [textAt?, record?, aboutReading, hshown]
  | _ => simp [textAt?, record?, aboutReading]

/-- The offset in the record of a chunk is the length of all chunks before it. -/
theorem texts_refills (reporting : Reporting) (offset : Nat) (chunks : List (List Char)) :
    (refills offset chunks).filterMap (textAt? .debug reporting) =
      chunks.mapIdx fun i chunk => "Refill: " ++ toString chunk.length ++ " chars at offset " ++
        toString (offset + (chunks.take i).flatten.length) := by
  induction chunks generalizing offset with
  | nil => rfl
  | cons first more ih =>
      have hfirst : textAt? .debug reporting (.refilled first.length offset) = some ("Refill: " ++
          toString first.length ++ " chars at offset " ++ toString offset) := rfl
      rw [refills, List.filterMap_cons, hfirst, ih, List.mapIdx_cons]
      simp [Nat.add_assoc]

theorem texts_readingsOf (reporting : Reporting) (chunks : List (List Char))
    (ending : Option ReadFailure) (requests : Nat) :
    (readingsOf chunks ending requests).filterMap (textAt? .debug reporting) =
      ((chunks.take requests).mapIdx fun i chunk =>
        "Refill: " ++ toString chunk.length ++ " chars at offset " ++
          toString ((chunks.take requests).take i).flatten.length) ++
      if requests = chunks.length + 1 ∧ ending = none then
        ["End of text at offset " ++ toString chunks.flatten.length]
      else [] := by
  rw [readingsOf, List.filterMap_append, texts_refills]
  simp only [Nat.zero_add]
  split <;> rfl

end Notice

namespace Parser

variable {input : Input} {options : Options} {source : Nat → Source}

/-- The log mirrors the parse and does not interfere with it. What a logger writes whose level was
set by a name, whatever is suppressed besides, is what it passes of the records for debugging. Among
these the ones for information are the commands that a session records of the same input, and the
number of commands after a parse that comes to a good end; the warnings are the diagnostics with
their places; the ones for debugging are those of the chunks that were asked for, and of the end of
the text if the source was asked behind its last chunk and told it; every source yields chunks. The
parse is the same with every logger. -/
theorem parse_log_mirrors [Encoding.Registry] (parser : Parser)
    (hsource : input.source options.encoding = .ok source)
    (hsize : 0 < options.bufferSizeFor input) :
    let report := parser.parse input options
    let recorded := (Session.step { parser } (.parse input options)).session.recorded
    let reporting : Reporting := { commands := true }
    let whole := (Logger.setLevel {} "debug").1.write reporting report.trace
    let size := (options.bufferSizeFor input).toNat
    (∀ names, (Logger.setLevels {} names).Leveled) ∧
      (∀ logger : Logger, logger.Leveled →
        logger.write reporting report.trace = whole.filter logger.passes) ∧
      Log.texts .info whole =
        (recorded.map fun entry => entry.1.summary) ++
          (report.outcome.toOption.map fun n => "Parsed " ++ toString n ++ " commands").toList ∧
      Log.texts .warning whole =
        ((Notice.diagnostics report.trace).map fun entry => entry.2.annotate entry.1.text) ∧
      (∃ chunks ending, (source size).Yields chunks ending) ∧
      (∀ chunks ending, (source size).Yields chunks ending →
        let read := chunks.take report.requests.length
        Log.texts .debug whole =
          (read.mapIdx fun i chunk =>
            "Refill: " ++ toString chunk.length ++ " chars at offset " ++
              toString (read.take i).flatten.length) ++
            if report.requests.length = chunks.length + 1 ∧ ending = none then
              ["End of text at offset " ++ toString chunks.flatten.length]
            else []) ∧
      ∀ logger : Logger,
        let done := Session.step { parser, logger } (.parse input options)
        done.reply = .parsed report ∧ done.session.logger = logger ∧
          done.session.parser = report.parser ∧ done.session.recorded = recorded := by
  intro report recorded reporting whole size
  obtain ⟨told, htrace, habout, hreadings⟩ := parser.parse_account hsource hsize
  have hwhole : whole = Notice.records reporting report.trace := Logger.write_debug _ _
  have hrecorded : recorded = Notice.commands report.trace := List.nil_append _
  refine ⟨Logger.Leveled.setLevels (Or.inr (by decide)), ?_, ?_, ?_,
    (source size).exists_yields, ?_, ?_⟩
  · intro logger hlogger
    rw [hwhole]
    exact hlogger.write_eq reporting report.trace
  · rw [hwhole, hrecorded, htrace, Notice.texts_append, Notice.texts_info rfl habout]
    cases report.outcome with
    | ok n => simp [Except.toOption, Notice.texts_finished, Notice.commands]
    | error fault => simp [Except.toOption, Notice.records, Log.texts]
  · rw [hwhole]
    exact Notice.texts_warning rfl report.trace
  · intro chunks ending hyields read
    have hclosing :
        Notice.readings (report.outcome.toOption.map Notice.finished).toList = [] := by
      cases report.outcome <;> rfl
    rw [hwhole, Notice.texts_debug, htrace, Notice.readings_append, hclosing, List.append_nil,
      hreadings chunks ending hyields]
    exact Notice.texts_readingsOf reporting chunks ending report.requests.length
  · exact fun logger => ⟨rfl, rfl, rfl, rfl⟩

/-- A text in two pieces, with a piece boundary inside a command. -/
theorem parse_log_mirrors_pieces :
    let pieces := [['I', 'N', ';', 'P'], ['U', ';']]
    let input := Input.chunks (pieces.map .text)
    let options : Options := { bufferSize := some 4 }
    let source := Source.ofChunks (pieces.map .text)
    let whole := (Logger.setLevel {} "debug").1.write { commands := true }
      (Parser.parse {} input options).trace
    input.source options.encoding = .ok (fun _ => source) ∧ source.Yields pieces none ∧
      0 < options.bufferSizeFor input ∧ (Logger.setLevel {} "info").1.Leveled ∧
      (Logger.setLevel {} "info").1.write { commands := true }
          (Parser.parse {} input options).trace =
        whole.filter (Logger.setLevel {} "info").1.passes ∧
      Log.texts .debug whole =
        ["Refill: 4 chars at offset 0", "Refill: 2 chars at offset 4",
          "End of text at offset 6"] := by
  intro pieces input options source whole
  have hyields : source.Yields pieces none := .chunk rfl (.chunk rfl (.ended rfl))
  have hsize : 0 < options.bufferSizeFor input := by decide
  have hlogger : (Logger.setLevel {} "info").1.Leveled :=
    Logger.Leveled.setLevel (Or.inr (by decide)) _
  have hrequests : (Parser.parse {} input options).requests.length = 3 := by decide +kernel
  obtain ⟨_, hfilter, _, _, _, hchunks, _⟩ := Parser.parse_log_mirrors {} rfl hsize
  have hdebug := hchunks pieces none hyields
  rw [hrequests] at hdebug
  exact ⟨rfl, hyields, hsize, hlogger, hfilter _ hlogger, hdebug.trans (by decide +kernel)⟩

end Parser

end PlotStream
