import Mathlib.Data.List.Basic
import PlotStream.Proofs.CheckedSettings
import PlotStream.Session

/-!
The log over a whole session. The levels are those of the last request that names a level, however
long ago that was; whether the log is silenced is told by the last request that sets a level by any
name, known or not. Each field of the logger is written by some requests and touched by no other, so
what a session comes to is the last of these writes.

A logger that is silenced emits nothing, however severe.
-/

namespace PlotStream

namespace Logger

variable {logger : Logger}

/-- No record is more severe than the level that silences everything. -/
theorem passes_eq_false_of_silenced (h : logger.disabled = silence) (record : Log.Record) :
    logger.passes record = false := by
  obtain ⟨severity, text⟩ := record
  have hlevel : ¬ logger.disabled < severity.level := by
    rw [h]
    cases severity <;> decide
  simp [passes, hlevel]

theorem emit_eq_nil_of_silenced (h : logger.disabled = silence) (records : List Log.Record) :
    logger.emit records = [] :=
  List.filter_eq_nil_iff.mpr fun record _ => by simp [passes_eq_false_of_silenced h record]

end Logger

namespace Session

namespace Request

/-- The name by which a request sets the level, in capitals. -/
def levelName? : Request → Option String
  | .setLevel name => some (String.ofList (Text.upper name.toList))
  | .log _ => none
  | .parse _ _ => none

/-- The level that a request names. -/
def level? (request : Request) : Option Nat :=
  request.levelName?.bind Logger.levelOf?

/-- What a request makes of the silence. A name that is unknown lifts it like that of a level. -/
def silence? (request : Request) : Option Nat :=
  request.levelName?.map fun name => if name = "NONE" then Logger.silence else 0

end Request

/-- What a request writes to the logger; the rest stays as it is. -/
theorem logger_step [Encoding.Registry] (session : Session) (request : Request) :
    (session.step request).session.logger =
      { level := request.level?.getD session.logger.level
        fileLevel := request.level?.getD session.logger.fileLevel
        disabled := request.silence?.getD session.logger.disabled } := by
  cases request with
  | setLevel name =>
      simp only [step, Logger.setLevel, Request.level?, Request.silence?, Request.levelName?,
        Option.bind_some, Option.map_some, Option.getD_some]
      split
      next hnone =>
        have hlevel : Logger.levelOf? "NONE" = none := rfl
        rw [hnone, hlevel]
        rfl
      · split
        next hlevel => rw [hlevel]; rfl
        next hlevel => rw [hlevel]; rfl
  | log record => rfl
  | parse input options => rfl

/-- A field that every request overwrites or leaves alone holds in the end what was written last. -/
theorem field_after [Encoding.Registry] {α : Type} (field : Logger → α) (write : Request → Option α)
    (hstep : ∀ (session : Session) (request : Request),
      field (session.step request).session.logger = (write request).getD (field session.logger))
    (session : Session) (requests : List Request) :
    field (session.after requests).logger =
      ((requests.filterMap write).getLast?).getD (field session.logger) := by
  induction requests generalizing session with
  | nil => rfl
  | cons request rest ih =>
      have hrest : field (session.after (request :: rest)).logger =
          ((rest.filterMap write).getLast?).getD ((write request).getD (field session.logger)) := by
        rw [← hstep session request]
        exact ih (session.step request).session
      rw [hrest]
      cases hwrite : write request with
      | none => rw [List.filterMap_cons_none hwrite, Option.getD_none]
      | some value =>
          rw [List.filterMap_cons_some hwrite, List.getLast?_cons, Option.getD_some,
            Option.getD_some]

/-- A name is refused exactly if it is neither that of a level nor the one that silences. -/
theorem reply_setLevel [Encoding.Registry] (session : Session) (name : String) :
    ∃ unknown, (session.step (.setLevel name)).reply = .level unknown ∧
      (unknown = none ↔ Logger.IsLevelName name) := by
  refine ⟨(session.logger.setLevel name).2, rfl, ?_⟩
  by_cases hname : Logger.IsLevelName name
  · exact iff_of_true (hname.setLevel session.logger) hname
  · refine iff_of_false ?_ hname
    rw [Logger.setLevel_of_not_name hname]
    exact Option.some_ne_none _

theorem records_of_silenced [Encoding.Registry] {session : Session}
    (h : session.logger.disabled = Logger.silence) (request : Request) :
    (session.step request).records = [] := by
  cases request with
  | setLevel name => rfl
  | log record => exact Logger.emit_eq_nil_of_silenced h _
  | parse input options => exact Logger.emit_eq_nil_of_silenced h _

/-- The log after any requests to a session that begins with the levels of warnings and without
silence. The two levels agree, and they are what the last known name of a level stands for. The log
is silenced if and only if the last name, known or not, was `NONE`. Whatever is requested next, a
name that is refused is one that is neither known nor `NONE`, to log and to parse leaves the logger
as it is, and while the log is silenced no record comes out of any request, nor out of any records
that the logger is handed. -/
theorem logger_after [Encoding.Registry] (parser : Parser) (recorded : List (Command × Location))
    (requests : List Request) :
    let start : Session :=
      { parser, logger := { level := 30, fileLevel := 30, disabled := 0 }, recorded }
    let session := start.after requests
    let logger := session.logger
    logger.level = logger.fileLevel ∧
      logger.level = ((requests.filterMap Request.level?).getLast?).getD 30 ∧
      (logger.disabled = 50 ↔ (requests.filterMap Request.levelName?).getLast? = some "NONE") ∧
      (logger.disabled = 50 ∨ logger.disabled = 0) ∧
      (∀ name, ∃ unknown, (session.step (.setLevel name)).reply = .level unknown ∧
        (unknown = none ↔ Logger.IsLevelName name)) ∧
      (∀ record, (session.step (.log record)).session.logger = logger) ∧
      (∀ input options, (session.step (.parse input options)).session.logger = logger) ∧
      (logger.disabled = 50 →
        (∀ records, logger.emit records = []) ∧
          ∀ request, (session.step request).records = []) := by
  intro start session logger
  have hlevel : logger.level = ((requests.filterMap Request.level?).getLast?).getD 30 :=
    field_after Logger.level Request.level? (fun s r => by rw [logger_step]) start requests
  have hfileLevel : logger.fileLevel = ((requests.filterMap Request.level?).getLast?).getD 30 :=
    field_after Logger.fileLevel Request.level? (fun s r => by rw [logger_step]) start requests
  have hdisabled : logger.disabled = ((requests.filterMap Request.silence?).getLast?).getD 0 :=
    field_after Logger.disabled Request.silence? (fun s r => by rw [logger_step]) start requests
  have hlast : (requests.filterMap Request.silence?).getLast? =
      ((requests.filterMap Request.levelName?).getLast?).map
        fun name => if name = "NONE" then Logger.silence else 0 := by
    rw [← List.getLast?_map, List.map_filterMap]
    rfl
  rw [hlast] at hdisabled
  refine ⟨hlevel.trans hfileLevel.symm, hlevel, ?_, ?_, session.reply_setLevel,
    fun _ => rfl, fun _ _ => rfl, fun hsilenced => ⟨?_, ?_⟩⟩
  · rw [hdisabled]
    cases (requests.filterMap Request.levelName?).getLast? with
    | none => simp
    | some name => by_cases hname : name = "NONE" <;> simp [hname, Logger.silence]
  · rw [hdisabled]
    cases (requests.filterMap Request.levelName?).getLast? with
    | none => exact Or.inr rfl
    | some name => by_cases hname : name = "NONE" <;> simp [hname, Logger.silence]
  · exact Logger.emit_eq_nil_of_silenced hsilenced
  · exact records_of_silenced hsilenced

/-- The silence outlives a parse, and not even an alarm gets through. A name that is unknown ends it
and keeps the level. -/
theorem logger_after_silenced :
    let requests : List Request :=
      [.setLevel "debug", .setLevel "none", .parse (.text ['I', 'N', ';']) {}]
    let session := Session.after {} requests
    session.logger = { level := 10, fileLevel := 10, disabled := 50 } ∧
      (session.step (.log ⟨.critical, "on fire"⟩)).records = [] ∧
      (session.after [.setLevel "loud"]).logger =
        { level := 10, fileLevel := 10, disabled := 0 } := by
  intro requests session
  have hlogger : session.logger = { level := 10, fileLevel := 10, disabled := 50 } := by
    decide +kernel
  obtain ⟨_, _, _, _, _, _, _, hsilent⟩ := Session.logger_after {} [] requests
  have hdisabled : session.logger.disabled = 50 := by rw [hlogger]
  refine ⟨hlogger, (hsilent hdisabled).2 _, ?_⟩
  decide +kernel

end Session

end PlotStream
