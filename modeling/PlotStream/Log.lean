import PlotStream.Notice
import PlotStream.Text.Case
import PlotStream.Text.Quoted

/-!
Log records and what becomes of them. A logger passes the records that are severe enough; it
can also be silenced altogether without losing its level. Setting the level by a name lifts the
silence first, so an unknown name lifts it too.
-/

namespace PlotStream

namespace Log

inductive Severity where
  | debug
  | info
  | warning
  | error
  | critical
  deriving Repr, DecidableEq

def Severity.level : Severity → Nat
  | .debug => 10
  | .info => 20
  | .warning => 30
  | .error => 40
  | .critical => 50

def Severity.name : Severity → String
  | .debug => "DEBUG"
  | .info => "INFO"
  | .warning => "WARNING"
  | .error => "ERROR"
  | .critical => "CRITICAL"

structure Record where
  severity : Severity
  text : String
  deriving Repr, DecidableEq

end Log

structure Logger where
  /-- The level set last; zero stands for the inherited level. -/
  level : Nat := 30
  /-- The level of the log file. -/
  fileLevel : Nat := 30
  /-- Records up to this level are suppressed. -/
  disabled : Nat := 0
  deriving Repr, DecidableEq

namespace Logger

/-- The level that holds while none is set. -/
def inheritedLevel : Nat := 30

/-- The level that silences everything. -/
def silence : Nat := 50

def effectiveLevel (logger : Logger) : Nat :=
  if logger.level = 0 then inheritedLevel else logger.level

def passes (logger : Logger) (record : Log.Record) : Bool :=
  logger.disabled < record.severity.level && logger.effectiveLevel ≤ record.severity.level

def emit (logger : Logger) (records : List Log.Record) : List Log.Record :=
  records.filter logger.passes

/-- The level with the given name in capitals. -/
def levelOf? : String → Option Nat
  | "CRITICAL" => some 50
  | "FATAL" => some 50
  | "ERROR" => some 40
  | "WARNING" => some 30
  | "WARN" => some 30
  | "INFO" => some 20
  | "DEBUG" => some 10
  | "NOTSET" => some 0
  | _ => none

structure UnknownLevel where
  name : String
  deriving Repr, DecidableEq

def UnknownLevel.message (unknown : UnknownLevel) : String :=
  "Unknown level: " ++ Text.quoted unknown.name

/-- The logger after its level was set by name, and whether the name was unknown. The name
`NONE` silences the logger and keeps its levels. -/
def setLevel (logger : Logger) (name : String) : Logger × Option UnknownLevel :=
  let wanted := String.ofList (Text.upper name.toList)
  if wanted = "NONE" then ({ logger with disabled := silence }, none)
  else
    match levelOf? wanted with
    | some level => ({ level, fileLevel := level, disabled := 0 }, none)
    | none => ({ logger with disabled := 0 }, some ⟨wanted⟩)

end Logger

/-- Which notices of a parse are written to the log besides the progress of reading. -/
structure Reporting where
  commands : Bool := false
  diagnostics : Bool := true
  deriving Repr, DecidableEq

/-- The record for a notice, if one is due. -/
def Notice.record? (reporting : Reporting) : Notice → Option Log.Record
  | .command c _ => if reporting.commands then some ⟨.info, c.summary⟩ else none
  | .diagnostic d place =>
    if reporting.diagnostics then some ⟨.warning, place.annotate d.text⟩ else none
  | .refilled size offset =>
    some ⟨.debug, "Refill: " ++ toString size ++ " chars at offset " ++ toString offset⟩
  | .endOfText offset => some ⟨.debug, "End of text at offset " ++ toString offset⟩
  | .finished count => some ⟨.info, "Parsed " ++ toString count ++ " commands"⟩

def Notice.records (reporting : Reporting) (trace : List Notice) : List Log.Record :=
  trace.filterMap (Notice.record? reporting)

namespace Logger

/-- Whether a notice is worth a record to a logger. Refills are, at the level of debug records and
at no other, lower ones included. -/
def minds (logger : Logger) : Notice → Bool
  | .refilled _ _ => logger.level = Log.Severity.debug.level
  | _ => true

/-- The records of a trace that a logger is handed, before it drops what is not severe enough. -/
def handed (logger : Logger) (reporting : Reporting) (trace : List Notice) : List Log.Record :=
  Notice.records reporting (trace.filter logger.minds)

/-- The records of a trace that get into the log. -/
def write (logger : Logger) (reporting : Reporting) (trace : List Notice) : List Log.Record :=
  logger.emit (logger.handed reporting trace)

end Logger

end PlotStream
