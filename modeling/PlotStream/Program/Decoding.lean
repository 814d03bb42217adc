import PlotStream.Program.Stop

/-!
Decoding a plot file with everything around it: the settings are read, the level of the log is
set, every command is logged, and trouble with the text of the file is reported with the line
it is in.
-/

namespace PlotStream.Program

def version : String := "0.1.0"

/-- A plot file that has been opened. -/
structure PlotFile where
  bytes : List UInt8
  delivery : Encoding.Delivery := .buffered
  /-- Whether the file can be read a second time. -/
  seekable : Bool
  deriving Repr, DecidableEq

/-- Where the settings come from: a path and what is there. -/
structure SettingsFile where
  path : String
  bytes : Option (List UInt8)
  deriving Repr, DecidableEq

/-- What the caller asks for instead of what the settings say. An option that is given without a
value stands for the parser's own default. -/
structure Overrides where
  bufferSize : Option (Option Int) := none
  encoding : Option (Option String) := none
  /-- Whether every command is to be logged. -/
  debug : Bool := false
  deriving Repr, DecidableEq

/-- The options in force. -/
def Overrides.apply (overrides : Overrides) (options : Options) : Options where
  bufferSize := overrides.bufferSize.getD options.bufferSize
  encoding := overrides.encoding.getD options.encoding

/-- The records of a run with its outcome, and the logger afterwards. -/
structure Journal where
  logger : Logger
  records : List Log.Record
  outcome : Except Stop Nat

variable [Encoding.Registry]

/-- How the parse of a plot file came out: trouble with the text is reported, other trouble goes
up. -/
def reportOutcome (plot : PlotFile) (options : Options) (outcome : Except Fault Nat) :
    List Log.Record × Except Stop Nat :=
  match outcome with
  | .ok count => ([], .ok count)
  | .error (.source (.undecodable failure)) =>
    ([⟨.error, "Input file can't be decoded with " ++ options.encoding.getD "None" ++ ": " ++
        failure.message⟩], .error (.exit (some 1)))
  | .error (.violation v) =>
    let coding := (options.encoding.bind Encoding.Registry.find?).getD (.own .latin1)
    let context :=
      v.complaint.context (coding.decodeReplacing plot.bytes) Text.defaultReach
    (⟨.error, v.complaint.message⟩ ::
        (if plot.seekable then [⟨.error, "Context:\n" ++ context⟩] else []),
      .error (.exit (some 1)))
  | .error fault => ([], .error (.parse fault))

/-- Parse a plot file and log what is in it. -/
def parsePlot (plot : PlotFile) (options : Options) (logger : Logger) : Journal :=
  let report := Parser.parse {} (.byteStream plot.delivery plot.bytes) options
  let (trouble, outcome) := reportOutcome plot options report.outcome
  let records :=
    ⟨.info, "HPGLParser start; " ++ version⟩ ::
      (logger.handed { commands := true } report.trace ++ trouble)
  ⟨logger, logger.emit records, outcome⟩

/-- Decode a plot file under the settings in a file. -/
def decodePlot (plot : PlotFile) (settings : SettingsFile) (overrides : Overrides)
    (logger : Logger) : Journal :=
  if plot.bytes.isEmpty then
    ⟨logger, logger.emit [⟨.critical, "Input file is empty!"⟩], .error (.exit none)⟩
  else
    let loaded := Settings.load settings.path settings.bytes logger
    match loaded.result >>= Settings.options with
    | .error fault => ⟨loaded.logger, loaded.records, .error (.ofSettings fault)⟩
    | .ok options =>
      let logger := if overrides.debug then (loaded.logger.setLevel "info").1 else loaded.logger
      let journal := parsePlot plot (overrides.apply options) logger
      { journal with records := loaded.records ++ journal.records }

end PlotStream.Program
