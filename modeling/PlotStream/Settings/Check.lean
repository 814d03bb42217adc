import PlotStream.Encoding.Name
import PlotStream.Log
import PlotStream.Parser
import PlotStream.Settings.Interpolation
import PlotStream.Settings.Reading
import PlotStream.Text.Integer

/-!
The settings of the program. They are in the section `misc` of a document: the log level, the
buffer size and the encoding. Empty and missing values are replaced by defaults; other values
are checked, and the log level takes effect as soon as it is known.
-/

namespace PlotStream

namespace Settings

def mainSection : String := "misc"

def levelKey : String := "loglevel"

def bufferSizeKey : String := "buffer_size"

def encodingKey : String := "encoding"

/-- The log level unless another one is set. -/
def defaultLevel : String := "warning"

/-- The encoding unless another one is set. -/
def defaultEncoding : String := "latin-1"

/-- Why there are no settings. -/
inductive Fault where
  | unreadable (path : String) (fault : ReadingFault)
  | missingSection (name : String)
  | interpolation (fault : InterpolationFault)
  | unknownLevel (unknown : Logger.UnknownLevel)
  /-- The encoding cannot even be looked up. -/
  | encodingName (fault : Encoding.NameFault)
  | integer (fault : Text.IntegerFault)
  /-- The buffer size is merely mentioned. -/
  | valuelessInteger
  /-- A value was refused and the reason has been logged. -/
  | refused
  deriving Repr, DecidableEq

/-- The report on missing settings. What has been logged already is not reported again. -/
def Fault.message : Fault → Option String
  | .unreadable path fault => some (fault.message path)
  | .missingSection name => some (Text.quoted name)
  | .interpolation fault => some fault.message
  | .unknownLevel unknown => some unknown.message
  | .encodingName fault => some fault.message
  | .integer fault => some fault.message
  | .valuelessInteger =>
    some "int() argument must be a string, a bytes-like object or a real number, not 'NoneType'"
  | .refused => none

/-- The value of an option of the main section, references resolved. -/
def mainValue (document : Document) (key : String) : Except Fault (Option String) :=
  match document.view? mainSection with
  | none => .error (.missingSection mainSection)
  | some table => (value mainSection table key).mapError .interpolation

/-- The value of an option of the main section unless it is missing or empty. -/
def given? (document : Document) (key : String) : Except Fault (Option String) :=
  (mainValue document key).map (·.filter (· ≠ ""))

/-- The document after its log level was completed, and the log level. -/
def chooseLevel (document : Document) : Except Fault (Document × String) := do
  match ← given? document levelKey with
  | some level => return (document, level)
  | none => return (document.set mainSection levelKey defaultLevel, defaultLevel)

/-- What came of looking at a value: a document to go on with, or a fault, with the records that
tell about it. -/
abbrev Checked := List Log.Record × Except Fault Document

def refuse (text : String) : Checked := ([⟨.error, text⟩], .error .refused)

/-- Check the buffer size: decimal digits of a positive number. -/
def checkBufferSize (document : Document) : Checked :=
  match given? document bufferSizeKey with
  | .error fault => ([], .error fault)
  | .ok none =>
    ([], .ok (document.set mainSection bufferSizeKey (toString Options.defaultBufferSize)))
  | .ok (some size) =>
    let wrong :=
      refuse ("buffer_size: A positive number of characters is expected (" ++ size ++ ").")
    if !Text.isDecimal size.toList then wrong
    else
      match Text.integer size with
      | .error fault => ([], .error (.integer fault))
      | .ok n => if n < 1 then wrong else ([], .ok document)

def checkEncoding [Encoding.Registry] (document : Document) : Checked :=
  match given? document encodingKey with
  | .error fault => ([], .error fault)
  | .ok none => ([], .ok (document.set mainSection encodingKey defaultEncoding))
  | .ok (some name) =>
    match Encoding.named name with
    | .ok _ => ([], .ok document)
    | .error (.unknown _) => refuse ("encoding: Unknown encoding (" ++ name ++ ").")
    | .error .nullCharacter => ([], .error (.encodingName .nullCharacter))

/-- Go on with the document if there is one. -/
def Checked.andThen (checked : Checked) (next : Document → Checked) : Checked :=
  match checked with
  | (records, .ok document) => (records ++ (next document).1, (next document).2)
  | (records, .error fault) => (records, .error fault)

/-- The options of a section as records, up to the first one that cannot be resolved. -/
def listOptions (name : String) (table : Table) : Table → List Log.Record × Option Fault
  | [] => ([], none)
  | (key, raw) :: rest =>
    match resolve name table key raw with
    | .error fault => ([], some (.interpolation fault))
    | .ok value =>
      let (records, fault) := listOptions name table rest
      (⟨.debug, key ++ " : " ++ value.getD "None"⟩ :: records, fault)

/-- All sections as records, up to the first value that cannot be resolved. -/
def listSections : List (String × Table) → List Log.Record × Option Fault
  | [] => ([], none)
  | (name, table) :: rest =>
    let header : Log.Record := ⟨.debug, "[" ++ name ++ "]"⟩
    match listOptions name table table with
    | (records, some fault) => (header :: records, some fault)
    | (records, none) =>
      let (more, fault) := listSections rest
      (header :: records ++ ⟨.debug, ""⟩ :: more, fault)

/-- List the whole document for a logger that keeps debug records or has no level. -/
def listDocument (logger : Logger) (document : Document) : Checked :=
  if Log.Severity.debug.level < logger.level then ([], .ok document)
  else
    match listSections document.views with
    | (records, none) => (records, .ok document)
    | (records, some fault) => (records, .error fault)

/-- What is left after the settings were checked: the logger at its new level, the records that
got through, and the completed document. -/
structure Outcome where
  logger : Logger
  records : List Log.Record
  result : Except Fault Document

def check [Encoding.Registry] (document : Document) (logger : Logger) : Outcome :=
  match chooseLevel document with
  | .error fault => ⟨logger, [], .error fault⟩
  | .ok (document, level) =>
    match logger.setLevel level with
    | (logger, some unknown) => ⟨logger, [], .error (.unknownLevel unknown)⟩
    | (logger, none) =>
      let (records, result) :=
        ((checkBufferSize document).andThen checkEncoding).andThen (listDocument logger)
      ⟨logger, logger.emit records, result⟩

/-- Read a document from a file. A file that is not there counts as empty. -/
def read (path : String) (bytes : Option (List UInt8)) : Except Fault Document :=
  (Document.ofBytes (bytes.getD [])).mapError (.unreadable path)

/-- Read a document from a file and check it. -/
def load [Encoding.Registry] (path : String) (bytes : Option (List UInt8)) (logger : Logger) :
    Outcome :=
  match read path bytes with
  | .ok document => check document logger
  | .error fault => ⟨logger, [], .error fault⟩

/-- The integer value of an option that is there. -/
def integerValue : Option String → Except Fault Int
  | none => .error .valuelessInteger
  | some text => (Text.integer text).mapError .integer

def hasOption (document : Document) (key : String) : Bool :=
  ((document.view? mainSection).bind (·.lookup key)).isSome

def bufferSize (document : Document) : Except Fault Int := do
  let value ← mainValue document bufferSizeKey
  if hasOption document bufferSizeKey then integerValue value
  else return Options.defaultBufferSize

def encoding (document : Document) : Except Fault (Option String) := do
  let value ← mainValue document encodingKey
  return if hasOption document encodingKey then value else some defaultEncoding

/-- The options for parsing that a document asks for. -/
def options (document : Document) : Except Fault Options := do
  let size ← bufferSize document
  let encoding ← encoding document
  return { bufferSize := some size, encoding }

end Settings

end PlotStream
