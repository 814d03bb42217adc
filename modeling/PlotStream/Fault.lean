import PlotStream.Encoding.Name
import PlotStream.Source
import PlotStream.Violation

/-!
The ways a parse can come to a bad end. Some concern what was asked for and arise before the
first character is read; the others arise while reading.
-/

namespace PlotStream

inductive Fault where
  /-- What was given as source is not one; `kind` names what it is. -/
  | notASource (kind : String)
  /-- The name given for the encoding is not one. -/
  | encodingName (fault : Encoding.NameFault)
  /-- No encoding was given for bytes held in memory. -/
  | noEncodingForBytes
  /-- No encoding was given for a stream of bytes. -/
  | noEncodingForStream
  | bufferNotPositive (size : Int)
  /-- No buffer size was given where there is none to fall back on. -/
  | noBufferSize
  | violation (v : Violation)
  | source (cause : ReadFailure)
  /-- The listener refused to go on. -/
  | refused (message : String)
  deriving Repr, DecidableEq

def Fault.message : Fault → String
  | .notASource kind => "Unsupported source type: " ++ kind
  | .encodingName fault => fault.message
  | .noEncodingForBytes => "decode() argument 'encoding' must be str, not None"
  | .noEncodingForStream => "lookup() argument must be str, not None"
  | .bufferNotPositive size => "buffer_size must be positive (" ++ toString size ++ ")"
  | .noBufferSize => "'<=' not supported between instances of 'NoneType' and 'int'"
  | .violation v => v.complaint.message
  | .source cause => cause.message
  | .refused message => message

end PlotStream
