/-!
The operations of the plotter language that matter for vector drawings. Each is written in
the stream as a code of two capital letters; every other code stands for an unknown operation.
-/

namespace PlotStream

inductive Operation where
  | plotAbsolute
  | plotRelative
  | penDown
  | penUp
  | init
  | selectPen
  | lineType
  | scale
  | inputPoints
  | page
  | unknown
  deriving Repr, DecidableEq

/-- The two characters that stand for the operation in the stream. -/
def Operation.code : Operation → String
  | .plotAbsolute => "PA"
  | .plotRelative => "PR"
  | .penDown => "PD"
  | .penUp => "PU"
  | .init => "IN"
  | .selectPen => "SP"
  | .lineType => "LT"
  | .scale => "SC"
  | .inputPoints => "IP"
  | .page => "PG"
  | .unknown => "**"

/-- The name under which the operation is reported. -/
def Operation.label : Operation → String
  | .plotAbsolute => "PLOT_ABSOLUTE"
  | .plotRelative => "PLOT_RELATIVE"
  | .penDown => "PEN_DOWN"
  | .penUp => "PEN_UP"
  | .init => "INITIALIZE"
  | .selectPen => "SELECT_PEN"
  | .lineType => "LINE_TYPE"
  | .scale => "SCALE"
  | .inputPoints => "INPUT"
  | .page => "PAGE"
  | .unknown => "UNKNOWN"

/-- The operation a code stands for. Case matters, and a code that is cut short or is not in
the table is unknown. -/
def Operation.ofCode (code : List Char) : Operation :=
  match code with
  | ['P', 'A'] => .plotAbsolute
  | ['P', 'R'] => .plotRelative
  | ['P', 'D'] => .penDown
  | ['P', 'U'] => .penUp
  | ['I', 'N'] => .init
  | ['S', 'P'] => .selectPen
  | ['L', 'T'] => .lineType
  | ['S', 'C'] => .scale
  | ['I', 'P'] => .inputPoints
  | ['P', 'G'] => .page
  | _ => .unknown

end PlotStream
