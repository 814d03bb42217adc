import PlotStream.Encoding.Name
import PlotStream.Run

/-!
Parsing of plot texts. A text may be given as it is, as a stream, in chunks, or as bytes in
some encoding; all of them are read through a buffer and run through the same machine. A parser
can be used again and again. It remembers the operation code read last.
-/

namespace PlotStream

inductive Input where
  /-- A text in memory, read in one go if it is short. -/
  | text (cs : List Char)
  /-- A stream of characters that gives as many as are asked for. -/
  | stream (cs : List Char)
  /-- A stream that gives at most `limit` characters at a time. -/
  | limited (limit : Nat) (cs : List Char)
  /-- A stream whose replies do not depend on what is asked for. -/
  | chunks (replies : List Reply)
  | bytes (data : List UInt8)
  | byteStream (delivery : Encoding.Delivery) (data : List UInt8)
  /-- Something that cannot be read, of the given kind. -/
  | unsupported (kind : String)
  deriving Repr

structure Options where
  /-- The number of characters asked for at once. -/
  bufferSize : Option Int := none
  /-- The name of the encoding of bytes. -/
  encoding : Option String := some "latin-1"
  deriving Repr, DecidableEq

/-- The least buffer for a text in memory. -/
def Options.minBufferSize : Nat := 10

/-- The buffer for all other texts unless another size is asked for. -/
def Options.defaultBufferSize : Nat := 1024

/-- The buffer size to use for an input. A text in memory gets a buffer of its own length
within bounds. -/
def Options.bufferSizeFor (options : Options) (input : Input) : Int :=
  match options.bufferSize, input with
  | some size, _ => size
  | none, .text cs => max minBufferSize (min defaultBufferSize cs.length)
  | none, _ => defaultBufferSize

/-- The text in bytes under a named encoding. No bytes hold the empty text in any encoding, known
or not. -/
def Encoding.decodeNamed [Encoding.Registry] (name : String) (data : List UInt8) :
    Except Fault (List Char) :=
  match Encoding.named name with
  | .ok coding =>
    if data.isEmpty then .ok []
    else (coding.decode data).mapError fun failure => .source (.undecodable failure)
  | .error (.unknown name) =>
    if data.isEmpty then .ok [] else .error (.encodingName (.unknown name))
  | .error .nullCharacter => .error (.encodingName .nullCharacter)

/-- The source that an input is for requests of any one size. -/
def Input.source [Encoding.Registry] (input : Input) (encoding : Option String) :
    Except Fault (Nat → Source) :=
  match input with
  | .text cs => .ok fun size => .ofText size cs
  | .stream cs => .ok fun size => .ofText size cs
  | .limited limit cs => .ok fun size => .ofLimited size limit cs
  | .chunks replies => .ok fun _ => .ofChunks replies
  | .bytes data =>
    match encoding with
    | none => .error .noEncodingForBytes
    | some name => (Encoding.decodeNamed name data).map fun cs size => .ofText size cs
  | .byteStream delivery data =>
    match encoding with
    | none => .error .noEncodingForStream
    | some name =>
      match Encoding.named name with
      | .ok coding => .ok fun size => coding.source delivery size data
      | .error fault => .error (.encodingName fault)
  | .unsupported kind => .error (.notASource kind)

/-- A reader for requests of `size` characters. -/
def Reader.ofSource (source : Nat → Source) (size : Int) : Except Fault Reader :=
  if size ≤ 0 then .error (.bufferNotPositive size)
  else .ok { source := source size.toNat, bufferSize := size.toNat }

def Input.reader [Encoding.Registry] (input : Input) (options : Options) :
    Except Fault Reader := do
  let source ← input.source options.encoding
  Reader.ofSource source (options.bufferSizeFor input)

/-- A reader for an input outside of a parse, where a size has to be given. -/
def Input.readerOfSize [Encoding.Registry] (input : Input) (size : Option Int)
    (encoding : Option String) : Except Fault Reader := do
  let source ← input.source encoding
  match size with
  | none => .error .noBufferSize
  | some size => Reader.ofSource source size

/-- The text of an input for display, with U+FFFD wherever its bytes do not decode. -/
def Input.shown (input : Input) (coding : Encoding.Coding) : List Char :=
  match input with
  | .text cs => cs
  | .stream cs => cs
  | .limited _ cs => cs
  | .chunks replies => replies.flatMap Reply.chars
  | .bytes data => coding.decodeReplacing data
  | .byteStream _ data => coding.decodeReplacing data
  | .unsupported _ => []

/-- A parser. It has a reader only while a parse is under way. -/
structure Parser where
  reader : Option Reader := none
  listener : Listener := {}
  /-- The operation code read last, in whatever parse. -/
  opcode : Option (List Char) := none
  /-- Where the operation code read last, or begun last, was. -/
  opcodePlace : Option Location := none

namespace Parser

/-- Where the lookahead of the parse under way stands. -/
def location (parser : Parser) : Option Location := parser.reader.map Reader.location

def start (parser : Parser) (reader : Reader) : Machine :=
  { reader, opcode := parser.opcode, opcodePlace := parser.opcodePlace }

/-- The parser after a run. The reader is given up, however the run came out. -/
def afterRun (run : Run) : Parser :=
  { listener := run.listener, opcode := run.last.opcode, opcodePlace := run.last.opcodePlace }

end Parser

structure Report where
  parser : Parser
  trace : List Notice
  /-- The sizes of all requests to the source, in order. -/
  requests : List Nat
  /-- The number of commands after the first, or why the parse failed. -/
  outcome : Except Fault Nat

def Report.ofRun (run : Run) : Report where
  parser := Parser.afterRun run
  trace := run.trace
  requests := run.last.reader.asked.reverse
  outcome := run.outcome

@[simp]
theorem Report.length_requests_ofRun (run : Run) :
    (Report.ofRun run).requests.length = run.last.reader.requests :=
  List.length_reverse

def Parser.parse [Encoding.Registry] (parser : Parser) (input : Input) (options : Options) :
    Report :=
  match input.reader options with
  | .error fault => { parser, trace := [], requests := [], outcome := .error fault }
  | .ok reader => .ofRun ((parser.start reader).run parser.listener)

end PlotStream
