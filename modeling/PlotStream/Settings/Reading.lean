import PlotStream.Encoding.Basic
import PlotStream.Settings.Document
import PlotStream.Text.Blank
import PlotStream.Text.Case
import PlotStream.Text.Lines
import PlotStream.Text.Quoted
import PlotStream.Text.Span

/-!
Reading a settings document. A line in brackets opens a section. Other lines hold an option: a
name, and after `=` or `:` a value. A line indented deeper than the line of the option before
continues its value, and a line that starts with `#` or `;` is a comment. Sections and options
may not be repeated; only the section of defaults may be opened again.

A file is decoded piece by piece while it is read, so everything before a piece that does not
decode counts first.
-/

namespace PlotStream.Settings

/-- The section that holds the defaults. -/
def defaultSection : String := "DEFAULT"

/-- Why a document cannot be read. -/
inductive ReadingFault where
  | missingHeader (line : Nat) (text : List Char)
  | duplicateSection (line : Nat) (name : String)
  | duplicateOption (line : Nat) (name key : String)
  /-- Lines with an option that has no name. -/
  | nameless (lines : List (Nat × List Char))
  /-- A value is continued that was never begun. -/
  | continuesNothing
  | undecodable (failure : Encoding.Failure)
  deriving Repr, DecidableEq

/-- The path of a file as it is shown in reports about its content. -/
def shownPath (path : String) : String := "PosixPath(" ++ Text.quoted path ++ ")"

/-- The place of a line in a file. -/
def inLine (path : String) (line : Nat) : String :=
  "While reading from " ++ shownPath path ++ " [line " ++ Text.padTwo line ++ "]: "

def ReadingFault.message (path : String) : ReadingFault → String
  | .missingHeader line text =>
    "File contains no section headers.\nfile: " ++ shownPath path ++ ", line: " ++
      toString line ++ "\n" ++ Text.quoted (String.ofList text)
  | .duplicateSection line name =>
    inLine path line ++ "section " ++ Text.quoted name ++ " already exists"
  | .duplicateOption line name key =>
    inLine path line ++ "option " ++ Text.quoted key ++ " in section " ++ Text.quoted name ++
      " already exists"
  | .nameless lines =>
    lines.foldl
      (fun text (line, raw) =>
        text ++ "\n\t[line " ++ Text.padTwo line ++ "]: " ++ Text.quoted (String.ofList raw))
      ("Source contains parsing errors: " ++ shownPath path)
  | .continuesNothing => "'NoneType' object has no attribute 'append'"
  | .undecodable failure => failure.message

/-- The lines of a value that is being read, or nothing for an option that is merely
mentioned. -/
abbrev Draft := Option (List (List Char))

/-- A document that is being read. -/
structure Reading where
  /-- The sections so far, the defaults among them. -/
  sections : List (String × List (String × Draft)) := []
  /-- The section that is open. -/
  current : Option String := none
  /-- The option whose value may be continued. -/
  option : Option String := none
  /-- The indentation of the last line that was not a continuation. -/
  indent : Nat := 0
  /-- Lines with an option that has no name. -/
  nameless : List (Nat × List Char) := []

/-- The name and the value on an option line without blanks around it. -/
def splitOption (text : List Char) : String × Option (List Char) :=
  let isDelimiter := fun c => c = '=' ∨ c = ':'
  let key := text.takeWhile fun c => !isDelimiter c
  let value :=
    match text.dropWhile fun c => !isDelimiter c with
    | [] => none
    | _ :: rest => some (Text.trimBlanks rest)
  (String.ofList (Text.lower (Text.dropBlanksRight key)), value)

/-- The section that a line without blanks around it opens. The name goes up to the last closing
bracket and is not empty. -/
def headerName? : List Char → Option String
  | '[' :: rest =>
    match rest.reverse.dropWhile (· ≠ ']') with
    | _ :: c :: cs => some (String.ofList (c :: cs).reverse)
    | _ => none
  | _ => none

namespace Reading

def openTable (reading : Reading) : List (String × Draft) :=
  (reading.current.bind fun name => reading.sections.lookup name).getD []

def updateOpen (reading : Reading) (f : List (String × Draft) → List (String × Draft)) :
    Reading :=
  { reading with
    sections := reading.sections.map fun (name, table) =>
      if some name = reading.current then (name, f table) else (name, table) }

/-- Add a line to the value of an option. -/
def appendLine (reading : Reading) (key : String) (line : List Char) : Reading :=
  reading.updateOpen fun table =>
    table.map fun (k, draft) => if k = key then (k, draft.map (· ++ [line])) else (k, draft)

/-- The value that a line may continue: the option and what there is of it. -/
def continued? (reading : Reading) : Option (String × Draft) :=
  match reading.option with
  | some key => if key = "" then none else (reading.openTable.lookup key).map (key, ·)
  | none => none

def openSection (reading : Reading) (number : Nat) (name : String) :
    Except ReadingFault Reading :=
  let opened := { reading with current := some name, option := none }
  if (reading.sections.lookup name).isNone then
    .ok { opened with sections := reading.sections ++ [(name, [])] }
  else if name = defaultSection then .ok opened
  else .error (.duplicateSection number name)

def addOption (reading : Reading) (number : Nat) (raw text : List Char) :
    Except ReadingFault Reading :=
  match reading.current with
  | none => .error (.missingHeader number raw)
  | some name =>
    let (key, value) := splitOption text
    if (reading.openTable.lookup key).isSome then .error (.duplicateOption number name key)
    else
      let added := reading.updateOpen (· ++ [(key, value.map ([·]))])
      .ok
        { added with
          option := some key
          nameless := if key = "" then reading.nameless ++ [(number, raw)] else reading.nameless }

def addLine (reading : Reading) (number : Nat) (raw : List Char) : Except ReadingFault Reading :=
  let text := Text.trimBlanks raw
  match text with
  | [] =>
    match reading.continued? with
    | some (key, _) => .ok (reading.appendLine key [])
    | none => .ok reading
  | c :: _ =>
    if c = '#' ∨ c = ';' then .ok reading
    else
      let indent := (raw.takeWhile Text.isBlank).length
      match if reading.indent < indent then reading.continued? else none with
      | some (_, none) => .error .continuesNothing
      | some (key, some _) => .ok (reading.appendLine key text)
      | none =>
        let reading := { reading with indent }
        match headerName? text with
        | some name => reading.openSection number name
        | none => reading.addOption number raw text

/-- Take all lines, the first of them with the given number. -/
def addLines (reading : Reading) (number : Nat) : List (List Char) → Except ReadingFault Reading
  | [] => .ok reading
  | raw :: rest =>
    (reading.addLine number raw).bind (·.addLines (number + 1) rest)

/-- The values of a section, each put together from its lines. -/
def finishTable (table : List (String × Draft)) : Table :=
  table.map fun (key, draft) =>
    (key, draft.map fun parts =>
      String.ofList (Text.dropBlanksRight (Text.join ['\n'] parts)))

def document (reading : Reading) : Document :=
  { defaults := finishTable ((reading.sections.lookup defaultSection).getD [])
    sections :=
      (reading.sections.filter fun (name, _) => name ≠ defaultSection).map fun (name, table) =>
        (name, finishTable table) }

end Reading

/-- How many bytes of a file are decoded at once. -/
def pieceSize : Nat := 8192

/-- The text of a file that arrives in pieces, up to the first failure. -/
def decodePieces (left : List UInt8) : List (List UInt8) → List Char × Option Encoding.Failure
  | [] =>
    match Encoding.Item.decodeAll (Encoding.Codec.utf8.items 0 left) with
    | .ok cs => (cs, none)
    | .error failure => ([], some failure)
  | piece :: rest =>
    match Encoding.Item.decodeSoFar (Encoding.Codec.utf8.items 0 (left ++ piece)) with
    | .ok (cs, left) =>
      let (more, failure) := decodePieces left rest
      (cs ++ more, failure)
    | .error failure => ([], some failure)

/-- The lines that can be read from some text: all of them, or, before a failure, those that are
known to be complete. A carriage return at the end may still be followed by a line feed. -/
def knownLines (cs : List Char) (failed : Bool) : List (List Char) :=
  if failed then
    let settled := if cs.getLast? = some '\r' then cs.dropLast else cs
    (Text.lines (Text.unifyLineEnds settled)).filter fun line => line.getLast? = some '\n'
  else Text.lines (Text.unifyLineEnds cs)

def Document.ofBytes (bytes : List UInt8) : Except ReadingFault Document :=
  let (cs, failure) := decodePieces [] (Text.pieces pieceSize bytes)
  match Reading.addLines {} 1 (knownLines cs failure.isSome), failure with
  | .error fault, _ => .error fault
  | .ok _, some failure => .error (.undecodable failure)
  | .ok reading, none =>
    if reading.nameless = [] then .ok reading.document else .error (.nameless reading.nameless)

end PlotStream.Settings
