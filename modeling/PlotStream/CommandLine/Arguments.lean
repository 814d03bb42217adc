import PlotStream.Text.Integer

/-!
The arguments of the command line. Options may be abbreviated, joined, and given with their
value attached; `--` ends them, and attached to an option it stands for no value. Arguments are
taken in order: the plot file is opened, and help or the version is shown, as soon as it is their
turn.
-/

namespace PlotStream.CommandLine

inductive Switch where
  | help
  | bufferSize
  | encoding
  | config
  | debug
  | version
  deriving Repr, DecidableEq

def Switch.names : Switch → List String
  | .help => ["-h", "--help"]
  | .bufferSize => ["-b", "--buffer_size"]
  | .encoding => ["-e", "--encoding"]
  | .config => ["-c", "--config"]
  | .debug => ["-d", "--debug"]
  | .version => ["-v", "--version"]

/-- Whether an option may have a value. -/
def Switch.takesValue : Switch → Bool
  | .bufferSize => true
  | .encoding => true
  | .config => true
  | .help => false
  | .debug => false
  | .version => false

def Switch.all : List Switch := [.help, .bufferSize, .encoding, .config, .debug, .version]

def Switch.table : List (String × Switch) :=
  Switch.all.flatMap fun switch => switch.names.map (·, switch)

/-- The option with exactly this name. -/
def Switch.named? (name : String) : Option Switch := Switch.table.lookup name

inductive Misuse where
  | ambiguous (argument : String) (names : List String)
  /-- An option without values was given one. -/
  | needlessValue (switch : Switch) (value : String)
  | notAnInteger (switch : Switch) (value : String)
  /-- The plot file cannot be opened. -/
  | unopened (path report : String)
  /-- What is given for the plot file is not a path. -/
  | notAPath (value : String)
  | noPlotFile
  | unrecognized (arguments : List String)
  deriving Repr, DecidableEq

def Switch.report (switch : Switch) (text : String) : String :=
  "argument " ++ String.intercalate "/" switch.names ++ ": " ++ text

def Misuse.message : Misuse → String
  | .ambiguous argument names =>
    "ambiguous option: " ++ argument ++ " could match " ++ String.intercalate ", " names
  | .needlessValue switch value =>
    switch.report ("ignored explicit argument " ++ Text.quoted value)
  | .notAnInteger switch value => switch.report ("invalid int value: " ++ Text.quoted value)
  | .unopened path report => "argument plt: can't open '" ++ path ++ "': " ++ report
  | .notAPath value =>
    "argument plt: invalid FileType('rb') value: " ++ Text.quoted value
  | .noPlotFile => "the following arguments are required: plt"
  | .unrecognized arguments => "unrecognized arguments: " ++ String.intercalate " " arguments

/-- An option as it was written. -/
structure OptionUse where
  /-- The option, if there is one of this name. -/
  switch : Option Switch
  /-- Whether the option was named by a single letter. -/
  short : Bool
  /-- The text attached to the name, without the first equals sign if that is what joins them. -/
  attached : Option (List Char)
  deriving Repr, DecidableEq

inductive Mark where
  | operand
  | separator
  | option (use : OptionUse)
  deriving Repr, DecidableEq

/-- A part of a text before a character and, if the character is there, the part after it. -/
def cut (stop : Char) (text : List Char) : List Char × Option (List Char) :=
  match text.dropWhile (· ≠ stop) with
  | [] => (text, none)
  | _ :: after => (text.takeWhile (· ≠ stop), some after)

/-- Whether a text is a run of decimal digits that is not empty, or empty if allowed. -/
def isDigits (text : List Char) (allowEmpty : Bool) : Bool :=
  text.all (fun c => (Text.digitValue? c).isSome) && (allowEmpty || text ≠ [])

/-- Whether a text is a negative number. A line feed may follow it. -/
def isNegativeNumber : List Char → Bool
  | '-' :: rest =>
    let body := if rest.getLast? = some '\n' then rest.dropLast else rest
    match cut '.' body with
    | (digits, none) => isDigits digits false
    | (digits, some decimals) => isDigits digits true && isDigits decimals false
  | _ => false

def isShort : List Char → Bool
  | '-' :: c :: _ => c ≠ '-'
  | _ => false

/-- The options that an argument beginning with a dash may stand for. A long name may be cut
short; a short name may have text attached to it. -/
def candidates (argument : List Char) : List (String × OptionUse) :=
  if isShort argument then
    (Switch.table.filter fun (name, _) => name.toList = argument.take 2).map fun (name, switch) =>
      (name, ⟨some switch, true, some (argument.drop 2)⟩)
  else
    let (stem, attached) := cut '=' argument
    (Switch.table.filter fun (name, _) => stem.isPrefixOf name.toList).map fun (name, switch) =>
      (name, ⟨some switch, false, attached⟩)

/-- What an argument in front of the separator is. -/
def classify (argument : String) : Except Misuse Mark :=
  let text := argument.toList
  if text.head? ≠ some '-' then .ok .operand
  else
    match Switch.named? argument with
    | some switch => .ok (.option ⟨some switch, isShort text, none⟩)
    | none =>
      if text.length = 1 then .ok .operand
      else
        let (stem, attached) := cut '=' text
        match attached, Switch.named? (String.ofList stem) with
        | some _, some switch => .ok (.option ⟨some switch, isShort stem, attached⟩)
        | _, _ =>
          match candidates text with
          | [(_, use)] => .ok (.option use)
          | [] =>
            if isNegativeNumber text || text.contains ' ' then .ok .operand
            else .ok (.option ⟨none, isShort text, none⟩)
          | several => .error (.ambiguous argument (several.map (·.1)))

/-- Every argument with what it is. All arguments after the first `--` are operands. -/
def marks : List String → Except Misuse (List (String × Mark))
  | [] => .ok []
  | argument :: rest =>
    if argument = "--" then .ok ((argument, .separator) :: rest.map (·, .operand))
    else
      match classify argument with
      | .error misuse => .error misuse
      | .ok mark => (marks rest).map ((argument, mark) :: ·)

/-- What a written option amounts to: options with their values in order, and whether the next
argument was taken as a value. -/
structure Unpacked where
  uses : List (Switch × Option String)
  tookNext : Bool
  deriving Repr, DecidableEq

/-- The value that a text attached to an option stands for. -/
def attachedValue (text : List Char) : Option String :=
  if text = ['-', '-'] then none else some (String.ofList text)

/-- Take a written option apart. Options without values may be joined after a single dash, the
last of them with a value if it takes one. `next` is the following argument if it is an
operand. -/
def unpack (switch : Switch) (short : Bool) (attached : Option (List Char))
    (next : Option String) : Except Misuse Unpacked :=
  match attached with
  | none =>
    if switch.takesValue then .ok ⟨[(switch, next)], next.isSome⟩
    else .ok ⟨[(switch, none)], false⟩
  | some text =>
    if switch.takesValue then .ok ⟨[(switch, attachedValue text)], false⟩
    else
      match text, short with
      | c :: rest, true =>
        match Switch.named? (String.ofList ['-', c]) with
        | some joined =>
          (unpack joined true (if rest = [] then none else some rest) next).map fun u =>
            { u with uses := (switch, none) :: u.uses }
        | none => .error (.needlessValue switch (String.ofList text))
      | _, _ => .error (.needlessValue switch (String.ofList text))
termination_by (attached.map (·.length + 1)).getD 0
decreasing_by
  split <;> simp

/-- What the arguments ask for. Options that were not given are missing; one that was given
without a value is empty. -/
structure Arguments (File : Type) where
  plot : Option File := none
  bufferSize : Option (Option Int) := none
  encoding : Option (Option String) := none
  config : Option (Option String) := none
  debug : Bool := false

inductive Stop where
  | helpShown
  | versionShown
  | misuse (m : Misuse)
  deriving Repr, DecidableEq

variable {File : Type}

def Arguments.apply (arguments : Arguments File) (switch : Switch) (value : Option String) :
    Except Stop (Arguments File) :=
  match switch, value with
  | .help, _ => .error .helpShown
  | .version, _ => .error .versionShown
  | .debug, _ => .ok { arguments with debug := true }
  | .encoding, _ => .ok { arguments with encoding := some value }
  | .config, _ => .ok { arguments with config := some value }
  | .bufferSize, none => .ok { arguments with bufferSize := some none }
  | .bufferSize, some text =>
    match Text.integer text with
    | .ok n => .ok { arguments with bufferSize := some (some n) }
    | .error _ => .error (.misuse (.notAnInteger .bufferSize text))

/-- Carry out options in order. -/
def Arguments.applyAll (arguments : Arguments File) :
    List (Switch × Option String) → Except Stop (Arguments File)
  | [] => .ok arguments
  | (switch, value) :: rest =>
    match arguments.apply switch value with
    | .error stop => .error stop
    | .ok arguments => arguments.applyAll rest

/-- The operand at the front of some arguments and what follows it. Separators around it belong
to it. -/
def operand? (arguments : List (String × Mark)) :
    Option (String × List (String × Mark)) :=
  match arguments with
  | (text, .operand) :: (_, .separator) :: rest => some (text, rest)
  | (text, .operand) :: rest => some (text, rest)
  | (_, .separator) :: (text, .operand) :: rest => some (text, rest)
  | _ => none

theorem operand?_length {arguments left : List (String × Mark)} {text : String}
    (h : operand? arguments = some (text, left)) : left.length < arguments.length := by
  unfold operand? at h
  split at h <;> simp at h <;> simp only [← h.2, List.length_cons] <;> omega

/-- Take arguments in order. The plot file is opened by `openFile`; what is not understood is
added to `extras`. -/
def take (openFile : String → Except Misuse File) (arguments : Arguments File)
    (extras : List String) (rest : List (String × Mark)) :
    Except Stop (Arguments File × List String) :=
  match rest with
  | [] => .ok (arguments, extras)
  | (text, .option use) :: after =>
    match use.switch with
    | none => take openFile arguments (extras ++ [text]) after
    | some switch =>
      let next :=
        match after with
        | (value, .operand) :: _ => some value
        | _ => none
      match unpack switch use.short use.attached next with
      | .error misuse => .error (.misuse misuse)
      | .ok unpacked =>
        match arguments.applyAll unpacked.uses with
        | .error stop => .error stop
        | .ok arguments =>
          take openFile arguments extras
            (if unpacked.tookNext then after.drop 1 else after)
  | (text, plain) :: after =>
    match hoperand : operand? ((text, plain) :: after), arguments.plot with
    | some (path, left), none =>
      have : left.length < after.length + 1 := operand?_length hoperand
      match openFile path with
      | .error misuse => .error (.misuse misuse)
      | .ok file => take openFile { arguments with plot := some file } extras left
    | _, _ => take openFile arguments (extras ++ [text]) after
termination_by rest.length
decreasing_by
  · simp
  · split <;> simp only [List.length_drop, List.length_cons] <;> omega
  · simpa using this
  · simp

def parse (openFile : String → Except Misuse File) (given : List String) :
    Except Stop (File × Arguments File) :=
  match marks given with
  | .error misuse => .error (.misuse misuse)
  | .ok marked =>
    match take openFile {} [] marked with
    | .error stop => .error stop
    | .ok (arguments, extras) =>
      match arguments.plot with
      | none => .error (.misuse .noPlotFile)
      | some file =>
        if extras = [] then .ok (file, arguments) else .error (.misuse (.unrecognized extras))

end PlotStream.CommandLine
