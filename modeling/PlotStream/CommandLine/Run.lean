import PlotStream.CommandLine.Arguments
import PlotStream.Program.Decoding
import PlotStream.Program.Search

/-!
A run of the program from its arguments to its end: what is printed, what is logged, and what
becomes of the files.
-/

namespace PlotStream.CommandLine

/-- The form of the arguments in short. -/
def usage : String :=
  "usage: hpglparser [-h] [-b [BUFFER_SIZE]] [-e [ENCODING]] [-c [CONFIG]] [-d]\n" ++
  "                  [-v]\n" ++
  "                  plt\n"

/-- The form of the arguments with explanations. -/
def help : String :=
  usage ++
  "\n" ++
  "positional arguments:\n" ++
  "  plt                   HP-GL plotter file (.plt). - to read from stdin.\n" ++
  "\n" ++
  "options:\n" ++
  "  -h, --help            show this help message and exit\n" ++
  "  -b [BUFFER_SIZE], --buffer_size [BUFFER_SIZE]\n" ++
  "                        Number of characters read from the file at once.\n" ++
  "                        (default: 1024)\n" ++
  "  -e [ENCODING], --encoding [ENCODING]\n" ++
  "                        Encoding of the input file. (default: latin-1)\n" ++
  "  -c [CONFIG], --config [CONFIG]\n" ++
  "                        Configuration file to use. (default:\n" ++
  "                        ./hpglparser.conf,\n" ++
  "                        ~/.local/share/hpglparser/hpglparser.conf)\n" ++
  "  -d, --debug           Log every decoded command (INFO level). (default:\n" ++
  "                        False)\n" ++
  "  -v, --version         show program's version number and exit\n"

structure World where
  files : Files.Tree
  /-- What comes in on standard input. -/
  input : List UInt8 := []
  logger : Logger := {}

structure Result where
  files : Files.Tree
  output : String := ""
  errors : String := ""
  records : List Log.Record := []
  outcome : Except Program.Stop Unit

/-- Open a plot file; a single dash stands for standard input, which cannot be read twice. -/
def World.openPlot (world : World) (path : String) : Except Misuse Program.PlotFile :=
  if path = "-" then .ok { bytes := world.input, seekable := false }
  else if path.toList.contains '\x00' then .error (.notAPath path)
  else
    match world.files.read path with
    | .ok bytes => .ok { bytes, seekable := true }
    | .error fault => .error (.unopened path fault.message)

/-- The outcome when the arguments do not lead to a run. -/
def World.stopped (world : World) : Stop → Result
  | .helpShown =>
    { files := world.files, output := help, outcome := .error (.exit (some 0)) }
  | .versionShown =>
    { files := world.files, output := Program.version ++ "\n",
      outcome := .error (.exit (some 0)) }
  | .misuse m =>
    { files := world.files, errors := usage ++ "hpglparser: error: " ++ m.message ++ "\n",
      outcome := .error (.exit (some 2)) }

/-- The content of a file, if there is one at the path. -/
def contentAt (files : Files.Tree) (path : Files.Path) : Option (List UInt8) :=
  (files.read path.text).toOption

/-- The paths that an argument may name: as an operand, or as a value attached to an option. -/
def pathsIn (argument : String) : List String :=
  let attached := (cut '=' argument.toList).2.getD []
  [argument, String.ofList (argument.toList.drop 2), String.ofList attached]

/-- The paths that a run may look at. -/
def pathsOf (site : Program.Site) (given : List String) : List Files.Path :=
  site.usual ++ (given.flatMap pathsIn).map Files.Path.ofText

def run [Encoding.Registry] (site : Program.Site) (world : World) (given : List String) : Result :=
  match parse world.openPlot given with
  | .error stop => world.stopped stop
  | .ok (plot, arguments) =>
    let wanted := (arguments.config.getD none).map Files.Path.ofText
    let search := Program.findSettings site world.files wanted
    let found := world.logger.emit search.records
    match search.outcome with
    | .error stop => { files := search.files, records := found, outcome := .error stop }
    | .ok path =>
      let journal :=
        Program.decodePlot plot ⟨path.text, contentAt search.files path⟩
          { bufferSize := arguments.bufferSize, encoding := arguments.encoding,
            debug := arguments.debug }
          world.logger
      { files := search.files
        records := found ++ journal.records
        outcome := journal.outcome.map fun _ => () }

end PlotStream.CommandLine
