import PlotStream.Files.Tree
import PlotStream.Settings.Check

/-!
Why a run of the program stops before its end.
-/

namespace PlotStream.Program

inductive Stop where
  /-- The program ends with an exit code, or with none; all there is to say has been said. -/
  | exit (code : Option Nat)
  | settings (fault : Settings.Fault)
  | files (fault : Files.Fault)
  | parse (fault : PlotStream.Fault)
  deriving Repr, DecidableEq

/-- Settings that were refused, with the reason in the log, end the program without a code. -/
def Stop.ofSettings : Settings.Fault → Stop
  | .refused => .exit none
  | fault => .settings fault

def Stop.message : Stop → Option String
  | .exit _ => none
  | .settings fault => fault.message
  | .files fault => some fault.message
  | .parse fault => some fault.message

end PlotStream.Program
