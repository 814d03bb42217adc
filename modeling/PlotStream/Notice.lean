import PlotStream.Command
import PlotStream.Location

/-!
What happens during a parse, as it is told to the outside. The sequence of notices is the whole
account of a parse apart from its end: the commands and the diagnostics are read off it, and so
are the log records.
-/

namespace PlotStream

/-- A condition worth telling that does not end the parse. -/
inductive Diagnostic where
  /-- The text ended before the command that starts a drawing. -/
  | noInit
  /-- A command was skipped because its operation is not supported. -/
  | unsupported (opcode : List Char)
  deriving Repr, DecidableEq

def Diagnostic.text : Diagnostic → String
  | .noInit => "No initialize command found"
  | .unsupported opcode => "Unsupported operation: " ++ String.ofList opcode

/-- Something that happened during a parse. -/
inductive Notice where
  /-- A command was decoded; `place` is where the lookahead stood then. -/
  | command (c : Command) (place : Location)
  | diagnostic (d : Diagnostic) (place : Location)
  /-- A chunk of `size` characters was read, the first of them at `offset`. -/
  | refilled (size offset : Nat)
  /-- The source told the end of the text, at `offset`. -/
  | endOfText (offset : Nat)
  /-- The parse came to its end after `count` commands. -/
  | finished (count : Nat)
  deriving Repr, DecidableEq

def Notice.commands (trace : List Notice) : List (Command × Location) :=
  trace.filterMap fun
    | .command c place => some (c, place)
    | _ => none

def Notice.diagnostics (trace : List Notice) : List (Diagnostic × Location) :=
  trace.filterMap fun
    | .diagnostic d place => some (d, place)
    | _ => none

@[simp]
theorem Notice.commands_append (trace more : List Notice) :
    commands (trace ++ more) = commands trace ++ commands more :=
  List.filterMap_append

@[simp]
theorem Notice.diagnostics_append (trace more : List Notice) :
    diagnostics (trace ++ more) = diagnostics trace ++ diagnostics more :=
  List.filterMap_append

theorem Notice.commands_filter (keep : Notice → Bool) (trace : List Notice) :
    commands (trace.filter keep) =
      (commands trace).filter fun entry => keep (.command entry.1 entry.2) := by
  rw [commands, commands, List.filterMap_filter, List.filter_filterMap]
  congr 1
  funext notice
  cases notice <;> simp [Option.filter]

theorem Notice.diagnostics_filter (keep : Notice → Bool) (trace : List Notice) :
    diagnostics (trace.filter keep) =
      (diagnostics trace).filter fun entry => keep (.diagnostic entry.1 entry.2) := by
  rw [diagnostics, diagnostics, List.filterMap_filter, List.filter_filterMap]
  congr 1
  funext notice
  cases notice <;> simp [Option.filter]

end PlotStream
