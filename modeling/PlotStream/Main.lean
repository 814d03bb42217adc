import PlotStream.CommandLine.Run

/-!
The program. It takes a picture of the files that its arguments may name, runs on this picture,
and then prints, logs and writes what came out.
-/

namespace PlotStream.Program

/-- What is at a path. -/
def lookAt (path : Files.Path) : IO (Option Files.Node) := do
  try
    let content ← IO.FS.readBinFile path.text
    return some (.file content.data.toList)
  catch
    | .inappropriateType .. => return some .directory
    | .resourceBusy .. => return some .directory
    | _ => return none

/-- The part of the file system that a run may look at. -/
def picture (paths : List Files.Path) : IO Files.Tree := do
  let mut tree : Files.Tree := {}
  for path in paths do
    for part in path.chain do
      if let some node ← lookAt part then
        tree := tree.plant (Files.Tree.placeOf part) node
  return tree

/-- Everything from a stream. -/
partial def readAll (stream : IO.FS.Stream) (bytes : ByteArray) : IO ByteArray := do
  let more ← stream.read 65536
  if more.isEmpty then return bytes else readAll stream (bytes ++ more)

/-- Write the files that are new. -/
def writeNew (before after : Files.Tree) : IO Unit := do
  for (path, bytes) in after.files do
    unless (before.files.lookup path).isSome do
      IO.FS.createDirAll (Files.Path.ofText path).parent.text
      IO.FS.writeBinFile path ⟨bytes.toArray⟩

/-- The exit code for an outcome, after a report on trouble that has not been logged. -/
def exitCode (outcome : Except Stop Unit) : IO UInt32 := do
  match outcome with
  | .ok () => return 0
  | .error (.exit code) => return (code.getD 0).toUInt32
  | .error stop =>
    IO.eprintln (stop.message.getD "")
    return 1

end PlotStream.Program

open PlotStream

def main (args : List String) : IO UInt32 := do
  let home := (← IO.getEnv "HOME").getD ""
  let site : Program.Site :=
    { userSettings := .ofText (home ++ "/.local/share/hpglparser/" ++ Program.settingsName) }
  let files ← Program.picture (CommandLine.pathsOf site args)
  let input ← if args.contains "-" then Program.readAll (← IO.getStdin) .empty else pure .empty
  let result := CommandLine.run site { files, input := input.data.toList } args
  IO.print result.output
  IO.eprint result.errors
  for record in result.records do
    IO.eprintln (record.severity.name ++ ": " ++ record.text)
  Program.writeNew files result.files
  Program.exitCode result.outcome
