import PlotStream.Program.Stop

/-!
Finding the settings file. One that is asked for must be there. Otherwise the first of the usual
places counts, and if there is none the user gets a new settings file from a template.
-/

namespace PlotStream.Program

def settingsName : String := "hpglparser.conf"

/-- The template for a new settings file. -/
def templateText : String :=
  "[misc]\n" ++
  "# Log level: debug, info, warning, error, critical, none\n" ++
  "loglevel = warning\n" ++
  "# Number of characters read from the file at once\n" ++
  "buffer_size = 1024\n" ++
  "# Encoding of .plt files; latin-1 accepts any vendor preamble\n" ++
  "encoding = latin-1\n"

structure Site where
  userSettings : Files.Path
  /-- The file with the template, if the built-in one is not to be used. -/
  template : Option String := none
  deriving Repr, DecidableEq

/-- The usual places of the settings file, the preferred one first. -/
def Site.usual (site : Site) : List Files.Path :=
  [Files.Path.ofText settingsName, site.userSettings]

def Site.templateBytes (site : Site) (files : Files.Tree) : Except Files.Fault (List UInt8) :=
  match site.template with
  | some path => files.read path
  | none => .ok templateText.toUTF8.data.toList

/-- Files, and what was logged about them. -/
structure Search where
  files : Files.Tree
  records : List Log.Record
  outcome : Except Stop Files.Path

/-- Make a settings file for the user. The directory for it stays even if there is no
template. -/
def makeUserSettings (site : Site) (files : Files.Tree) : Search :=
  let records : List Log.Record :=
    [⟨.info, "Initialize new default config at <" ++ site.userSettings.text ++ ">"⟩]
  match files.makeDirectory site.userSettings.parent with
  | .error fault => ⟨files, records, .error (.files fault)⟩
  | .ok files =>
    match site.templateBytes files with
    | .error fault => ⟨files, records, .error (.files fault)⟩
    | .ok bytes =>
      match files.write site.userSettings.text bytes with
      | .error fault => ⟨files, records, .error (.files fault)⟩
      | .ok files => ⟨files, records, .ok site.userSettings⟩

/-- Find a settings file, or make one. -/
def findSettings (site : Site) (files : Files.Tree) (wanted : Option Files.Path) : Search :=
  match wanted with
  | some path =>
    match files.has path with
    | .error fault => ⟨files, [], .error (.files fault)⟩
    | .ok true => ⟨files, [], .ok path⟩
    | .ok false =>
      ⟨files, [⟨.critical, "Configuration file <" ++ path.text ++ "> not found!"⟩],
        .error (.exit none)⟩
  | none =>
    match site.usual.filterM files.has with
    | .error fault => ⟨files, [], .error (.files fault)⟩
    | .ok (path :: _) => ⟨files, [⟨.info, "Use config at <" ++ path.text ++ ">"⟩], .ok path⟩
    | .ok [] => makeUserSettings site files

end PlotStream.Program
