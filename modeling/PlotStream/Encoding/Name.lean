import PlotStream.Encoding.CodePages

/-!
Names of encodings. Which encodings are known by name is up to the registry at hand. The usual one
has the encodings that are spelled out here and the code pages: case does not matter in their names,
and neither does what stands between the letters and digits of a name, as long as something does. A
name with a null character in it is not looked up in any registry.
-/

namespace PlotStream.Encoding

/-- Whether a character matters in a name. -/
def isNameChar (c : Char) : Bool := c.isAlphanum || c == '.'

/-- A name in its plain form: lower case, with one underscore for every run of other characters
inside the name. A pending underscore is written before the next character that matters. -/
def plainName (started pending : Bool) : List Char → List Char
  | [] => []
  | c :: rest =>
    if isNameChar c then
      let tail := c.toLower :: plainName true false rest
      if started && pending then '_' :: tail else tail
    else plainName started true rest

/-- The proper names of the encodings. -/
def properNames : List (String × Encoding) :=
  [ ("ascii", .ascii), ("latin_1", .latin1), ("utf_8", .utf8), ("utf_8_sig", .utf8Signed),
    ("utf_16", .utf16 none), ("utf_16_le", .utf16 (some .little)),
    ("utf_16_be", .utf16 (some .big)), ("utf_32", .utf32 none),
    ("utf_32_le", .utf32 (some .little)), ("utf_32_be", .utf32 (some .big)),
    ("cp1252", .windows1252), ("cp850", .dos850) ]

/-- Other names under which the encodings are known. -/
def otherNames : List (String × Encoding) :=
  [ ("646", .ascii), ("ansi_x3.4_1968", .ascii), ("ansi_x3_4_1968", .ascii),
    ("ansi_x3.4_1986", .ascii), ("cp367", .ascii), ("csascii", .ascii), ("ibm367", .ascii),
    ("iso646_us", .ascii), ("iso_646.irv_1991", .ascii), ("iso_ir_6", .ascii), ("us", .ascii),
    ("us_ascii", .ascii),
    ("8859", .latin1), ("cp819", .latin1), ("csisolatin1", .latin1), ("ibm819", .latin1),
    ("iso8859", .latin1), ("iso8859_1", .latin1), ("iso_8859_1", .latin1),
    ("iso_8859_1_1987", .latin1), ("iso_ir_100", .latin1), ("l1", .latin1), ("latin", .latin1),
    ("latin1", .latin1),
    ("u8", .utf8), ("utf", .utf8), ("utf8", .utf8), ("utf8_ucs2", .utf8), ("utf8_ucs4", .utf8),
    ("cp65001", .utf8),
    ("u16", .utf16 none), ("utf16", .utf16 none),
    ("unicodelittleunmarked", .utf16 (some .little)), ("utf_16le", .utf16 (some .little)),
    ("unicodebigunmarked", .utf16 (some .big)), ("utf_16be", .utf16 (some .big)),
    ("u32", .utf32 none), ("utf32", .utf32 none), ("utf_32le", .utf32 (some .little)),
    ("utf_32be", .utf32 (some .big)),
    ("1252", .windows1252), ("windows_1252", .windows1252),
    ("850", .dos850), ("cspc850multilingual", .dos850), ("ibm850", .dos850) ]

/-- What a name stands for. A point in a name may also stand for an underscore of one of the other
names. -/
def lookUp {α : Type} (others propers : List (String × α)) (name : String) : Option α :=
  let plain := plainName false false name.toList
  let written := String.ofList plain
  let pointless := String.ofList (plain.map fun c => if c = '.' then '_' else c)
  (others.lookup written).or ((others.lookup pointless).or (propers.lookup written))

/-- The encoding a name stands for among those that are spelled out here. -/
def ofName? (name : String) : Option Encoding := lookUp otherNames properNames name

/-- The code page a name stands for. -/
def CodePage.ofName? (name : String) : Option CodePage :=
  lookUp (codePages.flatMap fun page => page.others.map (·, page))
    (codePages.map fun page => (page.name, page)) name

/-- The encodings that are known by name. Latin-1 is always one of them. -/
class Registry where
  find? (name : String) : Option Coding
  find?_latin1 : find? "latin-1" = some (.own .latin1)

/-- The encodings that are spelled out here, and the code pages. -/
instance : Registry where
  find? name :=
    ((ofName? name).map Coding.own).or
      ((CodePage.ofName? name).map fun page => .given (.ofCodec page.codec))
  find?_latin1 := rfl

/-- Why there is no encoding of some name. -/
inductive NameFault where
  | unknown (name : String)
  /-- The name has a null character in it. -/
  | nullCharacter
  deriving Repr, DecidableEq

def NameFault.message : NameFault → String
  | .unknown name => "unknown encoding: " ++ name
  | .nullCharacter => "embedded null character"

/-- The encoding a name stands for, or what is wrong with the name. -/
def named [Registry] (name : String) : Except NameFault Coding :=
  if name.toList.contains '\x00' then .error .nullCharacter
  else
    match Registry.find? name with
    | some coding => .ok coding
    | none => .error (.unknown name)

end PlotStream.Encoding
