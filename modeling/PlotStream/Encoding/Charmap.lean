import PlotStream.Encoding.Codec

/-!
Codes with one byte to a character. ASCII knows the lower half only, Latin-1 numbers its
characters like Unicode, and code pages have a table.
-/

namespace PlotStream.Encoding

def Codec.ascii : Codec where
  name := "ascii"
  front b _ := if b < 0x80 then .char (Char.ofNat b.toNat) 0 else .invalid 0 .notAscii

/-- Latin-1: every byte is the number of its character. -/
def Codec.latin1 : Codec where
  name := "latin-1"
  front b _ := .char (Char.ofNat b.toNat) 0

/-- A code page: a table has the characters from the byte `start` on. The bytes in front of it and
beyond it are numbered like Unicode, and a zero marks a byte without a character. -/
def Codec.codePage (table : List Nat) (start : Nat := 0x80) : Codec where
  name := "charmap"
  front b _ :=
    let n := if b.toNat < start then b.toNat else table.getD (b.toNat - start) b.toNat
    if n = 0 && b != 0 then .invalid 0 .undefinedCharacter else .char (Char.ofNat n) 0

/-- The bytes `0x80` to `0x9F` of code page 1252. -/
def windows1252Table : List Nat :=
  [ 0x20AC, 0x0000, 0x201A, 0x0192, 0x201E, 0x2026, 0x2020, 0x2021,
    0x02C6, 0x2030, 0x0160, 0x2039, 0x0152, 0x0000, 0x017D, 0x0000,
    0x0000, 0x2018, 0x2019, 0x201C, 0x201D, 0x2022, 0x2013, 0x2014,
    0x02DC, 0x2122, 0x0161, 0x203A, 0x0153, 0x0000, 0x017E, 0x0178 ]

/-- The bytes from `0x80` on of code page 850. -/
def dos850Table : List Nat :=
  [ 0x00C7, 0x00FC, 0x00E9, 0x00E2, 0x00E4, 0x00E0, 0x00E5, 0x00E7,
    0x00EA, 0x00EB, 0x00E8, 0x00EF, 0x00EE, 0x00EC, 0x00C4, 0x00C5,
    0x00C9, 0x00E6, 0x00C6, 0x00F4, 0x00F6, 0x00F2, 0x00FB, 0x00F9,
    0x00FF, 0x00D6, 0x00DC, 0x00F8, 0x00A3, 0x00D8, 0x00D7, 0x0192,
    0x00E1, 0x00ED, 0x00F3, 0x00FA, 0x00F1, 0x00D1, 0x00AA, 0x00BA,
    0x00BF, 0x00AE, 0x00AC, 0x00BD, 0x00BC, 0x00A1, 0x00AB, 0x00BB,
    0x2591, 0x2592, 0x2593, 0x2502, 0x2524, 0x00C1, 0x00C2, 0x00C0,
    0x00A9, 0x2563, 0x2551, 0x2557, 0x255D, 0x00A2, 0x00A5, 0x2510,
    0x2514, 0x2534, 0x252C, 0x251C, 0x2500, 0x253C, 0x00E3, 0x00C3,
    0x255A, 0x2554, 0x2569, 0x2566, 0x2560, 0x2550, 0x256C, 0x00A4,
    0x00F0, 0x00D0, 0x00CA, 0x00CB, 0x00C8, 0x0131, 0x00CD, 0x00CE,
    0x00CF, 0x2518, 0x250C, 0x2588, 0x2584, 0x00A6, 0x00CC, 0x2580,
    0x00D3, 0x00DF, 0x00D4, 0x00D2, 0x00F5, 0x00D5, 0x00B5, 0x00FE,
    0x00DE, 0x00DA, 0x00DB, 0x00D9, 0x00FD, 0x00DD, 0x00AF, 0x00B4,
    0x00AD, 0x00B1, 0x2017, 0x00BE, 0x00B6, 0x00A7, 0x00F7, 0x00B8,
    0x00B0, 0x00A8, 0x00B7, 0x00B9, 0x00B3, 0x00B2, 0x25A0, 0x00A0 ]

def Codec.windows1252 : Codec := .codePage windows1252Table

def Codec.dos850 : Codec := .codePage dos850Table

end PlotStream.Encoding
