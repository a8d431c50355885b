import LinkGauge.Text.Utf16
import LinkGauge.Text.Utf8

/-!
# Charsets

The charsets in which replies are read: those of Unicode and the Western one. A charset is known by
many labels, and a mark of the byte order in front of a text goes before all of them.
-/

namespace LinkGauge

inductive Charset where
  | utf8
  | utf16 (order : Utf16.Order)
  /-- Octets for the letters of Western Europe, also where a label promises only ASCII. -/
  | western
  deriving DecidableEq, Repr

namespace Charset

/-! ### Labels -/

/-- The labels of each charset, in lower case. -/
def labels : List (Charset × List String) :=
  [(utf8, ["utf-8", "utf8", "unicode-1-1-utf-8", "unicode11utf8", "unicode20utf8",
      "x-unicode20utf8"]),
    (utf16 .little, ["utf-16", "utf-16le", "csunicode", "iso-10646-ucs-2", "ucs-2", "unicode",
      "unicodefeff"]),
    (utf16 .big, ["utf-16be", "unicodefffe"]),
    (western, ["windows-1252", "iso-8859-1", "latin1", "us-ascii", "ascii", "ansi_x3.4-1968",
      "cp1252", "cp819", "csisolatin1", "ibm819", "iso-ir-100", "iso8859-1", "iso88591",
      "iso_8859-1", "iso_8859-1:1987", "l1", "x-cp1252"])]

/-- The charset with a label. The case of letters and spaces around the label do not matter. -/
def ofLabel? (label : List Char) : Option Charset :=
  let trimmed := ((label.dropWhile (· == ' ')).reverse.dropWhile (· == ' ')).reverse
  let name := String.ofList (trimmed.map Char.toLower)
  (labels.find? fun entry => entry.2.contains name).map Prod.fst

/-- What a mark of the byte order tells, and the octets behind it. -/
def ofMark? : List UInt8 → Option (Charset × List UInt8)
  | 0xEF :: 0xBB :: 0xBF :: rest => some (utf8, rest)
  | 0xFF :: 0xFE :: rest => some (utf16 .little, rest)
  | 0xFE :: 0xFF :: rest => some (utf16 .big, rest)
  | _ => none

/-! ### Decoding -/

/-- The characters of the octets from 0x80 to 0x9F in the Western charset. -/
def westernSigns : List Char :=
  ['\u20AC', '\u0081', '\u201A', '\u0192', '\u201E', '\u2026', '\u2020', '\u2021',
    '\u02C6', '\u2030', '\u0160', '\u2039', '\u0152', '\u008D', '\u017D', '\u008F',
    '\u0090', '\u2018', '\u2019', '\u201C', '\u201D', '\u2022', '\u2013', '\u2014',
    '\u02DC', '\u2122', '\u0161', '\u203A', '\u0153', '\u009D', '\u017E', '\u0178']

/-- The character of an octet in the Western charset. -/
def westernChar (b : UInt8) : Char :=
  if b < 0x80 ∨ 0x9F < b then Char.ofNat b.toNat
  else westernSigns.getD (b.toNat - 0x80) '\uFFFD'

/-- The text that octets spell, with U+FFFD for each part that makes no sense. -/
def decode : Charset → List UInt8 → String
  | utf8, bytes => Utf8.decodeLossy bytes
  | utf16 order, bytes => Utf16.decodeLossy order bytes
  | western, bytes => String.ofList (bytes.map westernChar)

end Charset

end LinkGauge
