import CodeBrowser.Text.Utf8
import CodeBrowser.Text.Charset.Tables

/-!
# Named charsets

Charsets are found by label, in any letter case and with blanks around it, and decode every byte
sequence: what is malformed becomes U+FFFD. A byte-order mark at the start overrides the charset
and is dropped. The multi-byte charsets of East Asia are not among them.

## Main definitions

* `Charset.ofLabel?`: the charset that a label names.
* `Charset.decode`: the text of some bytes.
-/
namespace CodeBrowser

/-- The charsets that a label can name. -/
inductive Charset where
  | utf8
  | utf16le
  | utf16be
  /-- One byte a character, read from a table. -/
  | single (table : SingleByte)
  /-- ASCII, and the upper half in the private use area from U+F780 on. -/
  | userDefined
  /-- Stands for charsets that are not decoded: any input reads as one U+FFFD. -/
  | undecoded
  deriving DecidableEq, Repr

namespace Charset

/-- The labels of each charset. -/
def labels : List (Charset × List String) := [
  (.utf8, ["unicode-1-1-utf-8", "unicode11utf8", "unicode20utf8", "utf-8", "utf8",
    "x-unicode20utf8"]),
  (.single .ibm866, ["866", "cp866", "csibm866", "ibm866"]),
  (.single .iso88592, ["csisolatin2", "iso-8859-2", "iso-ir-101", "iso8859-2", "iso88592",
    "iso_8859-2", "iso_8859-2:1987", "l2", "latin2"]),
  (.single .iso88593, ["csisolatin3", "iso-8859-3", "iso-ir-109", "iso8859-3", "iso88593",
    "iso_8859-3", "iso_8859-3:1988", "l3", "latin3"]),
  (.single .iso88594, ["csisolatin4", "iso-8859-4", "iso-ir-110", "iso8859-4", "iso88594",
    "iso_8859-4", "iso_8859-4:1988", "l4", "latin4"]),
  (.single .iso88595, ["csisolatincyrillic", "cyrillic", "iso-8859-5", "iso-ir-144", "iso8859-5",
    "iso88595", "iso_8859-5", "iso_8859-5:1988"]),
  (.single .iso88596, ["arabic", "asmo-708", "csiso88596e", "csiso88596i", "csisolatinarabic",
    "ecma-114", "iso-8859-6", "iso-8859-6-e", "iso-8859-6-i", "iso-ir-127", "iso8859-6",
    "iso88596", "iso_8859-6", "iso_8859-6:1987"]),
  (.single .iso88597, ["csisolatingreek", "ecma-118", "elot_928", "greek", "greek8", "iso-8859-7",
    "iso-ir-126", "iso8859-7", "iso88597", "iso_8859-7", "iso_8859-7:1987", "sun_eu_greek"]),
  (.single .iso88598, ["csiso88598e", "csisolatinhebrew", "hebrew", "iso-8859-8", "iso-8859-8-e",
    "iso-ir-138", "iso8859-8", "iso88598", "iso_8859-8", "iso_8859-8:1988", "visual",
    "csiso88598i", "iso-8859-8-i", "logical"]),
  (.single .iso885910, ["csisolatin6", "iso-8859-10", "iso-ir-157", "iso8859-10", "iso885910",
    "l6", "latin6"]),
  (.single .iso885913, ["iso-8859-13", "iso8859-13", "iso885913"]),
  (.single .iso885914, ["iso-8859-14", "iso8859-14", "iso885914"]),
  (.single .iso885915, ["csisolatin9", "iso-8859-15", "iso8859-15", "iso885915", "iso_8859-15",
    "l9"]),
  (.single .iso885916, ["iso-8859-16"]),
  (.single .koi8r, ["cskoi8r", "koi", "koi8", "koi8-r", "koi8_r"]),
  (.single .koi8u, ["koi8-ru", "koi8-u"]),
  (.single .macintosh, ["csmacintosh", "mac", "macintosh", "x-mac-roman"]),
  (.single .windows874, ["dos-874", "iso-8859-11", "iso8859-11", "iso885911", "tis-620",
    "windows-874"]),
  (.single .windows1250, ["cp1250", "windows-1250", "x-cp1250"]),
  (.single .windows1251, ["cp1251", "windows-1251", "x-cp1251"]),
  (.single .windows1252, ["ansi_x3.4-1968", "ascii", "cp1252", "cp819", "csisolatin1", "ibm819",
    "iso-8859-1", "iso-ir-100", "iso8859-1", "iso88591", "iso_8859-1", "iso_8859-1:1987", "l1",
    "latin1", "us-ascii", "windows-1252", "x-cp1252"]),
  (.single .windows1253, ["cp1253", "windows-1253", "x-cp1253"]),
  (.single .windows1254, ["cp1254", "csisolatin5", "iso-8859-9", "iso-ir-148", "iso8859-9",
    "iso88599", "iso_8859-9", "iso_8859-9:1989", "l5", "latin5", "windows-1254", "x-cp1254"]),
  (.single .windows1255, ["cp1255", "windows-1255", "x-cp1255"]),
  (.single .windows1256, ["cp1256", "windows-1256", "x-cp1256"]),
  (.single .windows1257, ["cp1257", "windows-1257", "x-cp1257"]),
  (.single .windows1258, ["cp1258", "windows-1258", "x-cp1258"]),
  (.single .macCyrillic, ["x-mac-cyrillic", "x-mac-ukrainian"]),
  (.undecoded, ["csiso2022kr", "hz-gb-2312", "iso-2022-cn", "iso-2022-cn-ext", "iso-2022-kr",
    "replacement"]),
  (.utf16be, ["unicodefffe", "utf-16be"]),
  (.utf16le, ["csunicode", "iso-10646-ucs-2", "ucs-2", "unicode", "unicodefeff", "utf-16",
    "utf-16le"]),
  (.userDefined, ["x-user-defined"])]

/-- The blanks that may surround a label. -/
def isLabelBlank (c : Char) : Bool := c ∈ ['\t', '\n', '\u000C', '\r', ' ']

/-- A label without surrounding blanks and in lower case. -/
def normalizeLabel (label : String) : String :=
  let inner := (label.toList.dropWhile isLabelBlank).reverse.dropWhile isLabelBlank
  String.ofList (inner.reverse.map Char.toLower)

/-- The charset that a label names. -/
def ofLabel? (label : String) : Option Charset :=
  (labels.find? fun entry => entry.2.contains (normalizeLabel label)).map (·.1)

/-- Two bytes as a code unit, the first one the more significant. -/
def unitOfBytes (high low : UInt8) : CodeUnit := high.toUInt16 <<< 8 ||| low.toUInt16

/-- The code units of bytes in pairs, and whether a byte is left over. -/
def unitsOfBytes (bigEndian : Bool) : List UInt8 → List CodeUnit × Bool
  | a :: b :: rest =>
    let (units, odd) := unitsOfBytes bigEndian rest
    ((if bigEndian then unitOfBytes a b else unitOfBytes b a) :: units, odd)
  | [_] => ([], true)
  | [] => ([], false)

/-- The text of UTF-16 bytes. A byte left over adds one U+FFFD, unless a high surrogate stands right
before it and already does. -/
def decodeUtf16 (bigEndian : Bool) (bytes : List UInt8) : List Char :=
  let (units, odd) := unitsOfBytes bigEndian bytes
  let text := ofUnitsLossy units
  if odd && !(units.getLast?.any isHighSurrogate) then text ++ [replacement] else text

/-- The text of the bytes in the charset, without regard to a byte-order mark. -/
def decodePlain : Charset → List UInt8 → List Char
  | .utf8, bytes => Utf8.decodeLossy bytes
  | .utf16le, bytes => decodeUtf16 false bytes
  | .utf16be, bytes => decodeUtf16 true bytes
  | .single table, bytes =>
    bytes.map fun b =>
      if b < 0x80 then Char.ofNat b.toNat
      else Char.ofNat (table.upper.getD (b.toNat - 0x80) 0xFFFD)
  | .userDefined, bytes =>
    bytes.map fun b => if b < 0x80 then Char.ofNat b.toNat else Char.ofNat (0xF700 + b.toNat)
  | .undecoded, [] => []
  | .undecoded, _ :: _ => [replacement]

/-- The text of the bytes. A byte-order mark decides the charset and is not part of the text. -/
def decode (charset : Charset) : List UInt8 → List Char
  | 0xEF :: 0xBB :: 0xBF :: rest => decodePlain .utf8 rest
  | 0xFF :: 0xFE :: rest => decodePlain .utf16le rest
  | 0xFE :: 0xFF :: rest => decodePlain .utf16be rest
  | bytes => decodePlain charset bytes

end Charset

end CodeBrowser
