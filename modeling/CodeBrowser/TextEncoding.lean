import CodeBrowser.Text.Charset

/-!
# Encodings of source files

The encoding of a file is read off its bytes: a byte-order mark decides, well-formed UTF-8 is taken
as such, and for anything else a legacy charset is guessed. Unicode encodings are decoded strictly,
legacy charsets leniently.

## Main definitions

* `TextEncoding`: the encodings, with their display names.
* `TextEncoding.detect`: the encoding of some bytes.
* `TextEncoding.decode`: the text of some bytes, without a byte-order mark, or a `DecodeError`.
-/
namespace CodeBrowser

/-- The encodings a source file may arrive in. -/
inductive TextEncoding where
  | utf8
  | utf8Bom
  | utf16le
  | utf16be
  | ascii
  /-- A charset known by a label. -/
  | legacy (label : String)
  deriving DecidableEq, Repr

/-- Why bytes are no text in the encoding they were read in. -/
inductive DecodeError where
  | utf8 (fault : Utf8.Fault)
  | utf8Bom (fault : Utf8.Fault)
  /-- A surrogate stands alone. -/
  | utf16le
  /-- A surrogate stands alone. -/
  | utf16be
  /-- No charset has this label. -/
  | unknownLabel (label : String)
  deriving DecidableEq, Repr

/-- The wording of a decoding error: what was read, then the cause. -/
def DecodeError.message : DecodeError → String
  | .utf8 fault => "invalid UTF-8 content: " ++ fault.message
  | .utf8Bom fault => "invalid UTF-8 BOM content: " ++ fault.message
  | .utf16le => "invalid UTF-16 LE content: invalid utf-16: lone surrogate found"
  | .utf16be => "invalid UTF-16 BE content: invalid utf-16: lone surrogate found"
  | .unknownLabel label => "unknown encoding: " ++ label

namespace TextEncoding

/-- The name shown to the user. -/
def displayName : TextEncoding → String
  | .utf8 => "UTF-8"
  | .utf8Bom => "UTF-8 BOM"
  | .utf16le => "UTF-16 LE"
  | .utf16be => "UTF-16 BE"
  | .ascii => "ASCII"
  | .legacy label => label

/-! ### Detection -/

/-- Whether a run of bytes reads as a Cyrillic word in windows-1251: three letters or more, all
capital, or small after the first. -/
def isCyrillicWord (run : List UInt8) : Bool :=
  3 ≤ run.length && (run.all (· < 0xE0) || run.tail.all (0xE0 ≤ ·))

/-- The maximal runs of bytes from 0xC0 on, where `run` is the one being read, last byte first. -/
def letterRuns (run : List UInt8) : List UInt8 → List (List UInt8)
  | [] => [run.reverse]
  | b :: rest => if 0xC0 ≤ b then letterRuns (b :: run) rest else run.reverse :: letterRuns [] rest

/-- The legacy charset that text most likely is in. Western text has accented letters here and there
among plain ones; whole words made of upper-half letters are Cyrillic. -/
def guessLabel (bytes : List UInt8) : String :=
  if (letterRuns [] bytes).any isCyrillicWord then "windows-1251" else "windows-1252"

/-- The encoding of some bytes. -/
def detect (bytes : List UInt8) : TextEncoding :=
  match bytes with
  | 0xEF :: 0xBB :: 0xBF :: _ => .utf8Bom
  | 0xFF :: 0xFE :: _ => .utf16le
  | 0xFE :: 0xFF :: _ => .utf16be
  | _ =>
    if Utf8.isValid bytes then
      if bytes.all (· < 0x80) then .ascii else .utf8
    else .legacy (guessLabel bytes)

/-! ### Decoding -/

/-- The bytes after a leading byte-order mark, if they start with it. -/
def dropMark (mark bytes : List UInt8) : List UInt8 :=
  if mark.isPrefixOf bytes then bytes.drop mark.length else bytes

/-- The text of UTF-16 bytes taken in pairs; a byte left over is not looked at. -/
def decodeUtf16? (bigEndian : Bool) (bytes : List UInt8) : Option (List Char) :=
  ofUnits? (Charset.unitsOfBytes bigEndian bytes).1

/-- The text of the bytes, without a leading byte-order mark. -/
def decode (encoding : TextEncoding) (bytes : List UInt8) : Except DecodeError (List Char) :=
  match encoding with
  | .utf8 | .ascii => (Utf8.decode bytes).mapError .utf8
  | .utf8Bom => (Utf8.decode (dropMark [0xEF, 0xBB, 0xBF] bytes)).mapError .utf8Bom
  | .utf16le =>
    match decodeUtf16? false (dropMark [0xFF, 0xFE] bytes) with
    | some text => .ok text
    | none => .error .utf16le
  | .utf16be =>
    match decodeUtf16? true (dropMark [0xFE, 0xFF] bytes) with
    | some text => .ok text
    | none => .error .utf16be
  | .legacy label =>
    match Charset.ofLabel? label with
    | some charset => .ok (charset.decode bytes)
    | none => .error (.unknownLabel label)

end TextEncoding

end CodeBrowser
