import CodeBrowser.Text.Utf16

/-!
# UTF-8

Bytes are cut into pieces from left to right: characters, malformed runs and a truncated tail. A
malformed run is the longest beginning of a character that the next byte breaks off, or a single
byte that begins none.

## Main definitions

* `Utf8.encode`: the bytes of a text.
* `Utf8.pieces`: the pieces of some bytes.
* `Utf8.decode`: the text, or the first fault and where it stands.
* `Utf8.decodeLossy`: the text with U+FFFD for each fault.
-/
namespace CodeBrowser.Utf8

/-- The bytes of one character. -/
def charBytes (c : Char) : List UInt8 :=
  let n := c.toNat
  if n < 0x80 then [n.toUInt8]
  else if n < 0x800 then [(0xC0 + n / 0x40).toUInt8, (0x80 + n % 0x40).toUInt8]
  else if n < 0x10000 then
    [(0xE0 + n / 0x1000).toUInt8, (0x80 + n / 0x40 % 0x40).toUInt8, (0x80 + n % 0x40).toUInt8]
  else
    [(0xF0 + n / 0x40000).toUInt8, (0x80 + n / 0x1000 % 0x40).toUInt8,
      (0x80 + n / 0x40 % 0x40).toUInt8, (0x80 + n % 0x40).toUInt8]

/-- The bytes of a text. -/
def encode (text : List Char) : List UInt8 := text.flatMap charBytes

/-- A stretch of bytes. -/
inductive Piece where
  /-- The bytes of a character. -/
  | char (c : Char)
  /-- Bytes that the byte after them shows to be no character. -/
  | malformed (length : Nat)
  /-- The beginning of a character that the end of the input cuts off. -/
  | truncated (length : Nat)
  deriving DecidableEq, Repr

/-- A character begun but not finished. -/
structure Pending where
  /-- The bits read so far. -/
  value : Nat
  /-- How many bytes have been read. -/
  seen : Nat
  /-- How many bytes are still owed after the next one. -/
  owed : Nat
  /-- The least value of the next byte. -/
  low : UInt8
  /-- The greatest value of the next byte. -/
  high : UInt8
  deriving DecidableEq, Repr

/-- What a byte of 128 or more begins, if anything. The ranges leave out overlong forms, surrogates
and values past U+10FFFF. -/
def lead? (b : UInt8) : Option Pending :=
  if 0xC2 ≤ b && b ≤ 0xDF then some ⟨b.toNat - 0xC0, 1, 0, 0x80, 0xBF⟩
  else if b == 0xE0 then some ⟨0, 1, 1, 0xA0, 0xBF⟩
  else if b == 0xED then some ⟨0xD, 1, 1, 0x80, 0x9F⟩
  else if 0xE1 ≤ b && b ≤ 0xEF then some ⟨b.toNat - 0xE0, 1, 1, 0x80, 0xBF⟩
  else if b == 0xF0 then some ⟨0, 1, 2, 0x90, 0xBF⟩
  else if 0xF1 ≤ b && b ≤ 0xF3 then some ⟨b.toNat - 0xF0, 1, 2, 0x80, 0xBF⟩
  else if b == 0xF4 then some ⟨4, 1, 2, 0x80, 0x8F⟩
  else none

/-- Reads a byte between characters: the piece it completes, and the character it begins. -/
def begin (b : UInt8) : Option Piece × Option Pending :=
  if b < 0x80 then (some (.char (Char.ofNat b.toNat)), none)
  else
    match lead? b with
    | some p => (none, some p)
    | none => (some (.malformed 1), none)

/-- Cuts bytes into pieces, where `pending` is the character begun so far. -/
def piecesFrom : Option Pending → List UInt8 → List Piece
  | none, [] => []
  | some p, [] => [.truncated p.seen]
  | none, b :: rest =>
    let (piece, next) := begin b
    piece.toList ++ piecesFrom next rest
  | some p, b :: rest =>
    if p.low ≤ b && b ≤ p.high then
      let value := p.value * 0x40 + (b.toNat - 0x80)
      match p.owed with
      | 0 => .char (Char.ofNat value) :: piecesFrom none rest
      | owed + 1 => piecesFrom (some ⟨value, p.seen + 1, owed, 0x80, 0xBF⟩) rest
    else
      let (piece, next) := begin b
      .malformed p.seen :: (piece.toList ++ piecesFrom next rest)

/-- The pieces of some bytes, in order. -/
def pieces (bytes : List UInt8) : List Piece := piecesFrom none bytes

/-- Where decoding stops, and on how many bytes; `none` if the input ends inside a character. -/
structure Fault where
  /-- The offset of the first byte that is not part of a character. -/
  offset : Nat
  /-- The number of malformed bytes. -/
  length : Option Nat
  deriving DecidableEq, Repr

/-- The wording of a fault. -/
def Fault.message (f : Fault) : String :=
  match f.length with
  | some n => s!"invalid utf-8 sequence of {n} bytes from index {f.offset}"
  | none => s!"incomplete utf-8 byte sequence from index {f.offset}"

/-- The text of the pieces up to the first fault; `offset` bytes lie before them. -/
def join (offset : Nat) : List Piece → Except Fault (List Char)
  | [] => .ok []
  | .char c :: rest =>
    match join (offset + c.utf8Size) rest with
    | .ok text => .ok (c :: text)
    | .error f => .error f
  | .malformed n :: _ => .error ⟨offset, some n⟩
  | .truncated _ :: _ => .error ⟨offset, none⟩

/-- The text that the bytes encode, or the first fault. -/
def decode (bytes : List UInt8) : Except Fault (List Char) := join 0 (pieces bytes)

/-- The character shown for a piece. -/
def Piece.shown : Piece → Char
  | .char c => c
  | .malformed _ => replacement
  | .truncated _ => replacement

/-- The text that the bytes encode, with U+FFFD for each fault. -/
def decodeLossy (bytes : List UInt8) : List Char := (pieces bytes).map Piece.shown

/-- Whether the bytes are well-formed. -/
def isValid (bytes : List UInt8) : Bool := (decode bytes).isOk

end CodeBrowser.Utf8
