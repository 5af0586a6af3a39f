/-!
# Colours

A colour is written as a hash sign and hexadecimal digits: three digits, each standing for a doubled
one, or two digits for each of red, green, blue and, if given, alpha.

## Main definitions

* `Color`: four channels of a byte.
* `Color.parse?`: the colour that a text writes.
* `Color.hex`: the text of a colour.
-/
namespace CodeBrowser

/-- A colour with its four channels. -/
structure Color where
  r : UInt8
  g : UInt8
  b : UInt8
  a : UInt8
  deriving DecidableEq, Repr

namespace Color

/-- An opaque colour. -/
def rgb (r g b : UInt8) : Color := ⟨r, g, b, 255⟩

def black : Color := rgb 0 0 0

def white : Color := rgb 255 255 255

/-! ### Reading -/

/-- The value of a hexadecimal digit. -/
def digit? (c : Char) : Option Nat :=
  if '0' ≤ c ∧ c ≤ '9' then some (c.toNat - '0'.toNat)
  else if 'a' ≤ c ∧ c ≤ 'f' then some (c.toNat - 'a'.toNat + 10)
  else if 'A' ≤ c ∧ c ≤ 'F' then some (c.toNat - 'A'.toNat + 10)
  else none

/-- The channel that a single digit stands for: the digit doubled. -/
def single? (c : Char) : Option UInt8 := (digit? c).map fun d => (17 * d).toUInt8

/-- The channel that two characters stand for: two digits, or a plus sign and a digit. -/
def pair? (c d : Char) : Option UInt8 :=
  if c = '+' then (digit? d).map Nat.toUInt8
  else
    match digit? c, digit? d with
    | some high, some low => some (16 * high + low).toUInt8
    | _, _ => none

/-- The colour that the characters after the hash sign stand for. -/
def parseDigits? : List Char → Option Color
  | [r, g, b] =>
    match single? r, single? g, single? b with
    | some r, some g, some b => some (rgb r g b)
    | _, _, _ => none
  | [r, r', g, g', b, b'] =>
    match pair? r r', pair? g g', pair? b b' with
    | some r, some g, some b => some (rgb r g b)
    | _, _, _ => none
  | [r, r', g, g', b, b', a, a'] =>
    match pair? r r', pair? g g', pair? b b', pair? a a' with
    | some r, some g, some b, some a => some ⟨r, g, b, a⟩
    | _, _, _, _ => none
  | _ => none

/-- The colour that a text writes. -/
def parse? (s : String) : Option Color :=
  match s.toList with
  | '#' :: digits => parseDigits? digits
  | _ => none

/-- What is said of a text that writes no colour. -/
def invalidMessage (s : String) : String := "invalid hex color: " ++ s

/-! ### Writing -/

/-- The hexadecimal digit with a given value. -/
def hexDigit (n : Nat) : Char :=
  if n < 10 then Char.ofNat ('0'.toNat + n) else Char.ofNat ('A'.toNat + (n - 10))

/-- The two digits of a channel. -/
def hexPair (v : UInt8) : List Char := [hexDigit (v.toNat / 16), hexDigit (v.toNat % 16)]

/-- The text with all four channels. -/
def hex8 (c : Color) : String :=
  String.ofList ('#' :: (hexPair c.r ++ hexPair c.g ++ hexPair c.b ++ hexPair c.a))

/-- The text of a colour; alpha is left out of an opaque one. -/
def hex (c : Color) : String :=
  if c.a = 255 then String.ofList ('#' :: (hexPair c.r ++ hexPair c.g ++ hexPair c.b))
  else c.hex8

end Color

end CodeBrowser
