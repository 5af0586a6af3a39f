/-!
# UTF-16 code units

Columns and offsets count UTF-16 code units. A character of the basic plane is one unit; any other
character is a surrogate pair, a high unit followed by a low one.

## Main definitions

* `toUnits`: the code units of a text.
* `ofUnits?`: the text that some units spell, unless a surrogate stands alone.
* `ofUnitsLossy`: the same with each lone surrogate read as U+FFFD.
* `isPairAt`: whether a surrogate pair starts at a position.
-/
namespace CodeBrowser

/-- A UTF-16 code unit. -/
abbrev CodeUnit := UInt16

/-- The first half of a surrogate pair. -/
def isHighSurrogate (u : CodeUnit) : Bool := 0xD800 ≤ u && u ≤ 0xDBFF

/-- The second half of a surrogate pair. -/
def isLowSurrogate (u : CodeUnit) : Bool := 0xDC00 ≤ u && u ≤ 0xDFFF

/-- Two units that together spell one character. -/
def isPair (u v : CodeUnit) : Bool := isHighSurrogate u && isLowSurrogate v

/-- The replacement character, shown for what cannot be decoded. -/
def replacement : Char := '\uFFFD'

/-- The code units of one character. -/
def charUnits (c : Char) : List CodeUnit :=
  if c.toNat < 0x10000 then [c.toNat.toUInt16]
  else
    let n := c.toNat - 0x10000
    [(0xD800 + n / 0x400).toUInt16, (0xDC00 + n % 0x400).toUInt16]

/-- The code units of a text. -/
def toUnits (text : List Char) : List CodeUnit := text.flatMap charUnits

/-- The character that a surrogate pair spells. -/
def pairChar (u v : CodeUnit) : Char :=
  Char.ofNat (0x10000 + (u.toNat - 0xD800) * 0x400 + (v.toNat - 0xDC00))

/-- The character that a unit spells on its own; a surrogate spells none. -/
def unitChar? (u : CodeUnit) : Option Char :=
  if isHighSurrogate u || isLowSurrogate u then none else some (Char.ofNat u.toNat)

/-- The character shown for a unit on its own. -/
def unitChar (u : CodeUnit) : Char := (unitChar? u).getD replacement

/-- The text that the units spell; `none` if a surrogate stands alone. -/
def ofUnits? : List CodeUnit → Option (List Char)
  | [] => some []
  | [u] => (unitChar? u).map ([·])
  | u :: v :: rest =>
    if isPair u v then (ofUnits? rest).map (pairChar u v :: ·)
    else
      match unitChar? u with
      | some c => (ofUnits? (v :: rest)).map (c :: ·)
      | none => none

/-- The text that the units spell, with U+FFFD for each surrogate that stands alone. -/
def ofUnitsLossy : List CodeUnit → List Char
  | [] => []
  | [u] => [unitChar u]
  | u :: v :: rest =>
    if isPair u v then pairChar u v :: ofUnitsLossy rest
    else unitChar u :: ofUnitsLossy (v :: rest)

/-- Whether a surrogate pair starts at position `i`. -/
def isPairAt (units : List CodeUnit) (i : Nat) : Bool :=
  units[i]?.any isHighSurrogate && units[i + 1]?.any isLowSurrogate

end CodeBrowser
