/-!
# Reading JSON

Texts are read from left to right, and the first fault met ends the reading. A reader takes a value
off the front of the text; the parts of the text that nothing asks for are skipped.

## Main definitions

* `Json.Fault`: the three kinds of faults.
* `Json.Reader`: takes something off the front of a text.
* `Json.readNumber`, `Json.readChars`: numbers and the rest of a string.
* `Json.skipValue`: skips any value.
-/
namespace CodeBrowser.Json

/-- What is wrong with a text. -/
inductive Fault where
  /-- It is not JSON. -/
  | malformed
  /-- It is JSON, but not of the wanted shape. -/
  | mismatch
  /-- It ends too early. -/
  | truncated
  deriving DecidableEq, Repr

/-- Takes something off the front of a text. -/
abbrev Reader (β : Type) := StateT (List Char) (Except Fault) β

/-! ### Blanks, words and digits -/

def isBlank (c : Char) : Bool := c = ' ' || c = '\n' || c = '\t' || c = '\r'

/-- The text from its first character that is no blank. -/
def skipBlanks (s : List Char) : List Char := s.dropWhile isBlank

/-- Takes given characters. -/
def expect : List Char → List Char → Except Fault (List Char)
  | [], s => .ok s
  | _ :: _, [] => .error .truncated
  | c :: cs, d :: s => if c = d then expect cs s else .error .malformed

/-- The value of a decimal digit. -/
def digit? (c : Char) : Option Nat :=
  if '0' ≤ c ∧ c ≤ '9' then some (c.toNat - '0'.toNat) else none

def isDigit (c : Char) : Bool := (digit? c).isSome

/-- The value of a hexadecimal digit. -/
def hexDigit? (c : Char) : Option Nat :=
  if 'a' ≤ c ∧ c ≤ 'f' then some (c.toNat - 'a'.toNat + 10)
  else if 'A' ≤ c ∧ c ≤ 'F' then some (c.toNat - 'A'.toNat + 10)
  else digit? c

/-! ### Numbers -/

/-- A number as it was written. -/
inductive Number where
  /-- A natural number of 64 bits. -/
  | nat (n : Nat)
  /-- A negative integer of 64 bits, by its magnitude. -/
  | negative (n : Nat)
  /-- Any other number. -/
  | float (x : Float)

/-- The greatest significand that is kept exactly. -/
def maxWord : Nat := 0xFFFFFFFFFFFFFFFF

/-- Appends digits to a significand for as long as it fits 64 bits: the significand, the number of
digits taken, and the text after them. -/
def gatherDigits (significand taken : Nat) : List Char → Nat × Nat × List Char
  | [] => (significand, taken, [])
  | c :: s =>
    match digit? c with
    | some d =>
      let next := significand * 10 + d
      if next ≤ maxWord then gatherDigits next (taken + 1) s else (significand, taken, c :: s)
    | none => (significand, taken, c :: s)

/-- `f * 10 ^ e`, in steps of powers of ten that double precision holds; `none` past its range. -/
def scaleByTen (f : Float) (e : Int) : Option Float :=
  if 0 ≤ e then
    if e ≤ 308 then
      let x := f * Float.ofScientific 1 false e.toNat
      if x.isInf then none else some x
    else if f == 0 then some f
    else none
  else if -308 ≤ e then some (f / Float.ofScientific 1 false (-e).toNat)
  else if f == 0 then some f
  else scaleByTen (f / 1e308) (e + 308)
termination_by (-e).toNat
decreasing_by omega

/-- The number with a significand and an exponent; out of range is malformed. -/
def scaled (isNegative : Bool) (significand : Nat) (e : Int) : Except Fault Number :=
  match scaleByTen (Float.ofNat significand) e with
  | some x => .ok (.float (if isNegative then -x else x))
  | none => .error .malformed

/-- The greatest exponent that is told apart. -/
def maxExponent : Nat := 0x7FFFFFFF

/-- The value of a run of digits, `none` once it passes the greatest exponent, and the text after
the run. -/
def exponentDigits (value : Option Nat) : List Char → Option Nat × List Char
  | [] => (value, [])
  | c :: s =>
    match digit? c with
    | some d =>
      let next := value.bind fun v => if v * 10 + d ≤ maxExponent then some (v * 10 + d) else none
      exponentDigits next s
    | none => (value, c :: s)

/-- Reads an exponent after its letter. -/
def readExponent (isNegative : Bool) (significand : Nat) (start : Int) (s : List Char) :
    Except Fault (Number × List Char) :=
  let (isDown, s) :=
    match s with
    | '+' :: s => (false, s)
    | '-' :: s => (true, s)
    | s => (false, s)
  match s with
  | [] => .error .truncated
  | c :: _ =>
    if isDigit c then
      match exponentDigits (some 0) s with
      | (some e, rest) =>
        let e : Int := if isDown then start - e else start + e
        (scaled isNegative significand e).map (·, rest)
      | (none, rest) =>
        if significand ≠ 0 ∧ ¬isDown then .error .malformed
        else .ok (.float (if isNegative then -0.0 else 0.0), rest)
    else .error .malformed

/-- Reads what follows the digits of a number that is no plain integer. -/
def readScale (isNegative : Bool) (significand : Nat) (e : Int) (s : List Char) :
    Except Fault (Number × List Char) :=
  match s with
  | 'e' :: rest | 'E' :: rest => readExponent isNegative significand e rest
  | _ => (scaled isNegative significand e).map (·, s)

/-- Reads the digits after a decimal point. Digits past the significand are dropped. -/
def readFraction (isNegative : Bool) (significand : Nat) (e : Int) (s : List Char) :
    Except Fault (Number × List Char) :=
  match s with
  | [] => .error .truncated
  | c :: _ =>
    if isDigit c then
      let (significand, taken, rest) := gatherDigits significand 0 s
      readScale isNegative significand (e - taken) (rest.dropWhile isDigit)
    else .error .malformed

/-- The integer with a sign and a magnitude. A zero with a sign, and what 64 bits do not hold, is no
integer. -/
def integer (isNegative : Bool) (magnitude : Nat) : Number :=
  if isNegative then
    if magnitude ≠ 0 ∧ magnitude ≤ 0x8000000000000000 then .negative magnitude
    else .float (-(Float.ofNat magnitude))
  else .nat magnitude

/-- Reads what follows the first digits of a number. -/
def readTail (isNegative : Bool) (significand : Nat) (s : List Char) :
    Except Fault (Number × List Char) :=
  let rest := s.dropWhile isDigit
  let dropped : Int := s.length - rest.length
  match rest with
  | '.' :: rest => readFraction isNegative significand dropped rest
  | 'e' :: _ | 'E' :: _ => readScale isNegative significand dropped rest
  | _ =>
    if dropped = 0 then .ok (integer isNegative significand, rest)
    else (scaled isNegative significand dropped).map (·, rest)

/-- Reads a number after its sign. -/
def readMagnitude (isNegative : Bool) (s : List Char) : Except Fault (Number × List Char) :=
  match s with
  | [] => .error .truncated
  | '0' :: rest =>
    if rest.head?.any isDigit then .error .malformed else readTail isNegative 0 rest
  | c :: _ =>
    if isDigit c then
      let (significand, _, rest) := gatherDigits 0 0 s
      readTail isNegative significand rest
    else .error .malformed

/-- Reads a number. -/
def readNumber (s : List Char) : Except Fault (Number × List Char) :=
  match s with
  | '-' :: rest => readMagnitude true rest
  | _ => readMagnitude false s

/-! ### Strings -/

/-- Four hexadecimal digits off the front of a text, which is truncated if fewer than four bytes of
it are left. -/
def readHex4 (s : List Char) :
    Except Fault { p : Nat × List Char // p.2.length < s.length } :=
  match s with
  | a :: b :: c :: d :: rest =>
    match hexDigit? a, hexDigit? b, hexDigit? c, hexDigit? d with
    | some a, some b, some c, some d =>
      .ok ⟨(((a * 16 + b) * 16 + c) * 16 + d, rest), by simp; omega⟩
    | _, _, _, _ => .error .malformed
  | short => .error (if 4 ≤ (String.ofList short).utf8ByteSize then .malformed else .truncated)

/-- Reads the second half of a surrogate pair whose first half is `high`. -/
def readLowHalf (high : Nat) (s : List Char) :
    Except Fault { p : Char × List Char // p.2.length < s.length } :=
  match s with
  | [] | ['\\'] => .error .truncated
  | '\\' :: 'u' :: rest =>
    match readHex4 rest with
    | .error f => .error f
    | .ok ⟨(low, rest'), h⟩ =>
      if 0xDC00 ≤ low ∧ low ≤ 0xDFFF then
        .ok ⟨(Char.ofNat (0x10000 + (high - 0xD800) * 0x400 + (low - 0xDC00)), rest'),
          by simp at h ⊢; omega⟩
      else .error .malformed
  | _ => .error .malformed

/-- Reads an escape after its backslash. Surrogates count in pairs only. -/
def readEscape (s : List Char) :
    Except Fault { p : Char × List Char // p.2.length < s.length } :=
  match s with
  | [] => .error .truncated
  | '"' :: rest => .ok ⟨('"', rest), by simp⟩
  | '\\' :: rest => .ok ⟨('\\', rest), by simp⟩
  | '/' :: rest => .ok ⟨('/', rest), by simp⟩
  | 'b' :: rest => .ok ⟨('\x08', rest), by simp⟩
  | 'f' :: rest => .ok ⟨('\x0C', rest), by simp⟩
  | 'n' :: rest => .ok ⟨('\n', rest), by simp⟩
  | 'r' :: rest => .ok ⟨('\r', rest), by simp⟩
  | 't' :: rest => .ok ⟨('\t', rest), by simp⟩
  | 'u' :: rest =>
    match readHex4 rest with
    | .error f => .error f
    | .ok ⟨(n, rest'), h⟩ =>
      if 0xDC00 ≤ n ∧ n ≤ 0xDFFF then .error .malformed
      else if 0xD800 ≤ n ∧ n ≤ 0xDBFF then
        match readLowHalf n rest' with
        | .error f => .error f
        | .ok ⟨p, h'⟩ => .ok ⟨p, by simp at h ⊢; omega⟩
      else .ok ⟨(Char.ofNat n, rest'), by simp at h ⊢; omega⟩
  | _ :: _ => .error .malformed

/-- Reads a string after its opening quote, and the closing one with it. -/
def readChars (s : List Char) : Except Fault (List Char × List Char) :=
  match s with
  | [] => .error .truncated
  | '"' :: rest => .ok ([], rest)
  | '\\' :: rest =>
    match readEscape rest with
    | .error f => .error f
    | .ok ⟨(c, rest'), _⟩ =>
      match readChars rest' with
      | .error f => .error f
      | .ok (text, after) => .ok (c :: text, after)
  | c :: rest =>
    if c.toNat < 0x20 then .error .malformed
    else
      match readChars rest with
      | .error f => .error f
      | .ok (text, after) => .ok (c :: text, after)
termination_by s.length
decreasing_by all_goals (simp_all; try omega)

/-! ### Skipping -/

/-- Skips an exponent after its letter. -/
def skipExponent (s : List Char) : Except Fault (List Char) :=
  let digits :=
    match s with
    | '+' :: rest | '-' :: rest => rest
    | _ => s
  if digits.head?.any isDigit then .ok (digits.dropWhile isDigit) else .error .malformed

/-- Skips what follows the integer part of a number. -/
def skipFraction (s : List Char) : Except Fault (List Char) :=
  match s with
  | '.' :: rest =>
    if rest.head?.any isDigit then
      match rest.dropWhile isDigit with
      | 'e' :: rest | 'E' :: rest => skipExponent rest
      | rest => .ok rest
    else .error .malformed
  | 'e' :: rest | 'E' :: rest => skipExponent rest
  | _ => .ok s

/-- Skips a number after its sign. A number that is cut off counts as malformed here. -/
def skipMagnitude (s : List Char) : Except Fault (List Char) :=
  match s with
  | '0' :: rest => if rest.head?.any isDigit then .error .malformed else skipFraction rest
  | _ => if s.head?.any isDigit then skipFraction (s.dropWhile isDigit) else .error .malformed

/-- Skips a string after its opening quote. Surrogates need not be paired. -/
def skipChars (s : List Char) : Except Fault (List Char) :=
  match s with
  | [] | ['\\'] => .error .truncated
  | '"' :: rest => .ok rest
  | '\\' :: c :: rest =>
    if c = 'u' then
      match readHex4 rest with
      | .error f => .error f
      | .ok ⟨(_, rest'), _⟩ => skipChars rest'
    else if c ∈ ['"', '\\', '/', 'b', 'f', 'n', 'r', 't'] then skipChars rest
    else .error .malformed
  | c :: rest => if c.toNat < 0x20 then .error .malformed else skipChars rest
termination_by s.length
decreasing_by all_goals (simp_all; try omega)

/-- An array or object that is being skipped. -/
inductive Frame where
  | array
  | object
  deriving DecidableEq, Repr

/-- What has to come next while skipping. -/
inductive Awaiting where
  /-- A value. -/
  | value
  /-- A value, or the end of the array just opened. -/
  | valueOrEnd
  /-- A field. -/
  | field
  /-- A field, or the end of the object just opened. -/
  | fieldOrEnd
  /-- A comma or the end of the innermost frame. -/
  | commaOrEnd
  deriving DecidableEq, Repr

/-- Skips the name of a field and the colon after it. -/
def skipName (s : List Char) : Except Fault (List Char) :=
  match s with
  | '"' :: rest =>
    match skipChars rest with
    | .error f => .error f
    | .ok rest =>
      match skipBlanks rest with
      | ':' :: rest => .ok rest
      | [] => .error .truncated
      | _ => .error .malformed
  | _ => .error .malformed

/-- What a value begins with: a scalar, which is skipped whole, or a frame, which is opened. -/
def skipStart (s : List Char) : Except Fault (Option Frame × List Char) :=
  match s with
  | 'n' :: rest => (expect ['u', 'l', 'l'] rest).map (none, ·)
  | 't' :: rest => (expect ['r', 'u', 'e'] rest).map (none, ·)
  | 'f' :: rest => (expect ['a', 'l', 's', 'e'] rest).map (none, ·)
  | '"' :: rest => (skipChars rest).map (none, ·)
  | '-' :: rest => (skipMagnitude rest).map (none, ·)
  | '[' :: rest => .ok (some .array, rest)
  | '\x7b' :: rest => .ok (some .object, rest)
  | _ => if s.head?.any isDigit then (skipMagnitude s).map (none, ·) else .error .malformed

/-- The character that ends a frame. -/
def Frame.close : Frame → Char
  | .array => ']'
  | .object => '\x7d'

/-- Skips tokens until the outermost value ends. Every round takes at least one character, so
`fuel` rounds suffice for a text that is shorter. -/
def skipTokens (fuel : Nat) (stack : List Frame) (want : Awaiting) (s : List Char) :
    Except Fault (List Char) :=
  match fuel with
  | 0 => .error .truncated
  | fuel + 1 =>
    let ended (stack : List Frame) (s : List Char) : Except Fault (List Char) :=
      if stack.isEmpty then .ok s else skipTokens fuel stack .commaOrEnd s
    let startValue (s : List Char) : Except Fault (List Char) :=
      match skipStart s with
      | .error f => .error f
      | .ok (none, rest) => ended stack rest
      | .ok (some .array, rest) => skipTokens fuel (.array :: stack) .valueOrEnd rest
      | .ok (some .object, rest) => skipTokens fuel (.object :: stack) .fieldOrEnd rest
    let startField (s : List Char) : Except Fault (List Char) :=
      match skipName s with
      | .error f => .error f
      | .ok rest => skipTokens fuel stack .value rest
    match skipBlanks s, stack, want with
    | [], _, _ => .error .truncated
    | c :: rest, _, .value => startValue (c :: rest)
    | c :: rest, _, .field => startField (c :: rest)
    | c :: rest, frame :: outer, .valueOrEnd =>
      if c = frame.close then ended outer rest else startValue (c :: rest)
    | c :: rest, frame :: outer, .fieldOrEnd =>
      if c = frame.close then ended outer rest else startField (c :: rest)
    | c :: rest, frame :: outer, .commaOrEnd =>
      if c = frame.close then ended outer rest
      else if c = ',' then
        skipTokens fuel stack (if frame = .array then .value else .field) rest
      else .error .malformed
    | _, [], _ => .error .malformed

/-- Skips a value of any shape. -/
def skipValue (s : List Char) : Except Fault (List Char) :=
  skipTokens (s.length + 1) [] .value s

end CodeBrowser.Json
