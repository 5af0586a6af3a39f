import CodeBrowser.Decimal.Shortest

/-!
# Writing JSON

## Main definitions

* `Json.Value`: what can be written.
* `Json.numberText`: the text of a single-precision number.
* `Json.Value.compact`: the text without blanks.
* `Json.Value.pretty`: the text over several lines, each level two blanks further in.
-/
namespace CodeBrowser.Json

/-- What can be written. The fields of an object keep their order. -/
inductive Value where
  | null
  | bool (b : Bool)
  | nat (n : Nat)
  | number (x : Float32)
  | str (s : String)
  | arr (items : List Value)
  | obj (fields : List (String × Value))

/-! ### Numbers -/

/-- The decimal digits of a natural number. -/
def natDigits (n : Nat) : List Char := Nat.toDigits 10 n

/-- The text of a positive decimal. Numbers from a millionth up to ten trillion are written out,
with a point and at least one digit after it; others with one digit before the point and a signed
exponent. -/
def decimalText (d : Decimal) : List Char :=
  let digits := natDigits d.digits
  let count : Int := digits.length
  let lead := count - 1 + d.exponent
  if -6 ≤ lead ∧ lead ≤ 12 then
    if 0 ≤ d.exponent then digits ++ List.replicate d.exponent.toNat '0' ++ ['.', '0']
    else if 0 ≤ lead then
      digits.take (lead.toNat + 1) ++ '.' :: digits.drop (lead.toNat + 1)
    else '0' :: '.' :: (List.replicate (-lead - 1).toNat '0' ++ digits)
  else
    let fraction := if digits.length = 1 then [] else '.' :: digits.drop 1
    let sign := if lead < 0 then '-' else '+'
    digits.take 1 ++ fraction ++ 'e' :: sign :: natDigits lead.natAbs

/-- The text of a number: the fewest digits that read back as the number. There is no text for
infinities and for what is not a number, and `null` stands for them. -/
def numberText (x : Float32) : List Char :=
  if x.isFinite then
    let bits := x.toBits
    let sign := if 0x80000000 ≤ bits.toNat then ['-'] else []
    let magnitude := Dyadic.ofBits bits
    sign ++
      (if magnitude.mantissa = 0 then ['0', '.', '0'] else decimalText magnitude.shortest)
  else ['n', 'u', 'l', 'l']

/-! ### Strings -/

/-- A hexadecimal digit in lower case. -/
def hexDigit (n : Nat) : Char :=
  if n < 10 then Char.ofNat ('0'.toNat + n) else Char.ofNat ('a'.toNat + (n - 10))

/-- How a character is written inside a string. Quotes, backslashes and control characters are
escaped. -/
def escape (c : Char) : List Char :=
  if c = '"' then ['\\', '"']
  else if c = '\\' then ['\\', '\\']
  else if c = '\x08' then ['\\', 'b']
  else if c = '\x0C' then ['\\', 'f']
  else if c = '\n' then ['\\', 'n']
  else if c = '\r' then ['\\', 'r']
  else if c = '\t' then ['\\', 't']
  else if c.toNat < 0x20 then
    ['\\', 'u', '0', '0', hexDigit (c.toNat / 16), hexDigit (c.toNat % 16)]
  else [c]

/-- The characters inside the quotes. -/
def escapeAll (text : List Char) : List Char := text.flatMap escape

/-- The text of a string. -/
def stringText (s : String) : List Char := '"' :: (escapeAll s.toList ++ ['"'])

/-! ### Layout -/

/-- Puts `separator` between texts. -/
def joinWith (separator : List Char) : List (List Char) → List Char
  | [] => []
  | [text] => text
  | text :: rest => text ++ separator ++ joinWith separator rest

/-- A new line, indented by `depth` levels. -/
def newLine (depth : Nat) : List Char := '\n' :: List.replicate (2 * depth) ' '

namespace Value

mutual

/-- The characters of a value without blanks. -/
def compactChars : Value → List Char
  | .null => ['n', 'u', 'l', 'l']
  | .bool true => ['t', 'r', 'u', 'e']
  | .bool false => ['f', 'a', 'l', 's', 'e']
  | .nat n => natDigits n
  | .number x => numberText x
  | .str s => stringText s
  | .arr items => '[' :: (joinWith [','] (compactItems items) ++ [']'])
  | .obj fields => '\x7b' :: (joinWith [','] (compactFields fields) ++ ['\x7d'])

/-- The items of an array. -/
def compactItems : List Value → List (List Char)
  | [] => []
  | v :: rest => compactChars v :: compactItems rest

/-- The fields of an object. -/
def compactFields : List (String × Value) → List (List Char)
  | [] => []
  | (name, v) :: rest => (stringText name ++ ':' :: compactChars v) :: compactFields rest

end

mutual

/-- The characters of a value at an indentation. -/
def prettyChars (depth : Nat) : Value → List Char
  | .null => ['n', 'u', 'l', 'l']
  | .bool true => ['t', 'r', 'u', 'e']
  | .bool false => ['f', 'a', 'l', 's', 'e']
  | .nat n => natDigits n
  | .number x => numberText x
  | .str s => stringText s
  | .arr [] => ['[', ']']
  | .arr (v :: rest) =>
    '[' :: (newLine (depth + 1) ++
      joinWith (',' :: newLine (depth + 1)) (prettyItems (depth + 1) (v :: rest)) ++
      newLine depth ++ [']'])
  | .obj [] => ['\x7b', '\x7d']
  | .obj (field :: rest) =>
    '\x7b' :: (newLine (depth + 1) ++
      joinWith (',' :: newLine (depth + 1)) (prettyFields (depth + 1) (field :: rest)) ++
      newLine depth ++ ['\x7d'])

/-- The items of an array at an indentation. -/
def prettyItems (depth : Nat) : List Value → List (List Char)
  | [] => []
  | v :: rest => prettyChars depth v :: prettyItems depth rest

/-- The fields of an object at an indentation. -/
def prettyFields (depth : Nat) : List (String × Value) → List (List Char)
  | [] => []
  | (name, v) :: rest =>
    (stringText name ++ ':' :: ' ' :: prettyChars depth v) :: prettyFields depth rest

end

/-- The text without blanks. -/
def compact (v : Value) : String := String.ofList v.compactChars

/-- The text over several lines. -/
def pretty (v : Value) : String := String.ofList (v.prettyChars 0)

end Value

end CodeBrowser.Json
