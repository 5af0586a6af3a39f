import CodeBrowser.Geometry.Rounding
import CodeBrowser.Json.Reader

/-!
# Reading values of a known shape

A value is read as what is wanted of it; a value of another shape is a mismatch, which counts where
it is met. Records are written as objects, in any order of fields and with unknown fields skipped,
or as arrays in the order of their fields.

## Main definitions

* `Json.readNat`, `Json.readFloat`, `Json.readString`, `Json.readBool`: the scalars.
* `Json.readOption`, `Json.readList`, `Json.readName`: optional values, arrays, and names from a
  fixed set.
* `Json.RecordShape`, `Json.readRecord`: records.
* `Json.read`: a whole text.
-/
namespace CodeBrowser.Json

/-- The fault of a text whose next value is not of the wanted shape: that value may itself be
malformed or cut off. Arrays and objects are not looked into. -/
def mismatchAt (s : List Char) : Fault :=
  let of {β : Type} : Except Fault β → Fault
    | .ok _ => .mismatch
    | .error f => f
  match s with
  | [] => .malformed
  | 'n' :: rest => of (expect ['u', 'l', 'l'] rest)
  | 't' :: rest => of (expect ['r', 'u', 'e'] rest)
  | 'f' :: rest => of (expect ['a', 'l', 's', 'e'] rest)
  | '"' :: rest => of (readChars rest)
  | '[' :: _ => .mismatch
  | '\x7b' :: _ => .mismatch
  | c :: _ => if c = '-' || isDigit c then of (readNumber s) else .malformed

/-! ### Scalars -/

/-- Reads a number, if one comes next. -/
def readAnyNumber : Reader Number := fun s =>
  match skipBlanks s with
  | [] => .error .truncated
  | c :: rest =>
    if c = '-' || isDigit c then readNumber (c :: rest) else .error (mismatchAt (c :: rest))

/-- Reads a natural number of 64 bits, written without point and exponent. -/
def readNat : Reader Nat := fun s =>
  match readAnyNumber s with
  | .ok (.nat n, rest) => .ok (n, rest)
  | .ok _ => .error .mismatch
  | .error f => .error f

/-- The single-precision number nearest to a number. -/
def Number.toFloat32 : Number → Float32
  | .nat n => Float32.ofNat n
  | .negative n => -(Float32.ofNat n)
  | .float x => Float.narrow x

/-- Reads a number. One that single precision cannot hold becomes an infinity. -/
def readFloat : Reader Float32 := fun s =>
  match readAnyNumber s with
  | .ok (x, rest) => .ok (x.toFloat32, rest)
  | .error f => .error f

/-- Reads a string. -/
def readString : Reader String := fun s =>
  match skipBlanks s with
  | [] => .error .truncated
  | '"' :: rest =>
    match readChars rest with
    | .ok (text, rest) => .ok (String.ofList text, rest)
    | .error f => .error f
  | c :: rest => .error (mismatchAt (c :: rest))

/-- Reads a truth value. -/
def readBool : Reader Bool := fun s =>
  match skipBlanks s with
  | [] => .error .truncated
  | 't' :: rest => (expect ['r', 'u', 'e'] rest).map (true, ·)
  | 'f' :: rest => (expect ['a', 'l', 's', 'e'] rest).map (false, ·)
  | c :: rest => .error (mismatchAt (c :: rest))

/-- Reads a string that stands for something. -/
def readText {β : Type} (of? : String → Option β) : Reader β := fun s =>
  match readString s with
  | .ok (text, rest) =>
    match of? text with
    | some b => .ok (b, rest)
    | none => .error .mismatch
  | .error f => .error f

/-- Reads `null` as nothing and any other value by `item`. -/
def readOption {β : Type} (item : Reader β) : Reader (Option β) := fun s =>
  match skipBlanks s with
  | 'n' :: rest => (expect ['u', 'l', 'l'] rest).map (none, ·)
  | rest => (item rest).map fun (b, after) => (some b, after)

/-- Takes the colon between a name and its value. -/
def takeColon (s : List Char) : Except Fault (List Char) :=
  match skipBlanks s with
  | [] => .error .truncated
  | ':' :: rest => .ok rest
  | _ => .error .malformed

/-- Takes `null` and the closing brace of an object. -/
def takeNullField (s : List Char) : Except Fault (List Char) :=
  match skipBlanks s with
  | [] => .error .truncated
  | 'n' :: rest =>
    match expect ['u', 'l', 'l'] rest with
    | .error f => .error f
    | .ok rest =>
      match skipBlanks rest with
      | [] => .error .truncated
      | '\x7d' :: rest => .ok rest
      | _ => .error .malformed
  | c :: rest => .error (mismatchAt (c :: rest))

/-- Reads one name of a fixed set, as a string or as the only field of an object with the value
`null`. Values of other shapes count as malformed. -/
def readName {β : Type} (of? : String → Option β) : Reader β := fun s =>
  match skipBlanks s with
  | [] => .error .truncated
  | '"' :: rest => readText of? ('"' :: rest)
  | '\x7b' :: rest =>
    match readText of? rest with
    | .error f => .error f
    | .ok (b, rest) =>
      match takeColon rest with
      | .error f => .error f
      | .ok rest => (takeNullField rest).map (b, ·)
  | _ => .error .malformed

/-! ### Arrays -/

/-- Finds the next item of an array: the text that starts with it, or `none` where the array ends,
the closing bracket not being taken. -/
def nextItem (isFirst : Bool) (s : List Char) : Except Fault (Option (List Char)) :=
  match skipBlanks s with
  | [] => .error .truncated
  | ']' :: _ => .ok none
  | c :: rest =>
    if isFirst then .ok (some (c :: rest))
    else if c = ',' then
      match skipBlanks rest with
      | [] => .error .truncated
      | ']' :: _ => .error .malformed
      | after => .ok (some after)
    else .error .malformed

/-- Takes the closing bracket of an array. -/
def endArray (s : List Char) : Except Fault (List Char) :=
  match skipBlanks s with
  | [] => .error .truncated
  | ']' :: rest => .ok rest
  | _ => .error .malformed

/-- Reads the items of an array up to its closing bracket, at most `fuel` of them. -/
def readItems {β : Type} (item : Reader β) (fuel : Nat) (isFirst : Bool) (s : List Char) :
    Except Fault (List β × List Char) :=
  match fuel with
  | 0 => .error .truncated
  | fuel + 1 =>
    match nextItem isFirst s with
    | .error f => .error f
    | .ok none => (endArray s).map ([], ·)
    | .ok (some s) =>
      match item s with
      | .error f => .error f
      | .ok (b, rest) =>
        match readItems item fuel false rest with
        | .error f => .error f
        | .ok (more, after) => .ok (b :: more, after)

/-- Reads an array. An item takes a character at least, so the length of the text bounds their
number. -/
def readList {β : Type} (item : Reader β) : Reader (List β) := fun s =>
  match skipBlanks s with
  | [] => .error .truncated
  | '[' :: rest => readItems item (rest.length + 1) true rest
  | c :: rest => .error (mismatchAt (c :: rest))

/-! ### Records -/

/-- A field of a record: its name, and how its value is read into the record. -/
structure Field (β : Type) where
  name : String
  read : β → Reader β

/-- The field whose value is read by `item` and stored by `store`. -/
def Field.of {β γ : Type} (name : String) (item : Reader γ) (store : β → γ → β) : Field β :=
  ⟨name, fun b s => (item s).map fun (value, rest) => (store b value, rest)⟩

/-- The shape of a record. -/
structure RecordShape (β : Type) where
  /-- The record with every field at its default. -/
  start : β
  /-- The fields in order. -/
  fields : List (Field β)
  /-- The fields that have no default. -/
  required : List String

/-- Reads the items of a record written as an array, until the array or the fields end. Gives the
record, the names of the fields read, and the text after them. -/
def readPositional {β : Type} (fields : List (Field β)) (isFirst : Bool) (b : β)
    (seen : List String) (s : List Char) : Except Fault (β × List String × List Char) :=
  match fields with
  | [] => .ok (b, seen, s)
  | field :: more =>
    match nextItem isFirst s with
    | .error f => .error f
    | .ok none => .ok (b, seen, s)
    | .ok (some s) =>
      match field.read b s with
      | .error f => .error f
      | .ok (b, rest) => readPositional more false b (field.name :: seen) rest

/-- Finds the next field of an object: the text after the quote of its name, or `none` where the
object ends, with the text after its brace. -/
def nextField (isFirst : Bool) (s : List Char) : Except Fault (Bool × List Char) :=
  match skipBlanks s with
  | [] => .error .truncated
  | '\x7d' :: rest => .ok (false, rest)
  | c :: rest =>
    if isFirst then if c = '"' then .ok (true, rest) else .error .malformed
    else if c = ',' then
      match skipBlanks rest with
      | [] => .error .truncated
      | '"' :: rest => .ok (true, rest)
      | _ => .error .malformed
    else .error .malformed

/-- Whether every required field has been read. -/
def RecordShape.isComplete {β : Type} (shape : RecordShape β) (seen : List String) : Bool :=
  shape.required.all seen.contains

/-- Reads the fields of an object up to its closing brace, at most `fuel` of them. A field that was
read before is a mismatch, and so is a required one that is missing. -/
def readFields {β : Type} (shape : RecordShape β) (fuel : Nat) (isFirst : Bool) (b : β)
    (seen : List String) (s : List Char) : Except Fault (β × List Char) :=
  match fuel with
  | 0 => .error .truncated
  | fuel + 1 =>
    match nextField isFirst s with
    | .error f => .error f
    | .ok (false, rest) => if shape.isComplete seen then .ok (b, rest) else .error .mismatch
    | .ok (true, rest) =>
      match readChars rest with
      | .error f => .error f
      | .ok (name, rest) =>
        match shape.fields.find? (·.name == String.ofList name) with
        | some field =>
          if seen.contains field.name then .error .mismatch
          else
            match takeColon rest with
            | .error f => .error f
            | .ok rest =>
              match field.read b rest with
              | .error f => .error f
              | .ok (b, rest) => readFields shape fuel false b (field.name :: seen) rest
        | none =>
          match takeColon rest with
          | .error f => .error f
          | .ok rest =>
            match skipValue rest with
            | .error f => .error f
            | .ok rest => readFields shape fuel false b seen rest

/-- Reads a record. -/
def readRecord {β : Type} (shape : RecordShape β) : Reader β := fun s =>
  match skipBlanks s with
  | [] => .error .truncated
  | '\x7b' :: rest => readFields shape (rest.length + 1) true shape.start [] rest
  | '[' :: rest =>
    match readPositional shape.fields true shape.start [] rest with
    | .error f => .error f
    | .ok (b, seen, rest) =>
      if shape.isComplete seen then (endArray rest).map (b, ·) else .error .mismatch
  | c :: rest => .error (mismatchAt (c :: rest))

/-- Reads a whole text: one value and nothing but blanks after it. -/
def read {β : Type} (item : Reader β) (text : String) : Except Fault β :=
  match item text.toList with
  | .error f => .error f
  | .ok (b, rest) => if (skipBlanks rest).isEmpty then .ok b else .error .malformed

end CodeBrowser.Json
