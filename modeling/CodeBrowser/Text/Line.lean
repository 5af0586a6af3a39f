import CodeBrowser.Text.Utf16

/-!
# Lines of a text

A line ends at a line feed, a carriage return, the two together, a vertical tab, a form feed or one
of U+0085, U+2028 and U+2029. A terminator at the end of the text starts no further line, and the
empty text has no line.

## Main definitions

* `textLines`: the lines of a text with their terminators.
* `terminatorLength`: the length of what ends a line.
* `LineSpan`, `lineSpans`: where the lines of a text are.
* `Line`, `lineIndex`: the lines of a text, each with its content.
-/
namespace CodeBrowser

/-- The characters that end a line. -/
def isLineBreak (c : Char) : Bool :=
  c ∈ ['\n', '\r', '\u000B', '\u000C', '\u0085', '\u2028', '\u2029']

/-- The lines of a text in order, with their terminators. There is always a last line without one,
which is empty if the text is empty or ends with a terminator. -/
def textLines : List Char → List (List Char)
  | [] => [[]]
  | '\r' :: '\n' :: rest => ['\r', '\n'] :: textLines rest
  | c :: rest =>
    if isLineBreak c then [c] :: textLines rest
    else
      match textLines rest with
      | [] => [[c]]
      | line :: more => (c :: line) :: more

/-- The number of units of the terminator at the end of a line. -/
def terminatorLength (line : List Char) : Nat :=
  match line.reverse with
  | [] => 0
  | '\n' :: '\r' :: _ => 2
  | c :: _ => if isLineBreak c then 1 else 0

/-- Where a line is. -/
structure LineSpan where
  /-- The offset of the first unit of the line in the text. -/
  start : Nat
  /-- The number of units of the line without its terminator. -/
  length : Nat
  deriving DecidableEq, Repr

/-- The spans of consecutive lines with their terminators, the first of which starts at offset
`start`. -/
def spansFrom (start : Nat) : List (List Char) → List LineSpan
  | [] => []
  | line :: more =>
    let units := (toUnits line).length
    ⟨start, units - terminatorLength line⟩ :: spansFrom (start + units) more

/-- The spans of the lines of a text. The last line has no terminator. If it is empty, the text is
empty or ends with a terminator, and it does not count. -/
def lineSpans (text : List Char) : List LineSpan :=
  let spans := spansFrom 0 (textLines text)
  if spans.getLast?.any (·.length == 0) then spans.dropLast else spans

/-- A line of a text. -/
structure Line where
  /-- The offset of the first unit of the line in the text. -/
  start : Nat
  /-- The units of the line without its terminator. -/
  content : List CodeUnit
  deriving DecidableEq, Repr

/-- The number of units of a line without its terminator. -/
def Line.length (line : Line) : Nat := line.content.length

/-- The line at a span of some units. -/
def LineSpan.line (span : LineSpan) (units : List CodeUnit) : Line :=
  ⟨span.start, units.extract span.start (span.start + span.length)⟩

/-- The lines of a text. -/
def lineIndex (text : List Char) : List Line :=
  let units := toUnits text
  (lineSpans text).map (·.line units)

end CodeBrowser
