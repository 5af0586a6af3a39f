import CodeBrowser.SourceFile

/-!
# Locations and ranges

Lines and columns count from 0 here; where the user or a symbol index sees them they count from 1.

## Main definitions

* `Location`: a line and a column, ordered line first.
* `TextRange`: the span from one location up to another.
-/
namespace CodeBrowser

/-- A position in a text. -/
structure Location where
  line : Nat
  column : Nat
  deriving DecidableEq, Repr, Inhabited

namespace Location

/-- The order of locations, line first. -/
def compare (a b : Location) : Ordering :=
  (compareOfLessAndEq a.line b.line).then (compareOfLessAndEq a.column b.column)

/-- The location that the user knows by a line and a column counted from 1. A 0 counts as 1. -/
def ofOneBased (line column : Nat) : Location := ⟨line - 1, column - 1⟩

/-- Whether a unit of the file stands at the location. -/
def pointsAtChar (loc : Location) (file : SourceFile) : Bool :=
  loc.line < file.lineCount && loc.column < file.lineLength loc.line

/-- The location counted from 1. -/
def display (loc : Location) : String := s!"{loc.line + 1}:{loc.column + 1}"

end Location

/-- The span from `start` up to, and without, `stop`. -/
structure TextRange where
  start : Location
  stop : Location
  deriving DecidableEq, Repr, Inhabited

namespace TextRange

/-- The empty range that stands for "nothing". -/
def none : TextRange := ⟨⟨0, 0⟩, ⟨0, 0⟩⟩

/-- The columns from `start` up to `stop` of one line. -/
def onLine (line start stop : Nat) : TextRange := ⟨⟨line, start⟩, ⟨line, stop⟩⟩

def isEmpty (range : TextRange) : Bool := range.start == range.stop

/-- Whether the location lies in the range. -/
def contains (range : TextRange) (loc : Location) : Bool :=
  (range.start.compare loc).isLE && (loc.compare range.stop).isLT

/-- The two ends, counted from 1. -/
def display (range : TextRange) : String := s!"{range.start.display}-{range.stop.display}"

end TextRange

end CodeBrowser
