import CodeBrowser.Path
import CodeBrowser.TextEncoding
import CodeBrowser.Text.Line

/-!
# Source files

A source file is a text with its line index. Offsets and columns count UTF-16 code units.

## Main definitions

* `SourceFile`: a text, its code units and its lines.
* `SourceFile.ofText`: the file with a given text.
* `SourceFile.expandedColumns`: the width of a line in columns once tabs are expanded.
-/
namespace CodeBrowser

/-- A file that has been opened. Its units and lines are those of its text. -/
structure SourceFile where
  /-- Tells openings apart: two displays are of the same opened file iff they have one serial. -/
  serial : Nat
  path : Option Path
  text : List Char
  encoding : TextEncoding
  units : List CodeUnit
  lines : Array Line
  units_eq : units = toUnits text
  lines_eq : lines = (lineIndex text).toArray

namespace SourceFile

/-- The file with the given text. -/
def ofText (path : Option Path) (text : List Char) (encoding : TextEncoding := .utf8)
    (serial : Nat := 0) : SourceFile :=
  ⟨serial, path, text, encoding, toUnits text, (lineIndex text).toArray, rfl, rfl⟩

/-- The name of the file for titles. -/
def displayName (file : SourceFile) : String :=
  (file.path.bind Path.fileName?).getD "Untitled"

/-- The number of code units of the text. -/
def unitCount (file : SourceFile) : Nat := file.units.length

def lineCount (file : SourceFile) : Nat := file.lines.size

/-- The offset of the first unit of a line; past the last line, the number of units. -/
def lineStart (file : SourceFile) (line : Nat) : Nat :=
  match file.lines[line]? with
  | some l => l.start
  | none => file.unitCount

/-- The units of a line without its terminator; none past the last line. -/
def lineContent (file : SourceFile) (line : Nat) : List CodeUnit :=
  match file.lines[line]? with
  | some l => l.content
  | none => []

/-- The number of units of a line without its terminator. -/
def lineLength (file : SourceFile) (line : Nat) : Nat := (file.lineContent line).length

/-- The text of a line. -/
def lineText (file : SourceFile) (line : Nat) : List Char := ofUnitsLossy (file.lineContent line)

/-- The column after a character that stands at column `column`, a tab going to the next multiple of
`tabStop`. Columns are numbers without a bound. Machine words hold the same numbers as long as the
sum of a column and a tab stop does not overflow. -/
def columnAfter (tabStop column : Nat) (u : CodeUnit) : Nat :=
  if u == 9 then (column + tabStop) / tabStop * tabStop else column + 1

/-- The column after the units, the first of which stands at `column`. A surrogate pair takes one
column. -/
def expandFrom (tabStop column : Nat) : List CodeUnit → Nat
  | [] => column
  | [u] => columnAfter tabStop column u
  | u :: v :: rest =>
    if isPair u v then expandFrom tabStop (column + 1) rest
    else expandFrom tabStop (columnAfter tabStop column u) (v :: rest)

/-- The width of a line in columns, tabs going to multiples of `tabStop`. -/
def expandedColumns (file : SourceFile) (line tabStop : Nat) : Nat :=
  expandFrom (max tabStop 1) 0 (file.lineContent line)

/-- The width of the widest line in columns. -/
def maxExpandedColumns (file : SourceFile) (tabStop : Nat) : Nat :=
  ((List.range file.lineCount).map (file.expandedColumns · tabStop)).foldl max 0

end SourceFile

end CodeBrowser
