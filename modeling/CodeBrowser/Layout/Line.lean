import CodeBrowser.Font
import CodeBrowser.Geometry.Margins
import CodeBrowser.SourceFile

/-!
# The layout of a line

The characters of a line stand side by side, each in a box of its own. A tab reaches to the next tab
stop. Painting and locating points both work on these boxes.

## Main definitions

* `CharBox`: the box of one character.
* `charBoxes`: the boxes of a row of code units.
* `LineLayout`, `SourceFile.layout`: a line of a file with its boxes and its vertical position.
-/
namespace CodeBrowser

/-- The box of one character. -/
structure CharBox (α : Type) where
  /-- The column of the first unit of the character. -/
  column : Nat
  left : α
  width : α
  /-- What is drawn. A tab draws nothing. -/
  text : List Char
  deriving DecidableEq, Repr

/-- A line of a file with its boxes and its vertical position. -/
structure LineLayout (α : Type) where
  /-- The offset of the line in its file. -/
  start : Nat
  leftMargin : α
  top : α
  height : α
  /-- Where the characters of the line are drawn. -/
  textTop : α
  boxes : List (CharBox α)

variable {α : Type} [Scalar α]

/-- The right edge of a box. -/
def CharBox.right (box : CharBox α) : α := box.left + box.width

/-- The distance from `offset` to the next tab stop; nothing if tab stops have no width. -/
def tabAdvance (tabWidth offset : α) : α :=
  if tabWidth ≤ Scalar.ofNat 0 then Scalar.ofNat 0
  else Scalar.floor ((offset + tabWidth) / tabWidth) * tabWidth - offset

/-- The boxes of the units, the first of which stands at `column` and is `offset` away from the left
margin. A surrogate pair is one character. -/
def charBoxes (metrics : Metrics α) (tabWidth leftMargin : α) (column : Nat) (offset : α) :
    List CodeUnit → List (CharBox α)
  | [] => []
  | [u] => [box u]
  | u :: v :: rest =>
    if isPair u v then
      let text := [pairChar u v]
      let width := metrics.width (String.ofList text)
      ⟨column, leftMargin + offset, width, text⟩
        :: charBoxes metrics tabWidth leftMargin (column + 2) (offset + width) rest
    else
      box u
        :: charBoxes metrics tabWidth leftMargin (column + 1) (offset + (box u).width) (v :: rest)
where
  /-- The box of a character of one unit. -/
  box (u : CodeUnit) : CharBox α :=
    if u = 9 then ⟨column, leftMargin + offset, tabAdvance tabWidth offset, []⟩
    else
      let text := [unitChar u]
      ⟨column, leftMargin + offset, metrics.width (String.ofList text), text⟩

/-- The layout of a line. A line past the end is empty. -/
def SourceFile.layout (file : SourceFile) (metrics : Metrics α) (margins : Margins α)
    (tabStop line : Nat) : LineLayout α :=
  let top := margins.top + Scalar.ofNat line * metrics.spacing
  { start := file.lineStart line
    leftMargin := margins.left
    top := top
    height := metrics.spacing
    textTop := top + metrics.inset
    boxes := charBoxes metrics (metrics.tabWidth tabStop) margins.left 0 (Scalar.ofNat 0)
      (file.lineContent line) }

namespace LineLayout

/-- The right edge of the last box; the left margin on an empty line. -/
def right (layout : LineLayout α) : α :=
  match layout.boxes.getLast? with
  | some box => box.right
  | none => layout.leftMargin

/-- The left edge of the first character at or after a column; past the end, the right edge. -/
def leftOf (layout : LineLayout α) (column : Nat) : α :=
  match layout.boxes.find? (column ≤ ·.column) with
  | some box => box.left
  | none => layout.right

/-- The column of the first character that reaches beyond `x`, if there is one. -/
def columnAt? (layout : LineLayout α) (x : α) : Option Nat :=
  (layout.boxes.find? (x < ·.right)).map (·.column)

end LineLayout

end CodeBrowser
