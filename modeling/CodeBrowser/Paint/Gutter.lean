import CodeBrowser.Font
import CodeBrowser.Geometry.Margins
import CodeBrowser.Layout.VisibleLines
import CodeBrowser.Paint.Canvas

/-!
# The gutter

The gutter shows the numbers of the lines beside the text, aligned to the right.

## Main definitions

* `digitCount`: the number of decimal digits of a number.
* `Gutter`: a gutter for a number of lines.
* `Gutter.sizeHint`: the room it needs.
* `Gutter.paint`: its labels.
-/
namespace CodeBrowser

/-- The column of line numbers. -/
structure Gutter (α : Type) where
  margins : Margins α
  lineCount : Nat

/-- The exponent of the greatest power of ten that is not above a number; there is none for 0. -/
def log10? (n : Nat) : Option Nat := if n = 0 then none else some (log n)
where
  /-- How often a number can be divided by ten before it is below ten. -/
  log (n : Nat) : Nat := if n < 10 then 0 else log (n / 10) + 1

/-- The number of decimal digits of a number. -/
def digitCount (n : Nat) : Nat := ((log10? n).map (· + 1)).getD 1

namespace Gutter

variable {α : Type} [Scalar α]

/-- Wide enough for the digits of the last number, and as high as all lines, or as one if there are
none. -/
def sizeHint (gutter : Gutter α) (metrics : Metrics α) : Point α :=
  ⟨metrics.width "9" * Scalar.ofNat (digitCount gutter.lineCount),
    metrics.spacing * Scalar.ofNat (max gutter.lineCount 1)⟩
    + ⟨gutter.margins.horizontal, gutter.margins.vertical⟩

/-- The number of a line as it is shown. -/
def label (line : Nat) : List Char := Nat.toDigits 10 (line + 1)

/-- Where the label of a line is drawn in a gutter of some width. -/
def labelPoint (gutter : Gutter α) (metrics : Metrics α) (width : α) (line : Nat) : Point α :=
  ⟨width - metrics.width (String.ofList (label line)) - gutter.margins.right,
    gutter.margins.top + Scalar.ofNat line * metrics.spacing + metrics.inset⟩

/-- The labels of the lines that a clip rectangle shows. -/
def paint (gutter : Gutter α) (metrics : Metrics α) (clip : Rect α) (width : α) (color : Color) :
    List (CanvasCall α) :=
  match visibleLines clip metrics.spacing gutter.lineCount with
  | none => []
  | some (first, last) =>
    .pen color :: (lineSpan first last).map fun line =>
      .text (gutter.labelPoint metrics width line) (label line)

end Gutter

end CodeBrowser
