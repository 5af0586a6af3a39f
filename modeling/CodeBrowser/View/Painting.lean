import CodeBrowser.Layout.VisibleLines
import CodeBrowser.Paint.Canvas
import CodeBrowser.View.Geometry

/-!
# Painting the view

## Main definitions

* `View.lineGlyphs`: the characters of a line that a clip rectangle shows.
* `View.paint`: the selection and the characters of all lines that a clip rectangle shows.
-/
namespace CodeBrowser

namespace View

variable {α : Type} [Scalar α]

/-- The colour of the character in a box. -/
def charColor (view : View α) (layout : LineLayout α) (line : Nat) (box : CharBox α) : Color :=
  if view.selection.contains ⟨line, box.column⟩ then view.theme.view.selectionText
  else (view.colors.colorAt? (layout.start + box.column)).getD (view.theme.lexicalColor .plain)

/-- The characters of a line that are drawn: none beyond the first that starts to the right of the
clip rectangle, and none that ends to the left of it or is a tab. -/
def lineGlyphs (view : View α) (metrics : Metrics α) (file : SourceFile) (clip : Rect α)
    (line : Nat) : List (Glyph α) :=
  let layout := view.layout metrics file line
  let shown := (layout.boxes.takeWhile fun box => !decide (clip.max.x < box.left)).filter
    fun box => !decide (box.right ≤ clip.min.x) && !box.text.isEmpty
  shown.map fun box =>
    ⟨view.charColor layout line box, ⟨box.left, layout.textTop⟩, box.text⟩

/-- The rectangle behind the selection. -/
def selectionRect (view : View α) (metrics : Metrics α) : Rect α :=
  let start := view.pointOf metrics view.selection.start
  let stop := view.pointOf metrics view.selection.stop
  ⟨start, ⟨stop.x, start.y + metrics.spacing⟩⟩

/-- The calls that fill the background of the selection. -/
def selectionCalls (view : View α) (metrics : Metrics α) : List (CanvasCall α) :=
  if view.selection.isEmpty then []
  else [.fill (view.selectionRect metrics) view.theme.view.selectionBackground]

/-- The calls that paint what a clip rectangle shows of the content. -/
def paint (view : View α) (metrics : Metrics α) (clip : Rect α) : List (CanvasCall α) :=
  match view.file with
  | none => []
  | some file =>
    match visibleLines clip metrics.spacing file.lineCount with
    | none => []
    | some (first, last) =>
      view.selectionCalls metrics ++
        drawGlyphs none ((lineSpan first last).flatMap (view.lineGlyphs metrics file clip))

end View

end CodeBrowser
