import CodeBrowser.Layout.Measuring
import CodeBrowser.Paint.Gutter
import CodeBrowser.View.Painting

/-!
# Geometry that measures as it goes

The sizes, points, locations and pictures of the view and of the gutter, computed by walks that ask
for one width after another and leave a line as soon as they can.

## Main definitions

* `View.sizeHintM`, `View.pointOfM`, `View.locationAtM?`, `View.paintM`: the geometry of the view.
* `Gutter.sizeHintM`, `Gutter.paintM`: the geometry of the gutter.
-/
namespace CodeBrowser

variable {α σ : Type} [Scalar α]

namespace View

/-- Walks along a line of a file with the view's margins and tab stops. -/
def walkLine (view : View α) (file : SourceFile) (line : Nat)
    (visit : CharBox α → σ → ForInStep σ) (state : σ) : Measuring α σ :=
  file.walkLine view.margins view.tabStop line visit state

/-- The room for the content, from the width of a space. -/
def sizeHintM (view : View α) (metrics : LineMetrics α) : Measuring α (Point α) :=
  let margins : Point α := ⟨view.margins.horizontal, view.margins.vertical⟩
  match view.file with
  | none => pure margins
  | some file => do
    let space ← Measuring.width " "
    return ⟨Scalar.ofNat view.maxColumns * space, Scalar.ofNat file.lineCount * metrics.spacing⟩
      + margins

/-- Looks for the first character at or after a column, and keeps the right edge so far. -/
def visitForColumn (column : Nat) (box : CharBox α) (_right : α) : ForInStep α :=
  if column ≤ box.column then .done box.left else .yield box.right

/-- The point where a location is shown, by a walk up to the location. -/
def pointOfM (view : View α) (metrics : LineMetrics α) (loc : Location) : Measuring α (Point α) :=
  match view.file with
  | none => pure ⟨view.margins.left, view.margins.top⟩
  | some file =>
    if file.lineCount ≤ loc.line then
      pure ⟨view.margins.left, view.margins.top + Scalar.ofNat file.lineCount * metrics.spacing⟩
    else do
      let layout := file.blankLayout metrics view.margins loc.line
      let x ← view.walkLine file loc.line (visitForColumn loc.column) layout.leftMargin
      return ⟨x, layout.top⟩

/-- Looks for the first character that reaches beyond `x`. -/
def visitForPoint (x : α) (box : CharBox α) (_found : Option Nat) : ForInStep (Option Nat) :=
  if x < box.right then .done (some box.column) else .yield none

/-- The location under a point of a file, by a walk up to the point. -/
def locationInM (view : View α) (metrics : LineMetrics α) (file : SourceFile) (point : Point α) :
    Measuring α Location :=
  if metrics.spacing ≤ Scalar.ofNat 0 then pure ⟨0, 0⟩
  else
    let row := Scalar.floor ((point.y - view.margins.top) / metrics.spacing)
    if row < Scalar.ofNat 0 then pure ⟨0, 0⟩
    else
      let line := Scalar.toNat row
      if file.lineCount ≤ line then pure ⟨file.lineCount, 0⟩
      else do
        let column ← view.walkLine file line (visitForPoint point.x) none
        return ⟨line, column.getD (file.lineLength line)⟩

/-- The location under a point, if there is a file. -/
def locationAtM? (view : View α) (metrics : LineMetrics α) (point : Point α) :
    Measuring α (Option Location) :=
  match view.file with
  | none => pure none
  | some file => do
    let loc ← view.locationInM metrics file point
    return some loc

/-- Collects the characters that a clip rectangle shows, and stops at the first that starts to the
right of it. -/
def visitForGlyphs (view : View α) (layout : LineLayout α) (clip : Rect α) (line : Nat)
    (box : CharBox α) (glyphs : List (Glyph α)) : ForInStep (List (Glyph α)) :=
  if clip.max.x < box.left then .done glyphs
  else if box.right ≤ clip.min.x ∨ box.text.isEmpty then .yield glyphs
  else .yield
    (glyphs ++ [⟨view.charColor layout line box, ⟨box.left, layout.textTop⟩, box.text⟩])

/-- The characters of a line that are drawn, by a walk up to the right edge of the clip
rectangle. -/
def lineGlyphsM (view : View α) (metrics : LineMetrics α) (file : SourceFile) (clip : Rect α)
    (line : Nat) : Measuring α (List (Glyph α)) :=
  let layout := file.blankLayout metrics view.margins line
  view.walkLine file line (view.visitForGlyphs layout clip line) []

/-- The calls that fill the background of the selection, by the walks up to its ends. -/
def selectionCallsM (view : View α) (metrics : LineMetrics α) :
    Measuring α (List (CanvasCall α)) :=
  if view.selection.isEmpty then pure []
  else do
    let start ← view.pointOfM metrics view.selection.start
    let stop ← view.pointOfM metrics view.selection.stop
    let rect : Rect α := ⟨start, ⟨stop.x, start.y + metrics.spacing⟩⟩
    return [.fill rect view.theme.view.selectionBackground]

/-- The calls that paint what a clip rectangle shows of the content, by walks along its lines. -/
def paintM (view : View α) (metrics : LineMetrics α) (clip : Rect α) :
    Measuring α (List (CanvasCall α)) :=
  match view.file with
  | none => pure []
  | some file =>
    match visibleLines clip metrics.spacing file.lineCount with
    | none => pure []
    | some (first, last) => do
      let selection ← view.selectionCallsM metrics
      let glyphs ← (lineSpan first last).mapM (view.lineGlyphsM metrics file clip)
      return selection ++ drawGlyphs none glyphs.flatten

end View

namespace Gutter

/-- The room for the gutter, from the width of a digit. -/
def sizeHintM (gutter : Gutter α) (metrics : LineMetrics α) : Measuring α (Point α) := do
  let digit ← Measuring.width "9"
  return ⟨digit * Scalar.ofNat (digitCount gutter.lineCount),
      metrics.spacing * Scalar.ofNat (max gutter.lineCount 1)⟩
    + ⟨gutter.margins.horizontal, gutter.margins.vertical⟩

/-- The call that draws the label of a line, once that is measured. -/
def labelCallM (gutter : Gutter α) (metrics : LineMetrics α) (width : α) (line : Nat) :
    Measuring α (CanvasCall α) := do
  let room ← Measuring.width (String.ofList (label line))
  return .text
    ⟨width - room - gutter.margins.right,
      gutter.margins.top + Scalar.ofNat line * metrics.spacing + metrics.inset⟩ (label line)

/-- The labels of the lines that a clip rectangle shows, measured one after another. -/
def paintM (gutter : Gutter α) (metrics : LineMetrics α) (clip : Rect α) (width : α)
    (color : Color) : Measuring α (List (CanvasCall α)) :=
  match visibleLines clip metrics.spacing gutter.lineCount with
  | none => pure []
  | some (first, last) => do
    let labels ← (lineSpan first last).mapM (gutter.labelCallM metrics width)
    return .pen color :: labels

end Gutter

end CodeBrowser
