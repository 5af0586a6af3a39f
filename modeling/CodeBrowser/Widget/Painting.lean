import CodeBrowser.View.Painting
import CodeBrowser.Widget.Frame

/-!
# Painting the widget

## Main definitions

* `Shape`: what is drawn on the screen.
* `Shape.ofCalls`: canvas calls as shapes.
* `Widget.shapes`: the shapes of a frame.
-/
namespace CodeBrowser

/-- What is drawn on the screen. -/
inductive Shape (α : Type) where
  | rect (rect : Rect α) (fill : Color)
  | line (start stop : Point α) (color : Color)
  /-- A text with its top left corner at a point. -/
  | text (point : Point α) (text : List Char) (color : Color)
  deriving DecidableEq, Repr

variable {α : Type} [Scalar α]

/-- What canvas calls draw where the content starts at `origin` and the pen has a colour. -/
def Shape.ofCalls (origin : Point α) (pen : Color) : List (CanvasCall α) → List (Shape α)
  | [] => []
  | .fill area color :: rest => .rect (area.translate origin) color :: ofCalls origin pen rest
  | .pen next :: rest => ofCalls origin next rest
  | .text point chars :: rest => .text (point + origin) chars pen :: ofCalls origin pen rest

namespace Scrollbar

/-- The colour of tracks. -/
def trackColor : Color := .rgb 0x0A 0x0A 0x0A

/-- The colour of a thumb. -/
def thumbColor (isDragged isHovered : Bool) : Color :=
  if isDragged then .rgb 0x37 0x37 0x37
  else if isHovered then .rgb 0x46 0x46 0x46
  else .rgb 0x3C 0x3C 0x3C

/-- The track and the thumb. -/
def shapes (bar : Scrollbar α) (scroll : α) (isDragged : Bool) (hover : Option (Point α)) :
    List (Shape α) :=
  let thumb := bar.thumb scroll
  [.rect bar.track trackColor, .rect thumb (thumbColor isDragged (hover.any thumb.contains))]

end Scrollbar

namespace Widget

/-- The text area. -/
def textShapes (widget : Widget α) (metrics : Metrics α) (arrangement : Arrangement α) :
    List (Shape α) :=
  let clip := Rect.ofSize widget.scroll arrangement.text.size
  .rect arrangement.text widget.view.theme.view.background
    :: Shape.ofCalls widget.contentOrigin .black (widget.view.paint metrics clip)

/-- The gutter, if line numbers are shown. -/
def gutterShapes (widget : Widget α) (metrics : Metrics α) (arrangement : Arrangement α) :
    List (Shape α) :=
  if widget.showsNumbers then
    let colors := widget.view.theme.view
    let area := arrangement.gutter
    let origin : Point α := ⟨area.min.x, area.min.y - widget.scroll.y⟩
    let clip := Rect.ofSize ⟨Scalar.ofNat 0, widget.scroll.y⟩ area.size
    let calls := widget.gutter.paint metrics clip (widget.gutterWidth metrics) colors.lineNumber
    .rect area colors.gutterBackground
      :: .line ⟨area.max.x, area.min.y⟩ area.max colors.gutterSeparator
      :: Shape.ofCalls origin .black calls
  else []

/-- The scrollbar of an axis, if there is one. -/
def barShapes (widget : Widget α) (arrangement : Arrangement α) (hover : Option (Point α))
    (axis : Axis) : List (Shape α) :=
  match arrangement.bar? axis with
  | some bar => bar.shapes (widget.scroll.along axis) (widget.barDrag == some axis) hover
  | none => []

/-- The square between two scrollbars. -/
def cornerShapes (arrangement : Arrangement α) : List (Shape α) :=
  if arrangement.vertical.isSome && arrangement.horizontal.isSome then
    [.rect arrangement.corner Scrollbar.trackColor]
  else []

/-- The shapes of a widget that has responded to a frame. -/
def shapes (widget : Widget α) (measurer : Measurer α) (rect : Rect α)
    (hover : Option (Point α)) : List (Shape α) :=
  let metrics := widget.metrics measurer
  let arrangement := widget.arrange metrics rect
  widget.textShapes metrics arrangement ++ widget.gutterShapes metrics arrangement
    ++ widget.barShapes arrangement hover .vertical
    ++ widget.barShapes arrangement hover .horizontal ++ cornerShapes arrangement

end Widget

end CodeBrowser
