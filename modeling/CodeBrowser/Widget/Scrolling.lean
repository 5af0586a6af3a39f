import CodeBrowser.Scroll.Reveal
import CodeBrowser.Widget.Arrangement
import CodeBrowser.Widget.Pointer

/-!
# Scrolling the widget

In a frame the widget first shows what it was asked to show, then follows the wheel, then the
scrollbars, and last keeps the scroll offset within the content.

## Main definitions

* `barDragAfter`: which scrollbar is dragged after a frame.
* `scrollAfter`: the scroll offset after a frame.
-/
namespace CodeBrowser

variable {α : Type} [Scalar α]

/-- The space that is kept around what is shown on request. -/
def ensureMargin : α := Scalar.ofNat 50

/-- The scroll offset that shows a part of the content in an area of some size. -/
def revealRect (area : Point α) (target : Rect α) (scroll : Point α) : Point α :=
  ⟨reveal scroll.x target.min.x target.max.x area.x ensureMargin,
    reveal scroll.y target.min.y target.max.y area.y ensureMargin⟩

/-- Which scrollbar is dragged after a frame. A drag of the pointer takes hold of the scrollbar
where it starts. -/
def barDragAfter (arrangement : Arrangement α) (gestures : Gestures α) (drag : Option Axis) :
    Option Axis :=
  if gestures.dragStopped then none
  else if gestures.dragStarted then
    match gestures.grab with
    | some point => arrangement.barAt? point
    | none => drag
  else drag

/-- The offset along the axis of a scrollbar: a drag moves the thumb, and so does a click into the
track. -/
def followBar (bar : Scrollbar α) (isDragged : Bool) (gestures : Gestures α) (offset : α) : α :=
  match gestures.grab with
  | some point =>
    if (isDragged && gestures.isDragged) || (gestures.primaryClicked && bar.track.contains point)
    then bar.scrollAt point
    else offset
  | none => offset

/-- The offset along an axis after its scrollbar, if there is one, has been used. -/
def followAxis (arrangement : Arrangement α) (drag : Option Axis) (gestures : Gestures α)
    (axis : Axis) (offset : α) : α :=
  match arrangement.bar? axis with
  | some bar => followBar bar (drag == some axis) gestures offset
  | none => offset

/-- The scroll offset after a frame in which `target` was to be shown and the scrollbar `drag` was
dragged. -/
def scrollAfter (arrangement : Arrangement α) (target : Option (Rect α)) (drag : Option Axis)
    (gestures : Gestures α) (scroll : Point α) : Point α :=
  let scroll :=
    match target with
    | some target => revealRect arrangement.text.size target scroll
    | none => scroll
  let scroll := if gestures.isHovered then scroll - gestures.wheel else scroll
  let scroll : Point α :=
    ⟨followAxis arrangement drag gestures .horizontal scroll.x,
      followAxis arrangement drag gestures .vertical scroll.y⟩
  scroll.clampTo arrangement.maxScroll

end CodeBrowser
