import CodeBrowser.Geometry.Rect

/-!
# Pointer gestures

The events of a frame are read as presses, clicks and drags of the one widget that the window shows.
A press that is released near where it began is a click. A press from which the pointer strays
starts a drag, and never becomes a click.

## Main definitions

* `PointerEvent`: what happens to the pointer.
* `Pointer`: what is remembered of the pointer from frame to frame.
* `Gestures`: what a frame means to the widget.
* `Pointer.frame`: reads the events of a frame.
-/
namespace CodeBrowser

/-- A button of the pointer. -/
inductive Button where
  | primary
  | secondary
  deriving DecidableEq, Repr

/-- What happens to the pointer. -/
inductive PointerEvent (α : Type) where
  | move (point : Point α)
  | press (button : Button) (point : Point α)
  | release (button : Button) (point : Point α)
  /-- The pointer leaves the window. -/
  | gone
  | wheel (delta : Point α)
  deriving DecidableEq, Repr

/-- What is remembered of the pointer from frame to frame. -/
structure Pointer (α : Type) where
  /-- Where the pointer is, if it is in the window. -/
  position : Option (Point α)
  /-- The buttons that are down. -/
  down : List Button
  /-- Where the last press began, until a button is released. -/
  pressOrigin : Option (Point α)
  /-- Whether the pointer has left the neighbourhood of the last press. -/
  strayed : Bool
  /-- Whether a release on the widget could still be a click. -/
  mayClick : Bool
  /-- Whether the widget can be dragged by the press that is going on. -/
  mayDrag : Bool
  isDragging : Bool
  deriving DecidableEq, Repr

/-- What a frame means to the widget. -/
structure Gestures (α : Type) where
  /-- Where the pointer is, or was until it left during the frame. -/
  position : Option (Point α)
  /-- Where the pointer is, if it is in the window. -/
  hover : Option (Point α)
  /-- Where the pointer acts on the widget, if it does. -/
  grab : Option (Point α)
  isHovered : Bool
  primaryPressed : Bool
  primaryReleased : Bool
  primaryClicked : Bool
  secondaryClicked : Bool
  /-- Whether a click ended anywhere in the window. -/
  anyClick : Bool
  dragStarted : Bool
  isDragged : Bool
  dragStopped : Bool
  /-- How far the wheel turned. -/
  wheel : Point α
  deriving DecidableEq, Repr

namespace Pointer

variable {α : Type}

/-- A pointer that has never been seen. -/
def absent : Pointer α := ⟨none, [], none, false, false, false, false⟩

/-- A press or a release, and whether the release ends a click. -/
structure ButtonEvent where
  button : Button
  isPress : Bool
  isClick : Bool
  deriving DecidableEq, Repr

/-- The pointer within a frame: its state, its last known position, the presses and releases so far
and the turns of the wheel. -/
structure Reading (α : Type) where
  pointer : Pointer α
  position : Option (Point α)
  buttons : List ButtonEvent
  wheel : Point α

variable [Scalar α]

/-- The distance from the press that a click may cover. -/
def clickReach : α := Scalar.ofNat 6

/-- Whether a point is too far from a press for a click. -/
def isAway (origin point : Point α) : Bool :=
  let d := point - origin
  clickReach * clickReach < d.x * d.x + d.y * d.y

/-- Reads one event. -/
def Reading.read (reading : Reading α) : PointerEvent α → Reading α
  | .move point =>
    let pointer := reading.pointer
    let strayed := pointer.strayed || pointer.pressOrigin.any (isAway · point)
    { reading with
      pointer := { pointer with position := some point, strayed := strayed }
      position := some point }
  | .press button point =>
    let pointer := reading.pointer
    { reading with
      pointer :=
        { pointer with
          position := some point
          down := button :: pointer.down.filter (· ≠ button)
          pressOrigin := some point
          strayed := false }
      position := some point
      buttons := reading.buttons ++ [⟨button, true, false⟩] }
  | .release button point =>
    let pointer := reading.pointer
    let held := !pointer.down.isEmpty || reading.buttons.any (!·.isPress)
    { reading with
      pointer :=
        { pointer with
          position := some point
          down := pointer.down.filter (· ≠ button)
          pressOrigin := none }
      position := some point
      buttons := reading.buttons ++ [⟨button, false, held && !pointer.strayed⟩] }
  | .gone => { reading with pointer := { reading.pointer with position := none } }
  | .wheel delta => { reading with wheel := reading.wheel + delta }

/-- Lets presses and releases act on a widget. `onWidget` tells whether the pointer is on it. The
second component tells whether the widget was clicked. -/
def actOn (onWidget : Bool) (pointer : Pointer α) (clicked : Bool) :
    List ButtonEvent → Pointer α × Bool
  | [] => (pointer, clicked)
  | event :: rest =>
    if event.isPress then
      actOn onWidget
        { pointer with
          mayClick := pointer.mayClick || onWidget
          mayDrag := pointer.mayDrag || onWidget }
        clicked rest
    else
      actOn onWidget { pointer with mayClick := false, mayDrag := false, isDragging := false }
        (clicked || (event.isClick && pointer.mayClick)) rest

/-- Reads the events of a frame for the widget in `rect`. -/
def frame (pointer : Pointer α) (rect : Rect α) (events : List (PointerEvent α)) :
    Gestures α × Pointer α :=
  let reading := events.foldl Reading.read ⟨pointer, pointer.position, [], .origin⟩
  let buttons := reading.buttons
  let anyDown := !reading.pointer.down.isEmpty
  let anyPress := buttons.any (·.isPress)
  let anyRelease := buttons.any (!·.isPress)
  let couldClick := (anyDown || anyRelease) && !reading.pointer.strayed
  let isDrag := (anyDown || anyRelease) && !anyPress && !couldClick && !buttons.any (·.isClick)
  let onWidget := reading.position.any rect.contains
  let (acted, clicked) := actOn onWidget reading.pointer false buttons
  let isDragging := acted.isDragging || (acted.mayDrag && isDrag)
  let holds := anyDown && reading.pointer.position.isSome
  let next : Pointer α :=
    { acted with
      mayClick := acted.mayClick && couldClick && holds
      mayDrag := acted.mayDrag && holds
      isDragging := isDragging }
  let dragStopped := pointer.isDragging && !isDragging
  let isPressed := (next.mayClick || next.mayDrag) && !anyRelease
  let acts := isPressed || clicked || dragStopped
  let clickedBy (button : Button) : Bool :=
    clicked && buttons.any fun event => event.isClick && event.button == button
  let gestures : Gestures α :=
    { position := reading.position
      hover := reading.pointer.position
      grab := if acts then reading.position else none
      isHovered := (clicked || isDragging || onWidget) && (!anyDown || acts)
      primaryPressed := buttons.any fun event => event.isPress && event.button == .primary
      primaryReleased := buttons.any fun event => !event.isPress && event.button == .primary
      primaryClicked := clickedBy .primary
      secondaryClicked := clickedBy .secondary
      anyClick := buttons.any (·.isClick)
      dragStarted := !pointer.isDragging && isDragging
      isDragged := isDragging && !anyRelease
      dragStopped := dragStopped
      wheel := reading.wheel }
  (gestures, next)

end Pointer

end CodeBrowser
