import CodeBrowser.Layout.VisibleLines
import CodeBrowser.Widget.Basic
import CodeBrowser.Widget.Routing

/-!
# A frame of the widget

## Main definitions

* `Widget.arrange`: the arrangement of the widget in a rectangle.
* `Widget.respond`: the widget after it has scrolled and has heard of the pointer.
* `Widget.settleMenu`: the widget after its menu has been shown.
* `Widget.learn`: the widget that knows the widths of what it shows.
* `Widget.frame`: a whole frame.
-/
namespace CodeBrowser

namespace Widget

variable {α : Type} [Scalar α]

/-- The width of the gutter, a whole number of points. -/
def gutterWidth (widget : Widget α) (metrics : Metrics α) : α :=
  if widget.showsNumbers then Scalar.ceil (widget.gutter.sizeHint metrics).x else Scalar.ofNat 0

/-- The arrangement of the widget in a rectangle. -/
def arrange (widget : Widget α) (metrics : Metrics α) (rect : Rect α) : Arrangement α :=
  .ofContent rect (widget.gutterWidth metrics) (widget.view.sizeHint metrics)

/-- The widget after it has scrolled. What it was asked to show is no longer asked for. -/
def follow (widget : Widget α) (arrangement : Arrangement α) (gestures : Gestures α) : Widget α :=
  let (target, view) := widget.view.takeScrollRequest
  let drag := barDragAfter arrangement gestures widget.barDrag
  let scroll := scrollAfter arrangement target drag gestures widget.scroll
  { widget with
    view := view
    barDrag := drag
    scroll := scroll
    origin := some (arrangement.text.min - scroll) }

/-- Where the content starts on the screen. -/
def contentOrigin (widget : Widget α) : Point α := widget.origin.getD .origin

/-- The primary button in a frame. A press starts on the text only if no scrollbar is dragged. -/
def primaryFrame (widget : Widget α) (arrangement : Arrangement α) (gestures : Gestures α) :
    PrimaryFrame α where
  pressed := gestures.primaryPressed
  released := gestures.primaryReleased
  position := gestures.position
  canStart := gestures.position.any arrangement.text.contains && gestures.isHovered
    && widget.barDrag.isNone
  origin := widget.contentOrigin

/-- The widget after the primary button has acted on the text. -/
def route (widget : Widget α) (metrics : Metrics α) (arrangement : Arrangement α)
    (gestures : Gestures α) : Widget α :=
  let state := View.routePrimary metrics ⟨widget.view, widget.pressing⟩
    (widget.primaryFrame arrangement gestures)
  { widget with view := state.view, pressing := state.pressing }

/-- Where a secondary click hit the text. -/
def menuPoint? (arrangement : Arrangement α) (gestures : Gestures α) : Option (Point α) :=
  if gestures.secondaryClicked then gestures.grab.filter arrangement.text.contains else none

/-- The widget after a secondary click on the text, if there was one, has opened the menu. -/
def openMenu (widget : Widget α) (metrics : Metrics α) (arrangement : Arrangement α)
    (gestures : Gestures α) (history : HistoryAvailability) : Widget α :=
  match menuPoint? arrangement gestures with
  | none => widget
  | some point =>
    let point := point - widget.contentOrigin
    let (menu, view) := (widget.view.press metrics point).openMenu metrics point history
    { widget with view := view, menu := some ⟨menu, widget.menu.isSome⟩ }

/-- The widget after it has scrolled and has heard of the pointer. -/
def respond (widget : Widget α) (measurer : Measurer α) (rect : Rect α) (gestures : Gestures α)
    (history : HistoryAvailability) : Widget α :=
  let metrics := widget.metrics measurer
  let arrangement := widget.arrange metrics rect
  ((widget.follow arrangement gestures).route metrics arrangement gestures).openMenu metrics
    arrangement gestures history

/-- The widget without its menu. -/
def closeMenu (widget : Widget α) : Widget α :=
  { widget.mapView View.closeMenu with menu := none }

/-- The widget after its menu has been shown. `wasOpen` tells whether a menu was open before the
frame, and `picked` what the user picked. A click anywhere else closes the menu, and so does, one
frame later, a secondary click on the widget that moves it. -/
def settleMenu (widget : Widget α) (gestures : Gestures α) (wasOpen : Bool)
    (picked : Option MenuAction) : Widget α :=
  match widget.menu with
  | none => widget
  | some menu =>
    match picked with
    | some action => (widget.mapView (·.pick action)).closeMenu
    | none =>
      if gestures.secondaryClicked then
        { widget with menu := some { menu with expires := wasOpen } }
      else if gestures.anyClick || menu.expires then widget.closeMenu
      else widget

/-- The texts that the text area shows, character by character, and the space that makes up tabs. -/
def shownTexts (widget : Widget α) (metrics : Metrics α) (arrangement : Arrangement α) :
    List String :=
  match widget.view.file with
  | none => []
  | some file =>
    let clip := Rect.ofSize widget.scroll arrangement.text.size
    " " :: (visibleLineList clip metrics.spacing file.lineCount).flatMap fun line =>
      ((file.lineText line).filter (· ≠ '\t')).map String.singleton

/-- The widget that knows the widths of what it shows. -/
def learn (widget : Widget α) (measurer : Measurer α) (rect : Rect α) : Widget α :=
  let metrics := widget.metrics measurer
  let texts := widget.shownTexts metrics (widget.arrange metrics rect)
  { widget with
    widths :=
      texts.foldl (fun widths text => (widths.ask measurer widget.font text).cache)
        widget.widths }

/-- A whole frame. -/
def frame (widget : Widget α) (measurer : Measurer α) (rect : Rect α) (gestures : Gestures α)
    (history : HistoryAvailability) (picked : Option MenuAction) : Widget α :=
  ((widget.respond measurer rect gestures history).settleMenu gestures widget.menu.isSome
    picked).learn measurer rect

end Widget

end CodeBrowser
