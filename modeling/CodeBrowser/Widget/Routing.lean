import CodeBrowser.View.Pointer

/-!
# The primary button

## Main definitions

* `PrimaryFrame`: what the primary button does in a frame.
* `View.routePrimary`: passes it on to the view.
* `View.routeAll`: passes on a run of frames.
-/
namespace CodeBrowser

/-- What the primary button does in a frame, in screen coordinates. -/
structure PrimaryFrame (α : Type) where
  pressed : Bool
  released : Bool
  position : Option (Point α)
  /-- Whether a press may start on the text. -/
  canStart : Bool
  /-- Where the content starts on the screen. -/
  origin : Point α

/-- A view, and whether a press on it is going on. -/
structure Pressing (α : Type) where
  view : View α
  pressing : Bool

namespace View

variable {α : Type} [Scalar α]

/-- Passes a press on to the view. -/
def startPress (state : Pressing α) (metrics : Metrics α) (frame : PrimaryFrame α) : Pressing α :=
  match frame.position with
  | some point =>
    if frame.pressed && frame.canStart then
      ⟨state.view.press metrics (point - frame.origin), true⟩
    else state
  | none => state

/-- Passes the frame on to a view on which a press is going on. A release at an unknown place drops
the pressed word. -/
def followPress (view : View α) (metrics : Metrics α) (frame : PrimaryFrame α) : View α :=
  match frame.position with
  | some point =>
    if frame.released then view.release metrics (point - frame.origin)
    else view.move metrics (point - frame.origin)
  | none => if frame.released then view.clearSelection else view

/-- Passes a frame of the primary button on to the view. -/
def routePrimary (metrics : Metrics α) (state : Pressing α) (frame : PrimaryFrame α) : Pressing α :=
  let state := startPress state metrics frame
  if state.pressing then ⟨followPress state.view metrics frame, !frame.released⟩ else state

/-- Passes frames on to the view one after another. -/
def routeAll (metrics : Metrics α) (state : Pressing α) (frames : List (PrimaryFrame α)) :
    Pressing α :=
  frames.foldl (routePrimary metrics) state

end View

end CodeBrowser
